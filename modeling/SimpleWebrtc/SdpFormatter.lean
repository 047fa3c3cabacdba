import SimpleWebrtc.Library.Words
import SimpleWebrtc.SdpParser

/-!
# Session descriptions as text

A description is written as four fixed lines, a line for each attribute of the
session, and for every section its name, its connection and its attributes. The
parser takes the description from them again, without the ids and the addresses,
of which it keeps nothing, and without blanks at the end of an attribute.
-/
namespace SimpleWebrtc.SdpFormatter
open Library Library.Text SdpSummary SdpParser

/-! ## The formatter -/

def appendRawLine (output : Text) (type : UInt8) (value : Text) : Text :=
  output ++ type :: 61 :: (value ++ [13, 10])

def originValue (sessionId sessionVersion : UInt64) : Text :=
  ascii "- " ++ decimal sessionId.toNat ++ ascii " " ++ decimal sessionVersion.toNat ++
    ascii " IN IP4 0.0.0.0"

def appendOrigin (output : Text) (sessionId sessionVersion : UInt64) : Text :=
  appendRawLine output 111 (originValue sessionId sessionVersion)

def connectionValue (address : Text) : Text := ascii "IN IP4 " ++ address

def appendConnection (output address : Text) : Text :=
  appendRawLine output 99 (connectionValue address)

def attributeValue (a : SdpAttribute) : Text :=
  a.key ++ if a.value = [] then [] else 58 :: a.value

def appendAttribute (output : Text) (a : SdpAttribute) : Text :=
  appendRawLine output 97 (attributeValue a)

def appendAttributes (output : Text) (attributes : List SdpAttribute) : Text :=
  attributes.foldl appendAttribute output

def signedDecimal (n : Int) : Text := if n < 0 then 45 :: decimal n.natAbs else decimal n.toNat

def mediaNameValue (mediaName : MediaNameLine) : Text :=
  mediaName.media ++ ascii " " ++ signedDecimal mediaName.port ++ ascii " UDP/TLS/RTP/SAVPF" ++
    mediaName.formats.flatMap fun format => ascii " " ++ format

def appendMediaName (output : Text) (mediaName : MediaNameLine) : Text :=
  appendRawLine output 109 (mediaNameValue mediaName)

def appendMediaDescription (output : Text) (media : MediaDescription) : Text :=
  appendAttributes (appendConnection (appendMediaName output media.mediaName)
    media.connectionAddress) media.attributes

def appendMediaDescriptions (output : Text) (mediaDescriptions : List MediaDescription) : Text :=
  mediaDescriptions.foldl appendMediaDescription output

def formatSessionDescription (description : SessionDescription) : Text :=
  let output := appendRawLine [] 118 (ascii "0")
  let output := appendOrigin output description.sessionId description.sessionVersion
  let output := appendRawLine output 115 (ascii "-")
  let output := appendRawLine output 116 (ascii "0 0")
  let output := appendAttributes output description.attributes
  appendMediaDescriptions output description.mediaDescriptions

/-! ## The lines of a description -/

/-- The text of lines which are given by their types and their values. -/
def textOf (lines : List (UInt8 × Text)) : Text :=
  lines.flatMap fun line => line.1 :: 61 :: (line.2 ++ [13, 10])

def attributeLine (a : SdpAttribute) : UInt8 × Text := (97, attributeValue a)

def mediaLinesOf (media : MediaDescription) : List (UInt8 × Text) :=
  (109, mediaNameValue media.mediaName) :: (99, connectionValue media.connectionAddress) ::
    media.attributes.map attributeLine

def headerLines (description : SessionDescription) : List (UInt8 × Text) :=
  [(118, ascii "0"), (111, originValue description.sessionId description.sessionVersion),
    (115, ascii "-"), (116, ascii "0 0")]

def descriptionLines (description : SessionDescription) : List (UInt8 × Text) :=
  headerLines description ++ description.attributes.map attributeLine ++
    description.mediaDescriptions.flatMap mediaLinesOf

theorem textOf_append (before after : List (UInt8 × Text)) :
    textOf (before ++ after) = textOf before ++ textOf after := List.flatMap_append

theorem appendRawLine_eq (output : Text) (type : UInt8) (value : Text) :
    appendRawLine output type value = output ++ textOf [(type, value)] := by
  simp [appendRawLine, textOf]

theorem appendAttributes_eq (output : Text) (attributes : List SdpAttribute) :
    appendAttributes output attributes = output ++ textOf (attributes.map attributeLine) := by
  induction attributes generalizing output with
  | nil => exact (List.append_nil output).symm
  | cons a attributes ih =>
      have hrest := ih (appendAttribute output a)
      rw [appendAttributes] at hrest ⊢
      have hcons : textOf ((a :: attributes).map attributeLine) =
          textOf [attributeLine a] ++ textOf (attributes.map attributeLine) :=
        textOf_append [attributeLine a] _
      rw [List.foldl_cons, hrest, hcons, appendAttribute, appendRawLine_eq, List.append_assoc]
      rfl

theorem appendMediaDescription_eq (output : Text) (media : MediaDescription) :
    appendMediaDescription output media = output ++ textOf (mediaLinesOf media) := by
  have hlines : mediaLinesOf media = [(109, mediaNameValue media.mediaName)] ++
      [(99, connectionValue media.connectionAddress)] ++ media.attributes.map attributeLine := rfl
  rw [appendMediaDescription, appendAttributes_eq, appendConnection, appendMediaName,
    appendRawLine_eq, appendRawLine_eq, hlines, textOf_append, textOf_append, List.append_assoc,
    List.append_assoc]
  rw [← List.append_assoc (textOf [(109, _)])]

theorem appendMediaDescriptions_eq (output : Text) (mediaDescriptions : List MediaDescription) :
    appendMediaDescriptions output mediaDescriptions =
      output ++ textOf (mediaDescriptions.flatMap mediaLinesOf) := by
  induction mediaDescriptions generalizing output with
  | nil => exact (List.append_nil output).symm
  | cons media mediaDescriptions ih =>
      have hrest := ih (appendMediaDescription output media)
      rw [appendMediaDescriptions] at hrest ⊢
      rw [List.foldl_cons, hrest, appendMediaDescription_eq, List.flatMap_cons, textOf_append,
        List.append_assoc]

theorem formatSessionDescription_lines (description : SessionDescription) :
    formatSessionDescription description = textOf (descriptionLines description) := by
  have hheader : headerLines description = [(118, ascii "0")] ++
      [(111, originValue description.sessionId description.sessionVersion)] ++
      [(115, ascii "-")] ++ [(116, ascii "0 0")] := rfl
  simp only [formatSessionDescription, appendMediaDescriptions_eq, appendAttributes_eq,
    appendOrigin, appendRawLine_eq, descriptionLines, textOf_append, hheader, List.nil_append]

/-! ## The parser on lines -/

/-- A line with no break in it. -/
def IsLine (line : UInt8 × Text) : Prop :=
  isLineBreak line.1 = false ∧ ∀ c ∈ line.2, isLineBreak c = false

def parseEach (state : ParserState) (lines : List (UInt8 × Text)) : Except Text ParserState :=
  lines.foldlM (fun state line => parseLine state (lineType line.1) line.2) state

theorem parseEach_append (state : ParserState) (before after : List (UInt8 × Text)) :
    parseEach state (before ++ after) = parseEach state before >>= (parseEach · after) :=
  List.foldlM_append

theorem takeWhile_line {value rest : Text} (h : ∀ c ∈ value, isLineBreak c = false) :
    (value ++ 13 :: 10 :: rest).takeWhile (fun c => !isLineBreak c) = value ∧
      (value ++ 13 :: 10 :: rest).dropWhile (fun c => !isLineBreak c) = 13 :: 10 :: rest := by
  induction value with
  | nil => exact ⟨rfl, rfl⟩
  | cons c value ih =>
      obtain ⟨htake, hdrop⟩ := ih fun d hd => h d (List.mem_cons_of_mem c hd)
      simp only [List.cons_append, List.takeWhile_cons, List.dropWhile_cons,
        h c List.mem_cons_self, Bool.not_false, if_true, htake, hdrop, and_self]

theorem parseLines_cons {text rest value : Text} {type : UInt8} (hline : IsLine (type, value))
    (fuel : ℕ) (state : ParserState) :
    parseLines (fuel + 1) ⟨text, type :: 61 :: (value ++ 13 :: 10 :: rest)⟩ state =
      parseLine state (lineType type) value >>= parseLines fuel ⟨text, rest⟩ := by
  obtain ⟨htake, hdrop⟩ := @takeWhile_line value rest hline.2
  have hskip : SdpLexer.skipLineBreaks ⟨text, type :: 61 :: (value ++ 13 :: 10 :: rest)⟩ =
      ⟨text, type :: 61 :: (value ++ 13 :: 10 :: rest)⟩ := by
    rw [SdpLexer.skipLineBreaks, List.dropWhile_cons_of_neg (by simp [hline.1])]
  have htype : SdpLexer.readType ⟨text, type :: 61 :: (value ++ 13 :: 10 :: rest)⟩ =
      .ok (type, ⟨text, value ++ 13 :: 10 :: rest⟩) := by
    rw [SdpLexer.readType, List.dropWhile_cons_of_neg (by simp [hline.1])]
    simp
  have hread : SdpLexer.readLine ⟨text, value ++ 13 :: 10 :: rest⟩ = (value, ⟨text, rest⟩) := by
    rw [SdpLexer.readLine, htake, hdrop]
    rfl
  rw [parseLines]
  simp only [hskip, if_neg (List.cons_ne_nil type _), htype, ok_bind, hread]

theorem parseLines_textOf {lines : List (UInt8 × Text)} (hlines : ∀ line ∈ lines, IsLine line)
    {fuel : ℕ} (hfuel : lines.length < fuel) (text : Text) (state : ParserState) :
    parseLines fuel ⟨text, textOf lines⟩ state = parseEach state lines := by
  induction lines generalizing fuel state with
  | nil =>
      obtain ⟨fuel, rfl⟩ := Nat.exists_eq_succ_of_ne_zero (Nat.ne_of_gt hfuel)
      rfl
  | cons line lines ih =>
      obtain ⟨fuel, rfl⟩ := Nat.exists_eq_succ_of_ne_zero (Nat.ne_zero_of_lt hfuel)
      have htext : textOf (line :: lines) =
          line.1 :: 61 :: (line.2 ++ 13 :: 10 :: textOf lines) := by
        simp [textOf]
      have hrest : ∀ next, parseLines fuel ⟨text, textOf lines⟩ next = parseEach next lines :=
        ih (fun line hline => hlines line (List.mem_cons_of_mem _ hline))
          (Nat.lt_of_succ_lt_succ hfuel)
      rw [htext, Nat.succ_eq_add_one, parseLines_cons (hlines line List.mem_cons_self), parseEach,
        List.foldlM_cons]
      exact congrArg _ (funext hrest)

/-! ## What is read of a value -/

theorem fields_word_blank {word : Text} (hword : IsWord isBlank word) (rest : Text) :
    fields isBlank (word ++ 32 :: rest) = word :: fields isBlank rest := by
  rw [fields_append_separator isBlank word rfl, fields_word hword.1 hword.2,
    List.singleton_append]

theorem isWord_decimal (n : ℕ) : IsWord isBlank (decimal n) :=
  ⟨decimal_ne_nil n, fun c hc => isBlank_of_isDigit (isDigit_decimal n c hc)⟩

theorem parseUint64Text_decimal (n : UInt64) (fieldName : Text) :
    parseUint64Text (decimal n.toNat) fieldName = .ok n := by
  have hread := fromChars_decimal n.toNat_lt [] (by simp)
  rw [List.append_nil] at hread
  simp only [parseUint64Text, trim_decimal, if_neg (decimal_ne_nil _), hread, UInt64.ofNat_toNat]

theorem validateOriginLine_written (sessionId sessionVersion : UInt64) :
    validateOriginLine (originValue sessionId sessionVersion) = .ok () := by
  have hvalue : originValue sessionId sessionVersion = [45] ++ 32 :: (decimal sessionId.toNat ++
      32 :: (decimal sessionVersion.toNat ++ 32 :: ascii "IN IP4 0.0.0.0")) := by
    simp [originValue, ascii]
  have hfields : fields isBlank (originValue sessionId sessionVersion) =
      [[45], decimal sessionId.toNat, decimal sessionVersion.toNat, ascii "IN", ascii "IP4",
        ascii "0.0.0.0"] := by
    have htail : fields isBlank (ascii "IN IP4 0.0.0.0") =
        [ascii "IN", ascii "IP4", ascii "0.0.0.0"] := by decide
    rw [hvalue, fields_word_blank ⟨by decide +kernel, by decide +kernel⟩,
      fields_word_blank (isWord_decimal _), fields_word_blank (isWord_decimal _), htail]
  simp only [validateOriginLine, hfields, parseUint64Text_decimal, ok_bind]
  decide

theorem validateConnectionInformationLine_written (address : Text) :
    validateConnectionInformationLine (connectionValue address) = .ok () := by
  have hvalue : connectionValue address = ascii "IN" ++ 32 :: (ascii "IP4" ++ 32 :: address) := rfl
  have hfields : fields isBlank (connectionValue address) =
      ascii "IN" :: ascii "IP4" :: fields isBlank address := by
    rw [hvalue, fields_word_blank ⟨by decide +kernel, by decide +kernel⟩,
      fields_word_blank ⟨by decide +kernel, by decide +kernel⟩]
  simp only [validateConnectionInformationLine, hfields]
  decide

theorem fields_formats {word : Text} {formats : List Text} (hword : IsWord isBlank word)
    (hformats : ∀ format ∈ formats, IsWord isBlank format) :
    fields isBlank (word ++ formats.flatMap fun format => ascii " " ++ format) =
      word :: formats := by
  induction formats generalizing word with
  | nil => rw [List.flatMap_nil, List.append_nil, fields_word hword.1 hword.2]
  | cons format formats ih =>
      have hrest := ih (hformats format List.mem_cons_self)
        fun other hother => hformats other (List.mem_cons_of_mem format hother)
      have hblank : ascii " " = [32] := rfl
      rw [List.flatMap_cons, hblank, List.append_assoc, List.singleton_append,
        fields_word_blank hword]
      exact congrArg _ hrest

theorem parseRangedPort_written {port : Int} (hport : 0 ≤ port ∧ port ≤ 65535) :
    parseRangedPort (signedDecimal port) = .ok port := by
  have htext : signedDecimal port = decimal port.toNat := if_neg (Int.not_lt.mpr hport.1)
  have hhead : (decimal port.toNat).head? ≠ some 45 := by
    intro hhead
    have hdigit := isDigit_decimal port.toNat 45 (List.mem_of_mem_head? hhead)
    cases hdigit
  have hread := @fromChars_decimal port.toNat (2 ^ 31) (by omega) [] (by simp)
  rw [List.append_nil] at hread
  have hsigned : readSigned (2 ^ 31) (decimal port.toNat) = some port := by
    rw [readSigned, if_neg hhead, hread]
    exact congrArg some (Int.toNat_of_nonneg hport.1)
  have hslash : cut (fun c => decide (c = 47)) (decimal port.toNat) = none :=
    cut_none fun c hc => decide_eq_false (isDigit_ne (isDigit_decimal _ c hc) rfl)
  rw [htext, parseRangedPort]
  simp only [hslash]
  rw [parsePort, hsigned]
  simp only [orError, ok_bind]
  rw [ensure_pass hport]
  rfl

/-- A media name the parser can give. -/
structure PrintableName (mediaName : MediaNameLine) : Prop where
  media : mediaName.media ∈ mediaTypes
  port : 0 ≤ mediaName.port ∧ mediaName.port ≤ 65535
  formats_ne : mediaName.formats ≠ []
  formats : ∀ format ∈ mediaName.formats,
    IsWord isBlank format ∧ ∀ c ∈ format, isLineBreak c = false

theorem isWord_mediaType {media : Text} (h : media ∈ mediaTypes) :
    IsWord isBlank media ∧ ∀ c ∈ media, isLineBreak c = false := by
  have hall : ∀ media ∈ mediaTypes, (media ≠ [] ∧ ∀ c ∈ media, isBlank c = false) ∧
      ∀ c ∈ media, isLineBreak c = false := by decide +kernel
  exact hall media h

theorem isWord_signedDecimal {port : Int} (hport : 0 ≤ port) :
    IsWord isBlank (signedDecimal port) := by
  rw [signedDecimal, if_neg (Int.not_lt.mpr hport)]
  exact isWord_decimal _

theorem parseMediaNameLine_written {mediaName : MediaNameLine} (h : PrintableName mediaName) :
    parseMediaNameLine (mediaNameValue mediaName) = .ok mediaName := by
  have hvalue : mediaNameValue mediaName = mediaName.media ++ 32 :: (signedDecimal mediaName.port ++
      32 :: (ascii "UDP/TLS/RTP/SAVPF" ++
        mediaName.formats.flatMap fun format => ascii " " ++ format)) := by
    simp [mediaNameValue, ascii]
  obtain ⟨format, formats, hformats⟩ := List.exists_cons_of_ne_nil h.formats_ne
  have hfields : fields isBlank (mediaNameValue mediaName) =
      mediaName.media :: signedDecimal mediaName.port :: ascii "UDP/TLS/RTP/SAVPF" ::
        format :: formats := by
    rw [hvalue, fields_word_blank (isWord_mediaType h.media).1,
      fields_word_blank (isWord_signedDecimal h.port.1),
      fields_formats ⟨by decide +kernel, by decide +kernel⟩
        fun format hformat => (h.formats format hformat).1,
      hformats]
  have hprotocols :
      validateMediaProtocols (splitOnByte 47 (ascii "UDP/TLS/RTP/SAVPF")) = .ok () := by decide
  rw [parseMediaNameLine, hfields]
  simp only [ensure_pass h.media, parseRangedPort_written h.port, hprotocols, ok_bind, ← hformats]
  rfl

/-! ## Attributes -/

/-- An attribute which can be written on one line and be told apart by its first colon. -/
structure PrintableAttribute (a : SdpAttribute) : Prop where
  key : ∀ c ∈ a.key, isLineBreak c = false
  value : ∀ c ∈ a.value, isLineBreak c = false
  named : ∃ c rest, a.key = c :: rest ∧ isBlank c = false
  colon : 58 ∉ a.key ∨ a.value = [] ∧ a.key.head? = some 58

/-- What the parser makes of a written attribute: the line ends where its last blanks begin. -/
def rereadAttribute (a : SdpAttribute) : SdpAttribute :=
  if a.value = [] then { key := a.key.rdropWhile isBlank }
  else ⟨a.key, a.value.rdropWhile isBlank⟩

theorem parseAttributeLine_property {key : Text}
    (hnamed : ∃ c rest, key = c :: rest ∧ isBlank c = false)
    (hcolon : 58 ∉ key ∨ key.head? = some 58) :
    parseAttributeLine key = .ok { key := key.rdropWhile isBlank } := by
  obtain ⟨c, rest, rfl, hc⟩ := hnamed
  have htrim : trim isBlank (c :: rest) = c :: rest.rdropWhile isBlank := by
    have hgap := @trim_gap_append isBlank [] rest [] c c (by simp [IsGap]) hc hc rfl
    simpa using hgap
  have hdrop : (c :: rest).rdropWhile isBlank = c :: rest.rdropWhile isBlank := by
    rw [← htrim, trim, List.dropWhile_cons_of_neg (by simp [hc])]
  rw [parseAttributeLine, htrim, hdrop]
  simp only [if_neg (List.cons_ne_nil c _)]
  rcases hcolon with hnone | hfirst
  · have hcut : cut (fun c => decide (c = 58)) (c :: rest.rdropWhile isBlank) = none := by
      refine cut_none fun d hd => decide_eq_false ?_
      rintro rfl
      refine hnone ?_
      rw [← hdrop] at hd
      exact (List.rdropWhile_prefix isBlank (c :: rest)).subset hd
    rw [hcut]
  · obtain rfl : c = 58 := by simpa using hfirst
    have hcut : cut (fun c => decide (c = 58)) (58 :: rest.rdropWhile isBlank) =
        some ([], rest.rdropWhile isBlank) := by
      simp [cut]
    rw [hcut]
    rfl

theorem parseAttributeLine_value {key value : Text}
    (hnamed : ∃ c rest, key = c :: rest ∧ isBlank c = false) (hcolon : 58 ∉ key) :
    parseAttributeLine (key ++ 58 :: value) = .ok ⟨key, value.rdropWhile isBlank⟩ := by
  obtain ⟨c, rest, rfl, hc⟩ := hnamed
  have htrim : trim isBlank (c :: rest ++ 58 :: value) =
      c :: rest ++ 58 :: value.rdropWhile isBlank := by
    have hends : (c :: (rest ++ [58])).getLast? = some 58 := by
      rw [← List.cons_append, List.getLast?_concat]
    have hgap := @trim_gap_append isBlank [] value (rest ++ [58]) c 58 (by simp [IsGap]) hc rfl
      hends
    simpa only [List.nil_append, List.cons_append, List.append_assoc, List.singleton_append]
      using hgap
  have hcut : cut (fun c => decide (c = 58)) (c :: rest ++ 58 :: value.rdropWhile isBlank) =
      some (c :: rest, value.rdropWhile isBlank) := by
    refine cut_append (fun d hd => decide_eq_false ?_) rfl _
    rintro rfl
    exact hcolon hd
  rw [parseAttributeLine, htrim, if_neg (by simp), hcut]
  exact if_neg (List.cons_ne_nil c rest)

theorem parseAttributeLine_written {a : SdpAttribute} (h : PrintableAttribute a) :
    parseAttributeLine (attributeValue a) = .ok (rereadAttribute a) := by
  rw [attributeValue, rereadAttribute]
  by_cases hvalue : a.value = []
  · rw [if_pos hvalue, if_pos hvalue, List.append_nil]
    exact parseAttributeLine_property h.named (h.colon.imp id And.right)
  · rw [if_neg hvalue, if_neg hvalue]
    exact parseAttributeLine_value h.named
      (h.colon.resolve_right fun hproperty => hvalue hproperty.1)

/-! ## Descriptions -/

structure PrintableMedia (media : MediaDescription) : Prop where
  name : PrintableName media.mediaName
  connection : ∀ c ∈ media.connectionAddress, isLineBreak c = false
  attributes : ∀ a ∈ media.attributes, PrintableAttribute a

structure Printable (description : SessionDescription) : Prop where
  attributes : ∀ a ∈ description.attributes, PrintableAttribute a
  media : ∀ media ∈ description.mediaDescriptions, PrintableMedia media

def rereadMedia (media : MediaDescription) : MediaDescription where
  mediaName := media.mediaName
  attributes := media.attributes.map rereadAttribute

def reread (description : SessionDescription) : SessionDescription where
  attributes := description.attributes.map rereadAttribute
  mediaDescriptions := description.mediaDescriptions.map rereadMedia

/-! ### Every line is one -/

theorem not_lineBreak_of_isDigit {c : UInt8} (h : isDigit c = true) : isLineBreak c = false := by
  have hfeed : c ≠ 10 := isDigit_ne h rfl
  have hreturn : c ≠ 13 := isDigit_ne h rfl
  simp [isLineBreak, hfeed, hreturn]

theorem isLine_attribute {a : SdpAttribute} (h : PrintableAttribute a) :
    IsLine (attributeLine a) := by
  refine ⟨rfl, fun c hc => ?_⟩
  rcases List.mem_append.mp hc with hc | hc
  · exact h.key c hc
  · split_ifs at hc with hvalue
    · cases hc
    · rcases List.mem_cons.mp hc with rfl | hc
      · rfl
      · exact h.value c hc

theorem isLine_mediaName {mediaName : MediaNameLine} (h : PrintableName mediaName) :
    IsLine (109, mediaNameValue mediaName) := by
  refine ⟨rfl, fun c hc => ?_⟩
  have hprotocol : ∀ c ∈ ascii " UDP/TLS/RTP/SAVPF", isLineBreak c = false := by decide +kernel
  rcases List.mem_append.mp hc with hc | hc
  · rcases List.mem_append.mp hc with hc | hc
    · rcases List.mem_append.mp hc with hc | hc
      · rcases List.mem_append.mp hc with hc | hc
        · exact (isWord_mediaType h.media).2 c hc
        · obtain rfl : c = 32 := by simpa [ascii] using hc
          rfl
      · rw [signedDecimal, if_neg (Int.not_lt.mpr h.port.1)] at hc
        exact not_lineBreak_of_isDigit (isDigit_decimal _ c hc)
    · exact hprotocol c hc
  · obtain ⟨format, hformat, hc⟩ := List.mem_flatMap.mp hc
    rcases List.mem_append.mp hc with hc | hc
    · obtain rfl : c = 32 := by simpa [ascii] using hc
      rfl
    · exact (h.formats format hformat).2 c hc

theorem isLine_connection {address : Text} (h : ∀ c ∈ address, isLineBreak c = false) :
    IsLine (99, connectionValue address) := by
  have hfixed : ∀ c ∈ ascii "IN IP4 ", isLineBreak c = false := by decide +kernel
  refine ⟨rfl, fun c hc => ?_⟩
  rcases List.mem_append.mp hc with hc | hc
  · exact hfixed c hc
  · exact h c hc

theorem isLine_header (description : SessionDescription) :
    ∀ line ∈ headerLines description, IsLine line := by
  have hdigits : ∀ n : UInt64, ∀ c ∈ decimal n.toNat, isLineBreak c = false :=
    fun n c hc => not_lineBreak_of_isDigit (isDigit_decimal _ c hc)
  have horigin : IsLine (111, originValue description.sessionId description.sessionVersion) := by
    have hfirst : ∀ c ∈ ascii "- ", isLineBreak c = false := by decide +kernel
    have hlast : ∀ c ∈ ascii " IN IP4 0.0.0.0", isLineBreak c = false := by decide +kernel
    have hblank : ∀ c ∈ ascii " ", isLineBreak c = false := by decide +kernel
    refine ⟨rfl, ?_⟩
    simp only [originValue, List.forall_mem_append]
    exact ⟨⟨⟨⟨hfirst, hdigits _⟩, hblank⟩, hdigits _⟩, hlast⟩
  intro line hline
  simp only [headerLines, List.mem_cons, List.not_mem_nil, or_false] at hline
  rcases hline with rfl | rfl | rfl | rfl
  · exact ⟨rfl, by decide +kernel⟩
  · exact horigin
  · exact ⟨rfl, by decide +kernel⟩
  · exact ⟨rfl, by decide +kernel⟩

theorem Printable.lines {description : SessionDescription} (h : Printable description) :
    ∀ line ∈ descriptionLines description, IsLine line := by
  intro line hline
  rcases List.mem_append.mp hline with hline | hline
  · rcases List.mem_append.mp hline with hline | hline
    · exact isLine_header description line hline
    · obtain ⟨a, ha, rfl⟩ := List.mem_map.mp hline
      exact isLine_attribute (h.attributes a ha)
  · obtain ⟨media, hmedia, hline⟩ := List.mem_flatMap.mp hline
    have hprintable := h.media media hmedia
    rcases List.mem_cons.mp hline with rfl | hline
    · exact isLine_mediaName hprintable.name
    · rcases List.mem_cons.mp hline with rfl | hline
      · exact isLine_connection hprintable.connection
      · obtain ⟨a, ha, rfl⟩ := List.mem_map.mp hline
        exact isLine_attribute (hprintable.attributes a ha)

/-! ### The lines are read -/

/-- The state after the four lines every description begins with. -/
def headerRead : ParserState where
  hasVersion := true
  hasOrigin := true
  hasSessionName := true
  hasTiming := true

def withAttributes (state : ParserState) (attributes : List SdpAttribute) : ParserState :=
  { state with description := { state.description with attributes := attributes } }

def withSections (state : ParserState) (sections : List MediaDescription) : ParserState :=
  { state with description := { state.description with mediaDescriptions := sections } }

theorem parseEach_cons (state : ParserState) (type : UInt8) (value : Text)
    (lines : List (UInt8 × Text)) :
    parseEach state ((type, value) :: lines) =
      parseLine state (lineType type) value >>= (parseEach · lines) := List.foldlM_cons

theorem parseEach_header (description : SessionDescription) :
    parseEach {} (headerLines description) = .ok headerRead := by
  have hversion : parseLine {} (lineType 118) (ascii "0") = .ok { hasVersion := true } := by decide
  have horigin : parseLine { hasVersion := true } (lineType 111)
      (originValue description.sessionId description.sessionVersion) =
        .ok { hasVersion := true, hasOrigin := true } := by
    have htype : lineType 111 = .origin := by decide
    rw [htype, parseLine, if_neg (by decide)]
    simp only [List.getLast?_nil, parseSessionLevelLine, validateOriginLine_written, ok_bind]
    rfl
  have hname : parseLine { hasVersion := true, hasOrigin := true } (lineType 115) (ascii "-") =
      .ok { hasVersion := true, hasOrigin := true, hasSessionName := true } := by decide
  have htiming : parseLine { hasVersion := true, hasOrigin := true, hasSessionName := true }
      (lineType 116) (ascii "0 0") = .ok headerRead := by decide
  simp only [headerLines, parseEach_cons, hversion, horigin, hname, htiming, ok_bind]
  rfl

theorem parseEach_sessionAttributes {state : ParserState} {attributes : List SdpAttribute}
    (hnone : state.description.mediaDescriptions = [])
    (h : ∀ a ∈ attributes, PrintableAttribute a) :
    parseEach state (attributes.map attributeLine) =
      .ok (withAttributes state
        (state.description.attributes ++ attributes.map rereadAttribute)) := by
  induction attributes generalizing state with
  | nil =>
      rw [List.map_nil, List.map_nil, List.append_nil]
      rfl
  | cons a attributes ih =>
      have hline : parseLine state (lineType 97) (attributeValue a) =
          .ok (withAttributes state (state.description.attributes ++ [rereadAttribute a])) := by
        have htype : lineType 97 = .attribute := by decide
        rw [htype, parseLine, if_neg (by decide), hnone]
        simp only [List.getLast?_nil, parseSessionLevelLine,
          parseAttributeLine_written (h a List.mem_cons_self), ok_bind]
        rfl
      have hrest : parseEach
          (withAttributes state (state.description.attributes ++ [rereadAttribute a]))
          (attributes.map attributeLine) = _ :=
        ih hnone fun other hother => h other (List.mem_cons_of_mem a hother)
      rw [List.map_cons, attributeLine, parseEach_cons, hline, ok_bind, hrest, List.map_cons]
      simp only [withAttributes, List.append_assoc, List.singleton_append]

theorem parseEach_mediaAttributes {state : ParserState} {before : List MediaDescription}
    {media : MediaDescription} {attributes : List SdpAttribute}
    (h : ∀ a ∈ attributes, PrintableAttribute a) :
    parseEach (withSections state (before ++ [media])) (attributes.map attributeLine) =
      .ok (withSections state (before ++ [{ media with
        attributes := media.attributes ++ attributes.map rereadAttribute }])) := by
  induction attributes generalizing media with
  | nil =>
      rw [List.map_nil, List.map_nil, List.append_nil]
      rfl
  | cons a attributes ih =>
      have hline : parseLine (withSections state (before ++ [media])) (lineType 97)
          (attributeValue a) = .ok (withSections state (before ++ [{ media with
            attributes := media.attributes ++ [rereadAttribute a] }])) := by
        have htype : lineType 97 = .attribute := by decide
        rw [htype, parseLine, if_neg (by decide)]
        simp only [withSections, List.getLast?_concat, List.dropLast_concat, parseMediaLevelLine,
          parseAttributeLine_written (h a List.mem_cons_self), ok_bind]
        rfl
      rw [List.map_cons, attributeLine, parseEach_cons, hline, ok_bind,
        ih fun other hother => h other (List.mem_cons_of_mem a hother), List.map_cons]
      simp only [List.append_assoc, List.singleton_append]

theorem parseEach_media {state : ParserState} {before : List MediaDescription}
    {media : MediaDescription} (h : PrintableMedia media) :
    parseEach (withSections state before) (mediaLinesOf media) =
      .ok (withSections state (before ++ [rereadMedia media])) := by
  have hname : parseLine (withSections state before) (lineType 109)
      (mediaNameValue media.mediaName) =
        .ok (withSections state (before ++ [{ mediaName := media.mediaName }])) := by
    have htype : lineType 109 = .media := by decide
    rw [htype, parseLine, if_pos rfl, parseMediaNameLine_written h.name, ok_bind]
    rfl
  have hconnection : parseLine (withSections state (before ++ [{ mediaName := media.mediaName }]))
      (lineType 99) (connectionValue media.connectionAddress) =
        .ok (withSections state (before ++ [{ mediaName := media.mediaName }])) := by
    have htype : lineType 99 = .connection := by decide
    rw [htype, parseLine, if_neg (by decide)]
    simp only [withSections, List.getLast?_concat, List.dropLast_concat, parseMediaLevelLine,
      validateConnectionInformationLine_written, ok_bind]
    rfl
  rw [mediaLinesOf, parseEach_cons, hname, ok_bind, parseEach_cons, hconnection, ok_bind,
    parseEach_mediaAttributes h.attributes]
  rfl

theorem parseEach_sections {state : ParserState} {before sections : List MediaDescription}
    (h : ∀ media ∈ sections, PrintableMedia media) :
    parseEach (withSections state before) (sections.flatMap mediaLinesOf) =
      .ok (withSections state (before ++ sections.map rereadMedia)) := by
  induction sections generalizing before with
  | nil =>
      rw [List.map_nil, List.append_nil]
      rfl
  | cons media sections ih =>
      rw [List.flatMap_cons, parseEach_append, parseEach_media (h media List.mem_cons_self),
        ok_bind, ih fun other hother => h other (List.mem_cons_of_mem media hother), List.map_cons,
        List.append_assoc, List.singleton_append]

theorem parseEach_description {description : SessionDescription} (h : Printable description) :
    parseEach {} (descriptionLines description) =
      .ok { headerRead with description := reread description } := by
  have hattributes : parseEach headerRead (description.attributes.map attributeLine) =
      .ok (withAttributes headerRead (description.attributes.map rereadAttribute)) :=
    parseEach_sessionAttributes rfl h.attributes
  have hsections : parseEach
      (withAttributes headerRead (description.attributes.map rereadAttribute))
      (description.mediaDescriptions.flatMap mediaLinesOf) = _ :=
    @parseEach_sections (withAttributes headerRead (description.attributes.map rereadAttribute))
      [] _ h.media
  rw [descriptionLines, parseEach_append, parseEach_append, parseEach_header, ok_bind, hattributes,
    ok_bind, hsections]
  rfl

theorem length_textOf (lines : List (UInt8 × Text)) : lines.length ≤ (textOf lines).length := by
  induction lines with
  | nil => exact Nat.zero_le _
  | cons line lines ih =>
      have htext : textOf (line :: lines) =
          line.1 :: 61 :: (line.2 ++ [13, 10]) ++ textOf lines := rfl
      rw [htext, List.length_append, List.length_cons, List.length_cons, List.length_cons]
      omega

/-- What was written is read again. -/
theorem parse_formatSessionDescription {description : SessionDescription}
    (h : Printable description) :
    parseSessionDescription (formatSessionDescription description) = .ok (reread description) := by
  have hlines := parseLines_textOf h.lines (Nat.lt_succ_of_le (length_textOf _))
    (textOf (descriptionLines description)) {}
  rw [formatSessionDescription_lines, parseSessionDescription, hlines, parseEach_description h,
    ok_bind]
  rfl

end SimpleWebrtc.SdpFormatter
