import SimpleWebrtc.SdpSummary

/-!
# The parser of session descriptions

A session description is read line by line. A line has a type, which is the
character before `=`, and a value. Lines before the first `m=` line belong to
the session, every `m=` line opens a section, and the lines after it belong to
that section. Of a line which has no part in a description only the form is
checked.
-/
namespace SimpleWebrtc.SdpParser
open Library Library.Text SdpSummary

/-! ## The lexer -/

def isLineBreak (c : UInt8) : Bool := decide (c = 10) || decide (c = 13)

def escapeCharForError (c : UInt8) : Text :=
  if c = 10 then ascii "\\n"
  else if c = 13 then ascii "\\r"
  else if c = 9 then ascii "\\t"
  else if c = 92 then ascii "\\\\"
  else if c = 34 then ascii "\\\""
  else if c = 0 then ascii "\\0"
  else [c]

/-- What is left to read of a text. -/
structure SdpLexer where
  text : Text
  rest : Text

def makeSyntaxError (text : Text) (position : ℕ) : Text :=
  if text = [] then ascii "sdp syntax error at position 0: \"\""
  else
    let position := min position (text.length - 1)
    ascii "sdp syntax error at position " ++ decimal position ++ ascii ": \"" ++
      escapeCharForError ((text[position]?).getD 0) ++ ascii "\""

def SdpLexer.skipLineBreaks (lexer : SdpLexer) : SdpLexer :=
  { lexer with rest := lexer.rest.dropWhile isLineBreak }

/-- A line break is a carriage return, a line feed, or one after the other. -/
def dropLineBreak : Text → Text
  | [] => []
  | c :: rest => if c = 13 ∧ rest.head? = some 10 then rest.tail else rest

def SdpLexer.readLine (lexer : SdpLexer) : Text × SdpLexer :=
  (lexer.rest.takeWhile fun c => !isLineBreak c,
    { lexer with rest := dropLineBreak (lexer.rest.dropWhile fun c => !isLineBreak c) })

def SdpLexer.readType (lexer : SdpLexer) : Except Text (UInt8 × SdpLexer) :=
  match lexer.rest.dropWhile isLineBreak with
  | [] => .error (ascii "unexpected end of sdp")
  | [_] => .error (makeSyntaxError lexer.text (lexer.text.length - 1))
  | first :: second :: rest =>
      if second ≠ 61 then
        .error (makeSyntaxError lexer.text (lexer.text.length - rest.length - 1))
      else .ok (first, { lexer with rest := rest })

/-! ## Numbers -/

/-- A text that is a signed decimal number and nothing else. -/
def readSigned (bound : ℕ) (text : Text) : Option Int :=
  if text.head? = some 45 then
    match fromChars (bound + 1) text.tail with
    | some (value, []) => some (-value)
    | _ => none
  else
    match fromChars bound text with
    | some (value, []) => some value
    | _ => none

def parseUint64Text (value fieldName : Text) : Except Text UInt64 :=
  let value := trim isBlank value
  if value = [] then .error (fieldName ++ ascii " is empty")
  else
    match fromChars (2 ^ 64) value with
    | some (number, []) => .ok (UInt64.ofNat number)
    | _ => .error (fieldName ++ ascii " is invalid")

def parseInt32Text (value fieldName : Text) : Except Text Int :=
  let value := trim isBlank value
  if value = [] then .error (fieldName ++ ascii " is empty")
  else orError (fieldName ++ ascii " is invalid") (readSigned (2 ^ 31) value)

/-- The seconds of the unit a time ends with. -/
def timeUnit (c : UInt8) : Option Int :=
  if c = 100 then some 86400
  else if c = 104 then some 3600
  else if c = 109 then some 60
  else if c = 115 then some 1
  else none

/-- Callers only look at whether there is a result. -/
def parseTimeUnits (value : Text) : Except Text Int := do
  ensure (value ≠ []) (ascii "empty sdp time value")
  let multiplier := value.getLast?.bind timeUnit
  let numberText := if multiplier.isSome then value.dropLast else value
  ensure (numberText ≠ []) (ascii "invalid sdp time value")
  let number ← orError (ascii "invalid sdp time value") (readSigned (2 ^ 63) numberText)
  return number * multiplier.getD 1

def parsePort (value : Text) : Except Text Int := do
  let port ← orError (ascii "invalid port") (readSigned (2 ^ 31) value)
  ensure (0 ≤ port ∧ port ≤ 65535) (ascii "port out of range")
  return port

/-! ## Lines -/

def parseAttributeLine (value : Text) : Except Text SdpAttribute :=
  let value := trim isBlank value
  if value = [] then .error (ascii "empty attribute")
  else
    match cut (fun c => decide (c = 58)) value with
    | none => .ok { key := value }
    | some (key, rest) => if key = [] then .ok { key := value } else .ok ⟨key, rest⟩

def isNetworkType (field : Text) : Bool := decide (field = ascii "IN")

def isAddressType (field : Text) : Bool :=
  decide (field = ascii "IP4") || decide (field = ascii "IP6")

def validateConnectionInformationLine (value : Text) : Except Text Unit :=
  match fields isBlank value with
  | networkType :: addressType :: _ => do
      ensure (isNetworkType networkType = true) (ascii "invalid connection network type")
      ensure (isAddressType addressType = true) (ascii "invalid connection address type")
  | _ => .error (ascii "invalid connection information")

def bandwidthTypes : List Text :=
  [ascii "CT", ascii "AS", ascii "TIAS", ascii "RS", ascii "RR"]

def validateBandwidthLine (value : Text) : Except Text Unit := do
  let (type, bandwidthValue) ← orError (ascii "invalid bandwidth line")
    ((cut (fun c => decide (c = 58)) (trim isBlank value)).filter fun parts =>
      !parts.1.isEmpty && !parts.2.isEmpty)
  ensure ((ascii "X-").isPrefixOf type = true ∨ type ∈ bandwidthTypes)
    (ascii "invalid bandwidth type")
  let _ ← parseUint64Text bandwidthValue (ascii "bandwidth value")
  return ()

def validateTimingLine (value : Text) : Except Text Unit :=
  match fields isBlank value with
  | [start, stop] => do
      let _ ← parseUint64Text start (ascii "timing start time")
      let _ ← parseUint64Text stop (ascii "timing stop time")
      return ()
  | _ => .error (ascii "invalid timing line")

def validateRepeatTimeLine (value : Text) : Except Text Unit :=
  match fields isBlank value with
  | interval :: duration :: offsets => do
      let _ ← (interval :: duration :: offsets).mapM parseTimeUnits
      return ()
  | _ => .error (ascii "invalid repeat time line")

/-- Pairs of an adjustment time and an offset. The number of fields is even here. -/
def validateTimeZones : List Text → Except Text Unit
  | adjustment :: offset :: rest => do
      let _ ← parseUint64Text adjustment (ascii "time zone adjustment time")
      let _ ← parseTimeUnits offset
      validateTimeZones rest
  | _ => .ok ()

def validateTimeZoneLine (value : Text) : Except Text Unit := do
  let zones := fields isBlank value
  ensure (zones ≠ [] ∧ zones.length % 2 = 0) (ascii "invalid time zone line")
  validateTimeZones zones

def parseRangedPort (value : Text) : Except Text Int :=
  let invalid := fun _ => ascii "invalid media port"
  match cut (fun c => decide (c = 47)) value with
  | none => (parsePort value).mapError invalid
  | some (portText, rangeText) => do
      let port ← (parsePort portText).mapError invalid
      let range ← parseInt32Text rangeText (ascii "media port range")
      ensure (0 < range) (ascii "invalid media port range")
      return port

def mediaTypes : List Text :=
  [ascii "audio", ascii "video", ascii "text", ascii "application", ascii "message"]

def mediaProtocols : List Text :=
  [ascii "UDP", ascii "RTP", ascii "AVP", ascii "SAVP", ascii "SAVPF", ascii "TLS", ascii "DTLS",
    ascii "SCTP", ascii "AVPF", ascii "TCP", ascii "MSRP", ascii "BFCP", ascii "UDT", ascii "IX",
    ascii "MRCPv2", ascii "FEC"]

def validateMediaProtocols : List Text → Except Text Unit
  | [] => .ok ()
  | protocol :: rest => do
      ensure (protocol ≠ []) (ascii "invalid media protocol")
      ensure (protocol ∈ mediaProtocols) (ascii "unsupported media protocol")
      validateMediaProtocols rest

def parseMediaNameLine (value : Text) : Except Text MediaNameLine :=
  match fields isBlank value with
  | media :: portText :: protocols :: format :: formats => do
      ensure (media ∈ mediaTypes) (ascii "invalid media type")
      let port ← parseRangedPort portText
      validateMediaProtocols (splitOnByte 47 protocols)
      return { media := media, port := port, formats := format :: formats }
  | _ => .error (ascii "invalid media line")

def validateOriginLine (value : Text) : Except Text Unit :=
  match fields isBlank value with
  | [_, sessionId, sessionVersion, networkType, addressType, _] => do
      let _ ← parseUint64Text sessionId (ascii "origin session id")
      let _ ← parseUint64Text sessionVersion (ascii "origin session version")
      ensure (isNetworkType networkType = true) (ascii "invalid origin network type")
      ensure (isAddressType addressType = true) (ascii "invalid origin address type")
  | _ => .error (ascii "invalid origin line")

/-! ## The parser -/

inductive SdpLineType where
  | version | origin | sessionName | information | uri | email | phone | connection | bandwidth
  | timing | repeatTime | timeZone | encryptionKey | attribute | media | unsupported
deriving Repr, DecidableEq

def lineType (c : UInt8) : SdpLineType :=
  if c = 118 then .version
  else if c = 111 then .origin
  else if c = 115 then .sessionName
  else if c = 105 then .information
  else if c = 117 then .uri
  else if c = 101 then .email
  else if c = 112 then .phone
  else if c = 99 then .connection
  else if c = 98 then .bandwidth
  else if c = 116 then .timing
  else if c = 114 then .repeatTime
  else if c = 122 then .timeZone
  else if c = 107 then .encryptionKey
  else if c = 97 then .attribute
  else if c = 109 then .media
  else .unsupported

structure ParserState where
  description : SessionDescription := {}
  hasVersion : Bool := false
  hasOrigin : Bool := false
  hasSessionName : Bool := false
  hasTiming : Bool := false
deriving Repr, DecidableEq

def parseSessionLevelLine (state : ParserState) (type : SdpLineType) (value : Text) :
    Except Text ParserState :=
  match type with
  | .version => do
      let version ← parseUint64Text value (ascii "sdp version")
      ensure (version = 0) (ascii "unsupported sdp version")
      return { state with hasVersion := true }
  | .origin => do
      validateOriginLine value
      return { state with hasOrigin := true }
  | .sessionName => .ok { state with hasSessionName := true }
  | .information => .ok state
  | .uri => do
      ensure (trim isBlank value ≠ []) (ascii "empty uri line")
      return state
  | .email => .ok state
  | .phone => .ok state
  | .connection => do
      validateConnectionInformationLine value
      return state
  | .bandwidth => do
      validateBandwidthLine value
      return state
  | .timing => do
      validateTimingLine value
      return { state with hasTiming := true }
  | .repeatTime => do
      ensure (state.hasTiming = true) (ascii "repeat time appears before timing")
      validateRepeatTimeLine value
      return state
  | .timeZone => do
      validateTimeZoneLine value
      return state
  | .encryptionKey => .ok state
  | .attribute => do
      let a ← parseAttributeLine value
      return { state with
        description := { state.description with
          attributes := state.description.attributes ++ [a] } }
  | .media => .error (ascii "unsupported session-level sdp line")
  | .unsupported => .error (ascii "unsupported session-level sdp line")

def parseMediaLevelLine (media : MediaDescription) (type : SdpLineType) (value : Text) :
    Except Text MediaDescription :=
  match type with
  | .information => .ok media
  | .connection => do
      validateConnectionInformationLine value
      return media
  | .bandwidth => do
      validateBandwidthLine value
      return media
  | .encryptionKey => .ok media
  | .attribute => do
      let a ← parseAttributeLine value
      return { media with attributes := media.attributes ++ [a] }
  | _ => .error (ascii "unsupported media-level sdp line")

/-- The types of lines which only a session has. -/
def isSessionOnly : SdpLineType → Bool
  | .version | .origin | .sessionName | .uri | .email | .phone | .timing | .repeatTime
  | .timeZone => true
  | _ => false

/-- The current section is the last one. -/
def parseLine (state : ParserState) (type : SdpLineType) (value : Text) :
    Except Text ParserState :=
  if type = .media then do
    let mediaName ← parseMediaNameLine value
    return { state with
      description := { state.description with
        mediaDescriptions :=
          state.description.mediaDescriptions ++ [{ mediaName := mediaName }] } }
  else
    match state.description.mediaDescriptions.getLast? with
    | none => parseSessionLevelLine state type value
    | some media => do
        ensure (isSessionOnly type = false)
          (ascii "session-level line appears after media section")
        let media ← parseMediaLevelLine media type value
        return { state with
          description := { state.description with
            mediaDescriptions := state.description.mediaDescriptions.dropLast ++ [media] } }

/-- Every line takes at least two bytes, so the length of the text is fuel enough. -/
def parseLines : ℕ → SdpLexer → ParserState → Except Text ParserState
  | 0, _, state => .ok state
  | fuel + 1, lexer, state =>
      let lexer := lexer.skipLineBreaks
      if lexer.rest = [] then .ok state
      else do
        let (type, lexer) ← lexer.readType
        let (value, lexer) := lexer.readLine
        let state ← parseLine state (lineType type) value
        parseLines fuel lexer state

def validateRequiredSessionLines (state : ParserState) : Except Text Unit := do
  ensure (state.hasVersion = true) (ascii "missing v= line")
  ensure (state.hasOrigin = true) (ascii "missing o= line")
  ensure (state.hasSessionName = true) (ascii "missing s= line")
  ensure (state.hasTiming = true) (ascii "missing t= line")

def parseSessionDescription (text : Text) : Except Text SessionDescription := do
  let state ← parseLines (text.length + 1) ⟨text, text⟩ {}
  validateRequiredSessionLines state
  return state.description

/-! ## The lines of a text -/

/-- A run of the parser over the lines of a text. -/
inductive ParsesLines : ParserState → List Text → ParserState → Prop where
  | nil (state : ParserState) : ParsesLines state [] state
  | cons {state next final : ParserState} {first : UInt8} {value : Text} {rest : List Text}
      (line : parseLine state (lineType first) value = .ok next)
      (tail : ParsesLines next rest final) :
      ParsesLines state ((first :: 61 :: value) :: rest) final

theorem readType_ok {lexer next : SdpLexer} {type : UInt8}
    (h : lexer.readType = .ok (type, next)) :
    lexer.rest.dropWhile isLineBreak = type :: 61 :: next.rest := by
  unfold SdpLexer.readType at h
  split at h
  · cases h
  · cases h
  · next first second rest hrest =>
      split_ifs at h with hsecond
      cases h
      rw [hrest, not_not.mp hsecond]

theorem head_not_dropped {p : UInt8 → Bool} {text rest : Text} {c : UInt8}
    (h : text.dropWhile p = c :: rest) : p c = false := by
  have hhead := List.head?_dropWhile_not p text
  rw [h] at hhead
  simpa using hhead

theorem fields_dropLineBreak {text : Text} (h : ∀ c ∈ text.head?, isLineBreak c = true) :
    fields isLineBreak (dropLineBreak text) = fields isLineBreak text := by
  cases text with
  | nil => rfl
  | cons c rest =>
      rw [fields_cons_separator isLineBreak (h c rfl), dropLineBreak]
      split_ifs with hpair
      · cases rest with
        | nil => rfl
        | cons d rest =>
            obtain rfl : d = 10 := by simpa using hpair.2
            rw [fields_cons_separator isLineBreak (by decide), List.tail_cons]
      · rfl

theorem dropLineBreak_length (text : Text) : (dropLineBreak text).length ≤ text.length := by
  cases text with
  | nil => exact le_rfl
  | cons c rest =>
      rw [dropLineBreak]
      split_ifs
      · simp only [List.length_tail, List.length_cons]
        omega
      · simp

theorem readLine_length (lexer : SdpLexer) :
    lexer.readLine.2.rest.length ≤ lexer.rest.length :=
  (dropLineBreak_length _).trans (List.dropWhile_sublist _).length_le

/-- A line ends where the next line break is. -/
theorem readLine_lines {first : UInt8} {lexer : SdpLexer} (hfirst : isLineBreak first = false) :
    fields isLineBreak (first :: 61 :: lexer.rest) =
      (first :: 61 :: lexer.readLine.1) :: fields isLineBreak lexer.readLine.2.rest := by
  have hbreak : ∀ c ∈ (lexer.rest.dropWhile fun c => !isLineBreak c).head?,
      isLineBreak c = true := by
    intro c hc
    have hhead := List.head?_dropWhile_not (fun c => !isLineBreak c) lexer.rest
    rw [Option.mem_def.mp hc] at hhead
    simpa using hhead
  have hword : ∀ c ∈ first :: 61 :: lexer.readLine.1, isLineBreak c = false := by
    rw [List.forall_mem_cons, List.forall_mem_cons]
    refine ⟨hfirst, by decide, ?_⟩
    intro c hc
    simpa using List.mem_takeWhile_imp hc
  have hsplit : first :: 61 :: lexer.rest = (first :: 61 :: lexer.readLine.1) ++
      lexer.rest.dropWhile fun c => !isLineBreak c := by
    rw [SdpLexer.readLine, List.cons_append, List.cons_append, List.takeWhile_append_dropWhile]
  rw [hsplit, fields_word_append (List.cons_ne_nil _ _) hword hbreak, SdpLexer.readLine,
    fields_dropLineBreak hbreak]

/-- The parser reads the nonempty lines of the text one after the other, and all of them. -/
theorem parseLines_ok {fuel : ℕ} {lexer : SdpLexer} {state final : ParserState}
    (hfuel : lexer.rest.length < fuel) (h : parseLines fuel lexer state = .ok final) :
    ParsesLines state (fields isLineBreak lexer.rest) final := by
  induction fuel generalizing lexer state with
  | zero => omega
  | succ fuel ih =>
      rw [parseLines] at h
      dsimp only at h
      rw [← fields_dropWhile]
      by_cases hend : lexer.skipLineBreaks.rest = []
      · rw [if_pos hend] at h
        cases h
        have hnone : lexer.rest.dropWhile isLineBreak = [] := hend
        rw [hnone]
        exact .nil final
      · rw [if_neg hend] at h
        obtain ⟨⟨first, afterType⟩, htype, h⟩ := bind_ok.mp h
        obtain ⟨next, hline, h⟩ := bind_ok.mp h
        have hrest := readType_ok htype
        rw [SdpLexer.skipLineBreaks, List.dropWhile_idempotent] at hrest
        rw [hrest, readLine_lines (head_not_dropped hrest)]
        apply ParsesLines.cons hline
        refine ih ?_ h
        have hlength := (List.dropWhile_sublist (l := lexer.rest) isLineBreak).length_le
        have hread := readLine_length afterType
        rw [hrest, List.length_cons, List.length_cons] at hlength
        omega

/-! ## The sections of a text -/

/-- The value of an `m=` line. -/
def mediaLineValue : Text → Option Text
  | first :: _ :: value => if lineType first = .media then some value else none
  | _ => none

/-- The values of the `m=` lines of a text. -/
def mediaLines (text : Text) : List Text :=
  (fields isLineBreak text).filterMap mediaLineValue

theorem parseSessionLevelLine_media {state next : ParserState} {type : SdpLineType} {value : Text}
    (h : parseSessionLevelLine state type value = .ok next) :
    next.description.mediaDescriptions = state.description.mediaDescriptions := by
  unfold parseSessionLevelLine at h
  split at h
  all_goals
    first
    | cases h; done
    | cases h; rfl
    | obtain ⟨_, _, h⟩ := bind_ok.mp h
      cases h
      rfl
    | obtain ⟨_, _, h⟩ := bind_ok.mp h
      obtain ⟨_, _, h⟩ := bind_ok.mp h
      cases h
      rfl

theorem parseMediaLevelLine_name {media next : MediaDescription} {type : SdpLineType}
    {value : Text} (h : parseMediaLevelLine media type value = .ok next) :
    next.mediaName = media.mediaName := by
  unfold parseMediaLevelLine at h
  split at h
  all_goals
    first
    | cases h; done
    | cases h; rfl
    | obtain ⟨_, _, h⟩ := bind_ok.mp h
      cases h
      rfl

def sectionNames (state : ParserState) : List MediaNameLine :=
  state.description.mediaDescriptions.map MediaDescription.mediaName

/-- A line opens a section if it is an `m=` line, and leaves the names of the sections otherwise. -/
theorem parseLine_sections {state next : ParserState} {type : SdpLineType} {value : Text}
    (h : parseLine state type value = .ok next) :
    (type = .media → ∃ name, parseMediaNameLine value = .ok name ∧
      sectionNames next = sectionNames state ++ [name]) ∧
    (type ≠ .media → sectionNames next = sectionNames state) := by
  unfold parseLine at h
  split_ifs at h with htype
  · obtain ⟨name, hname, h⟩ := bind_ok.mp h
    cases h
    refine ⟨fun _ => ⟨name, hname, ?_⟩, fun hne => absurd htype hne⟩
    simp [sectionNames]
  · refine ⟨fun heq => absurd heq htype, fun _ => ?_⟩
    split at h
    · rw [sectionNames, parseSessionLevelLine_media h, sectionNames]
    · next media hlast =>
        obtain ⟨_, _, h⟩ := bind_ok.mp h
        obtain ⟨changed, hchanged, h⟩ := bind_ok.mp h
        cases h
        have hsplit := List.dropLast_append_getLast? media (Option.mem_def.mpr hlast)
        conv_rhs => rw [sectionNames, ← hsplit]
        simp [sectionNames, parseMediaLevelLine_name hchanged]

theorem ParsesLines.sections {state final : ParserState} {lines : List Text}
    (h : ParsesLines state lines final) :
    ∃ names, List.Forall₂ (fun value name => parseMediaNameLine value = .ok name)
        (lines.filterMap mediaLineValue) names ∧
      sectionNames final = sectionNames state ++ names := by
  induction h with
  | nil state => exact ⟨[], .nil, by simp⟩
  | @cons state next final first value rest line tail ih =>
      obtain ⟨names, hnames, heq⟩ := ih
      obtain ⟨hmedia, hother⟩ := parseLine_sections line
      by_cases htype : lineType first = .media
      · obtain ⟨name, hname, hnext⟩ := hmedia htype
        have hvalue : mediaLineValue (first :: 61 :: value) = some value := if_pos htype
        refine ⟨name :: names, ?_, ?_⟩
        · rw [List.filterMap_cons_some hvalue]
          exact .cons hname hnames
        · rw [heq, hnext, List.append_assoc, List.singleton_append]
      · have hvalue : mediaLineValue (first :: 61 :: value) = none := if_neg htype
        refine ⟨names, ?_, ?_⟩
        · rwa [List.filterMap_cons_none hvalue]
        · rw [heq, hother htype]

/-- The sections of a parsed description are the `m=` lines of the text. -/
theorem parseSessionDescription_sections {text : Text} {description : SessionDescription}
    (h : parseSessionDescription text = .ok description) :
    List.Forall₂ (fun value (media : MediaDescription) =>
      parseMediaNameLine value = .ok media.mediaName) (mediaLines text)
      description.mediaDescriptions := by
  obtain ⟨state, hstate, h⟩ := bind_ok.mp h
  obtain ⟨_, _, h⟩ := bind_ok.mp h
  cases h
  obtain ⟨names, hnames, heq⟩ := (parseLines_ok (Nat.lt_succ_self _) hstate).sections
  have hnone : sectionNames {} = [] := rfl
  rw [hnone, List.nil_append] at heq
  rw [← heq] at hnames
  exact (List.forall₂_map_right_iff (f := MediaDescription.mediaName)
    (R := fun value name => parseMediaNameLine value = .ok name)).mp hnames

end SimpleWebrtc.SdpParser
