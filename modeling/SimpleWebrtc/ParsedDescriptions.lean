import SimpleWebrtc.SdpFormatter

/-!
# Descriptions which were parsed

What the parser gives can be written: its attributes fit on a line each and its
sections have a name the parser takes. Written and parsed again it is the same
description, but for the blanks at the end of a key which nothing follows.
-/
namespace SimpleWebrtc.SdpFormatter
open Library Library.Text SdpSummary SdpParser

structure ParsedAttribute (a : SdpAttribute) : Prop where
  printable : PrintableAttribute a
  ends : a.value.rdropWhile isBlank = a.value

structure ParsedMedia (media : MediaDescription) : Prop where
  name : PrintableName media.mediaName
  connection : media.connectionAddress = []
  attributes : ∀ a ∈ media.attributes, ParsedAttribute a

/-- What every description is that the parser gives. -/
structure Parsed (description : SessionDescription) : Prop where
  sessionId : description.sessionId = 0
  sessionVersion : description.sessionVersion = 0
  attributes : ∀ a ∈ description.attributes, ParsedAttribute a
  media : ∀ media ∈ description.mediaDescriptions, ParsedMedia media

theorem Parsed.printable {description : SessionDescription} (h : Parsed description) :
    Printable description where
  attributes a ha := (h.attributes a ha).printable
  media media hmedia :=
    { name := (h.media media hmedia).name
      connection := by
        rw [(h.media media hmedia).connection]
        simp
      attributes := fun a ha => ((h.media media hmedia).attributes a ha).printable }

theorem mem_of_mem_trim {p : UInt8 → Bool} {text : Text} {c : UInt8} (h : c ∈ trim p text) :
    c ∈ text := by
  obtain ⟨before, after, htext, -, -⟩ := trim_decompose p text
  rw [htext]
  exact List.mem_append_left _ (List.mem_append_right _ h)

theorem named_of_trim {p : UInt8 → Bool} {text key rest : Text} (h : trim p text = key ++ rest)
    (hkey : key ≠ []) : ∃ c tail, key = c :: tail ∧ p c = false := by
  obtain ⟨c, tail, rfl⟩ := List.exists_cons_of_ne_nil hkey
  exact ⟨c, tail, rfl, trim_head h⟩

theorem ends_of_trim {p : UInt8 → Bool} {text key rest : Text} {c : UInt8}
    (h : trim p text = key ++ c :: rest) : rest.rdropWhile p = rest := by
  induction rest using List.reverseRecOn with
  | nil => rfl
  | append_singleton init last _ =>
      have htext : trim p text = (key ++ c :: init) ++ [last] := by
        rw [h, List.append_assoc, List.cons_append]
      have hlast : p last = false := trim_last htext
      exact List.rdropWhile_concat_neg p init last (by simp [hlast])

theorem parseAttributeLine_ok {value : Text} {a : SdpAttribute}
    (hvalue : ∀ c ∈ value, isLineBreak c = false) (h : parseAttributeLine value = .ok a) :
    ParsedAttribute a := by
  have hline : ∀ c ∈ trim isBlank value, isLineBreak c = false :=
    fun c hc => hvalue c (mem_of_mem_trim hc)
  have hproperty : trim isBlank value ≠ [] →
      (58 ∉ trim isBlank value ∨ (trim isBlank value).head? = some 58) →
        ParsedAttribute { key := trim isBlank value } := by
    intro hne hcolon
    refine ⟨⟨hline, by simp, ?_, hcolon.imp id fun hfirst => ⟨rfl, hfirst⟩⟩, rfl⟩
    exact named_of_trim (List.append_nil _).symm hne
  unfold parseAttributeLine at h
  simp only at h
  split_ifs at h with hempty
  split at h
  · next hcut =>
      cases h
      refine hproperty hempty (.inl fun hmem => ?_)
      simpa using cut_eq_none hcut 58 hmem
  · next key rest hcut =>
      obtain ⟨c, htext, hc, hkey⟩ := cut_eq_some hcut
      obtain rfl : c = 58 := by simpa using hc
      split_ifs at h with hnone
      · cases h
        refine hproperty hempty (.inr ?_)
        rw [htext, hnone]
        rfl
      · cases h
        rw [htext] at hline
        refine ⟨⟨?_, ?_, named_of_trim htext hnone, .inl fun hmem => ?_⟩, ends_of_trim htext⟩
        · exact fun d hd => hline d (List.mem_append_left _ hd)
        · exact fun d hd => hline d (List.mem_append_right _ (List.mem_cons_of_mem _ hd))
        · simpa using hkey 58 hmem

theorem parsePort_ok {value : Text} {port : Int} (h : parsePort value = .ok port) :
    0 ≤ port ∧ port ≤ 65535 := by
  obtain ⟨parsed, -, h⟩ := bind_ok.mp h
  obtain ⟨hrange, h⟩ := ensure_bind_ok.mp h
  cases h
  exact hrange

theorem parseRangedPort_ok {value : Text} {port : Int} (h : parseRangedPort value = .ok port) :
    0 ≤ port ∧ port ≤ 65535 := by
  have hmapped : ∀ {text : Text} {error : Text} {port : Int},
      (parsePort text).mapError (fun _ => error) = .ok port → 0 ≤ port ∧ port ≤ 65535 := by
    intro text error port hport
    cases hparse : parsePort text with
    | error e =>
        rw [hparse] at hport
        cases hport
    | ok parsed =>
        rw [hparse] at hport
        cases hport
        exact parsePort_ok hparse
  unfold parseRangedPort at h
  dsimp only at h
  split at h
  · exact hmapped h
  · obtain ⟨parsed, hparsed, h⟩ := bind_ok.mp h
    obtain ⟨range, -, h⟩ := bind_ok.mp h
    obtain ⟨-, h⟩ := ensure_bind_ok.mp h
    cases h
    exact hmapped hparsed

theorem parseMediaNameLine_ok {value : Text} {mediaName : MediaNameLine}
    (hvalue : ∀ c ∈ value, isLineBreak c = false) (h : parseMediaNameLine value = .ok mediaName) :
    PrintableName mediaName := by
  have hword : ∀ field ∈ fields isBlank value,
      IsWord isBlank field ∧ ∀ c ∈ field, isLineBreak c = false := by
    intro field hfield
    obtain ⟨hne, hmem⟩ := field_of_mem hfield
    exact ⟨⟨hne, fun c hc => (hmem c hc).1⟩, fun c hc => hvalue c (hmem c hc).2⟩
  unfold parseMediaNameLine at h
  split at h
  · next media portText protocols format formats hfields =>
      obtain ⟨hmedia, h⟩ := ensure_bind_ok.mp h
      obtain ⟨port, hport, h⟩ := bind_ok.mp h
      obtain ⟨_, -, h⟩ := bind_ok.mp h
      cases h
      refine ⟨hmedia, parseRangedPort_ok hport, List.cons_ne_nil _ _, fun other hother => ?_⟩
      refine hword other ?_
      rw [hfields]
      exact List.mem_cons_of_mem _ (List.mem_cons_of_mem _ (List.mem_cons_of_mem _ hother))
  · cases h

theorem parseSessionLevelLine_description {state next : ParserState} {type : SdpLineType}
    {value : Text} (h : parseSessionLevelLine state type value = .ok next) :
    next.description = state.description ∨ ∃ a, parseAttributeLine value = .ok a ∧
      next.description = { state.description with
        attributes := state.description.attributes ++ [a] } := by
  by_cases hattribute : type = .attribute
  · subst hattribute
    obtain ⟨a, ha, h⟩ := bind_ok.mp h
    cases h
    exact .inr ⟨a, ha, rfl⟩
  · refine .inl ?_
    unfold parseSessionLevelLine at h
    split at h
    all_goals
      first
      | cases h; done
      | cases h; rfl
      | exact absurd rfl hattribute
      | obtain ⟨_, _, h⟩ := bind_ok.mp h
        cases h
        rfl
      | obtain ⟨_, _, h⟩ := bind_ok.mp h
        obtain ⟨_, _, h⟩ := bind_ok.mp h
        cases h
        rfl

theorem parseMediaLevelLine_attributes {media next : MediaDescription} {type : SdpLineType}
    {value : Text} (h : parseMediaLevelLine media type value = .ok next) :
    next = media ∨ ∃ a, parseAttributeLine value = .ok a ∧
      next = { media with attributes := media.attributes ++ [a] } := by
  unfold parseMediaLevelLine at h
  split at h
  · cases h
    exact .inl rfl
  · obtain ⟨_, _, h⟩ := bind_ok.mp h
    cases h
    exact .inl rfl
  · obtain ⟨_, _, h⟩ := bind_ok.mp h
    cases h
    exact .inl rfl
  · cases h
    exact .inl rfl
  · obtain ⟨a, ha, h⟩ := bind_ok.mp h
    cases h
    exact .inr ⟨a, ha, rfl⟩
  · cases h

theorem ParsedMedia.next {media next : MediaDescription} {type : SdpLineType} {value : Text}
    (h : ParsedMedia media) (hvalue : ∀ c ∈ value, isLineBreak c = false)
    (hline : parseMediaLevelLine media type value = .ok next) : ParsedMedia next := by
  rcases parseMediaLevelLine_attributes hline with rfl | ⟨a, ha, rfl⟩
  · exact h
  · refine ⟨h.name, h.connection, fun other hother => ?_⟩
    rcases List.mem_append.mp hother with hother | hother
    · exact h.attributes other hother
    · obtain rfl := List.mem_singleton.mp hother
      exact parseAttributeLine_ok hvalue ha

theorem Parsed.next {state next : ParserState} {type : SdpLineType} {value : Text}
    (h : Parsed state.description) (hvalue : ∀ c ∈ value, isLineBreak c = false)
    (hline : parseLine state type value = .ok next) : Parsed next.description := by
  unfold parseLine at hline
  split_ifs at hline with htype
  · obtain ⟨name, hname, hline⟩ := bind_ok.mp hline
    cases hline
    refine ⟨h.sessionId, h.sessionVersion, h.attributes, fun media hmedia => ?_⟩
    rcases List.mem_append.mp hmedia with hmedia | hmedia
    · exact h.media media hmedia
    · obtain rfl := List.mem_singleton.mp hmedia
      exact ⟨parseMediaNameLine_ok hvalue hname, rfl, fun a ha => by cases ha⟩
  · split at hline
    · rcases parseSessionLevelLine_description hline with heq | ⟨a, ha, heq⟩
      · rw [heq]
        exact h
      · rw [heq]
        refine ⟨h.sessionId, h.sessionVersion, fun other hother => ?_, h.media⟩
        rcases List.mem_append.mp hother with hother | hother
        · exact h.attributes other hother
        · obtain rfl := List.mem_singleton.mp hother
          exact parseAttributeLine_ok hvalue ha
    · next media hlast =>
        obtain ⟨_, _, hline⟩ := bind_ok.mp hline
        obtain ⟨changed, hchanged, hline⟩ := bind_ok.mp hline
        cases hline
        have hmem : media ∈ state.description.mediaDescriptions := List.mem_of_getLast? hlast
        refine ⟨h.sessionId, h.sessionVersion, h.attributes, fun other hother => ?_⟩
        rcases List.mem_append.mp hother with hother | hother
        · exact h.media other (List.dropLast_subset _ hother)
        · obtain rfl := List.mem_singleton.mp hother
          exact (h.media media hmem).next hvalue hchanged

theorem Parsed.final {state final : ParserState} {lines : List Text}
    (hrun : ParsesLines state lines final)
    (hlines : ∀ line ∈ lines, ∀ c ∈ line, isLineBreak c = false)
    (h : Parsed state.description) : Parsed final.description := by
  induction hrun with
  | nil state => exact h
  | @cons state next final first value rest line tail ih =>
      refine ih (fun other hother => hlines other (List.mem_cons_of_mem _ hother)) ?_
      refine h.next (fun c hc => ?_) line
      exact hlines _ List.mem_cons_self c (List.mem_cons_of_mem _ (List.mem_cons_of_mem _ hc))

theorem Parsed.of_parse {text : Text} {description : SessionDescription}
    (h : parseSessionDescription text = .ok description) : Parsed description := by
  obtain ⟨state, hstate, h⟩ := bind_ok.mp h
  obtain ⟨_, _, h⟩ := bind_ok.mp h
  cases h
  refine Parsed.final (parseLines_ok (Nat.lt_succ_self _) hstate) ?_ ?_
  · intro line hline c hc
    exact ((field_of_mem hline).2 c hc).1
  · refine ⟨rfl, rfl, ?_, ?_⟩
    · intro a ha
      cases ha
    · intro media hmedia
      cases hmedia

/-- A key which nothing follows loses the blanks at its end. -/
def settleAttribute (a : SdpAttribute) : SdpAttribute :=
  if a.value = [] then { a with key := a.key.rdropWhile isBlank } else a

def settle (description : SessionDescription) : SessionDescription :=
  { description with
    attributes := description.attributes.map settleAttribute
    mediaDescriptions := description.mediaDescriptions.map fun media =>
      { media with attributes := media.attributes.map settleAttribute } }

theorem ParsedAttribute.reread_eq {a : SdpAttribute} (h : ParsedAttribute a) :
    rereadAttribute a = settleAttribute a := by
  unfold rereadAttribute settleAttribute
  split_ifs with hvalue
  · rw [hvalue]
  · rw [h.ends]

theorem Parsed.reread_eq {description : SessionDescription} (h : Parsed description) :
    reread description = settle description := by
  have hmedia : description.mediaDescriptions.map rereadMedia =
      description.mediaDescriptions.map fun media =>
        { media with attributes := media.attributes.map settleAttribute } := by
    refine List.map_congr_left fun media hmedia => ?_
    have hparsed := h.media media hmedia
    rw [rereadMedia, List.map_congr_left fun a ha => (hparsed.attributes a ha).reread_eq,
      ← hparsed.connection]
  rw [reread, settle, hmedia, List.map_congr_left fun a ha => (h.attributes a ha).reread_eq,
    h.sessionId, h.sessionVersion]

theorem settleAttribute_idem (a : SdpAttribute) :
    settleAttribute (settleAttribute a) = settleAttribute a := by
  by_cases hvalue : a.value = []
  · simp [settleAttribute, hvalue, List.rdropWhile_idempotent]
  · simp [settleAttribute, hvalue]

theorem settle_idem (description : SessionDescription) :
    settle (settle description) = settle description := by
  simp [settle, settleAttribute_idem]

/-- What was parsed and written is parsed again, and from then on it stays as it is. -/
theorem parse_format_parse {text : Text} {description : SessionDescription}
    (h : parseSessionDescription text = .ok description) :
    parseSessionDescription (formatSessionDescription description) = .ok (settle description) ∧
      parseSessionDescription (formatSessionDescription (settle description)) =
        .ok (settle description) := by
  have hparsed := Parsed.of_parse h
  have hfirst : parseSessionDescription (formatSessionDescription description) =
      .ok (settle description) := by
    rw [parse_formatSessionDescription hparsed.printable, hparsed.reread_eq]
  have hsettled := Parsed.of_parse hfirst
  refine ⟨hfirst, ?_⟩
  rw [parse_formatSessionDescription hsettled.printable, hsettled.reread_eq, settle_idem]

/-- A description with a blank before a colon which nothing follows. -/
def shortText : Text :=
  ascii "v=0\r\no=- 1 1 IN IP4 0.0.0.0\r\ns=-\r\nt=0 0\r\nm=audio 9 RTP/AVP 0\r\na=mid :\r\n"

theorem parse_format_parse_short : ∃ description,
    parseSessionDescription shortText = .ok description ∧
      parseSessionDescription (formatSessionDescription description) = .ok (settle description) ∧
      parseSessionDescription (formatSessionDescription (settle description)) =
        .ok (settle description) := by
  have hsome : (parseSessionDescription shortText).toOption.isSome = true := by decide +kernel
  obtain ⟨description, hdescription⟩ := Option.isSome_iff_exists.mp hsome
  have hparsed := ok_of_toOption hdescription
  exact ⟨description, hparsed, parse_format_parse hparsed⟩

end SimpleWebrtc.SdpFormatter
