import SimpleWebrtc.SdpCodecNegotiator

/-!
# The H264 parameters of an answer

An answer is written in the form which the parser reads, so negotiating it once
more changes nothing. The level is taken from the lower of the two sides; the
constraint bit which tells level 1b from level 1.1 is not.
-/
namespace SimpleWebrtc.H264Answer
open Library Library.Text H264Fmtp SdpCodecNegotiator

/-- A property of bytes may be checked byte by byte. -/
theorem forall_byte {p : UInt8 → Bool}
    (h : (List.range 256).all (fun n => p (UInt8.ofNat n)) = true) (v : UInt8) : p v = true := by
  have hv := List.all_eq_true.mp h v.toNat (List.mem_range.mpr v.toNat_lt)
  rwa [UInt8.ofNat_toNat] at hv

def isPlain (c : UInt8) : Bool :=
  !isSpace c && decide (lowerByte c = c) && decide (c ≠ 59) && decide (c ≠ 61)

theorem isPlain_iff {c : UInt8} :
    isPlain c = true ↔ isSpace c = false ∧ lowerByte c = c ∧ c ≠ 59 ∧ c ≠ 61 := by
  simp [isPlain, and_assoc]

def highDigit (v : UInt8) : UInt8 := (v >>> 4) &&& 0x0f

def lowDigit (v : UInt8) : UInt8 := v &&& 0x0f

/-- The digits of a byte, and what a parser may rely on about them. -/
theorem hexByte_digits (v : UInt8) :
    hexValue (hexDigit (highDigit v)) = some (highDigit v) ∧
      hexValue (hexDigit (lowDigit v)) = some (lowDigit v) ∧
      highDigit v * 16 + lowDigit v = v ∧ isPlain (hexDigit (highDigit v)) = true ∧
      isPlain (hexDigit (lowDigit v)) = true := by
  have hall : (decide (hexValue (hexDigit (highDigit v)) = some (highDigit v)) &&
      decide (hexValue (hexDigit (lowDigit v)) = some (lowDigit v)) &&
      decide (highDigit v * 16 + lowDigit v = v) && isPlain (hexDigit (highDigit v)) &&
      isPlain (hexDigit (lowDigit v))) = true := by
    revert v
    apply forall_byte
    decide +kernel
  simpa only [Bool.and_eq_true, decide_eq_true_eq, and_assoc] using hall

theorem hexByte_eq (v : UInt8) : hexByte v = [hexDigit (highDigit v), hexDigit (lowDigit v)] := rfl

theorem hexByte_plain (v : UInt8) :
    ∀ c ∈ hexByte v, isSpace c = false ∧ lowerByte c = c ∧ c ≠ 59 ∧ c ≠ 61 := by
  obtain ⟨_, _, _, hhigh, hlow⟩ := hexByte_digits v
  intro c hc
  apply isPlain_iff.mp
  rw [hexByte_eq] at hc
  rcases List.mem_cons.mp hc with hc | hc
  · rw [hc, hhigh]
  · rw [List.mem_singleton.mp hc, hlow]

theorem parseHexByte_hexByte (v : UInt8) : parseHexByte (hexByte v) = .ok v := by
  obtain ⟨hhigh, hlow, hsum, _⟩ := hexByte_digits v
  rw [hexByte_eq, parseHexByte, hhigh, hlow]
  exact congrArg Except.ok hsum

def idText (profileIdc profileIop levelIdc : UInt8) : Text :=
  hexByte profileIdc ++ hexByte profileIop ++ hexByte levelIdc

theorem idText_plain (profileIdc profileIop levelIdc : UInt8) :
    ∀ c ∈ idText profileIdc profileIop levelIdc,
      isSpace c = false ∧ lowerByte c = c ∧ c ≠ 59 ∧ c ≠ 61 := by
  intro c hc
  rcases List.mem_append.mp hc with hc | hc
  · rcases List.mem_append.mp hc with hc | hc
    · exact hexByte_plain profileIdc c hc
    · exact hexByte_plain profileIop c hc
  · exact hexByte_plain levelIdc c hc

theorem isHexDigit_hexByte (v : UInt8) : (hexByte v).all isHexDigit = true := by
  obtain ⟨hhigh, hlow, _⟩ := hexByte_digits v
  rw [hexByte_eq]
  simp [isHexDigit, hhigh, hlow]

theorem toLower_eq_self {text : Text} (h : ∀ c ∈ text, lowerByte c = c) : toLower text = text := by
  rw [toLower]
  exact (List.map_congr_left h).trans (List.map_id text)

theorem parseProfileLevelId_idText {profileIdc profileIop : UInt8} (levelIdc : UInt8)
    (h : classifyH264Profile profileIdc profileIop ≠ .unknown) :
    parseProfileLevelId (idText profileIdc profileIop levelIdc) =
      .ok ⟨profileIdc, profileIop, levelIdc, classifyH264Profile profileIdc profileIop,
        idText profileIdc profileIop levelIdc⟩ := by
  have hplain := idText_plain profileIdc profileIop levelIdc
  have htrim : trim isSpace (idText profileIdc profileIop levelIdc) = _ :=
    trim_word fun c hc => (hplain c hc).1
  have hlower := toLower_eq_self fun c hc => (hplain c hc).2.1
  have hlength : (idText profileIdc profileIop levelIdc).length = 6 := rfl
  have hhex : (idText profileIdc profileIop levelIdc).all isHexDigit = true := by
    rw [idText, List.all_append, List.all_append, isHexDigit_hexByte, isHexDigit_hexByte,
      isHexDigit_hexByte]
    rfl
  have hidc : (idText profileIdc profileIop levelIdc).take 2 = hexByte profileIdc := rfl
  have hiop : ((idText profileIdc profileIop levelIdc).drop 2).take 2 = hexByte profileIop := rfl
  have hlevel : ((idText profileIdc profileIop levelIdc).drop 4).take 2 = hexByte levelIdc := rfl
  rw [parseProfileLevelId, htrim, hlower]
  dsimp only
  rw [ensure_pass hlength, ensure_pass hhex, hidc, hiop, hlevel, parseHexByte_hexByte,
    parseHexByte_hexByte, parseHexByte_hexByte, ok_bind, ok_bind, ok_bind, ensure_pass h]
  rfl

/-- An item without white space is handed on with its key in lower case. -/
theorem parseH264Part_item {parameters : H264FmtpParameters} {key value : Text}
    (hkey : ∀ c ∈ key, isSpace c = false ∧ lowerByte c = c ∧ c ≠ 61)
    (hvalue : ∀ c ∈ value, isSpace c = false) :
    parseH264Part parameters (key ++ 61 :: value) =
      if key = ascii "packetization-mode" then
        (parseU8Decimal value).map fun parsed =>
          { parameters with packetizationMode := some parsed }
      else if key = ascii "level-asymmetry-allowed" then
        (parseBoolean01 value).map fun parsed =>
          { parameters with levelAsymmetryAllowed := some parsed }
      else if key = ascii "profile-level-id" then
        (parseProfileLevelId value).map fun parsed =>
          { parameters with profileLevelId := some parsed }
      else .ok parameters := by
  have hall : ∀ c ∈ key ++ 61 :: value, isSpace c = false := by
    intro c hc
    rcases List.mem_append.mp hc with hc | hc
    · exact (hkey c hc).1
    · rcases List.mem_cons.mp hc with hc | hc
      · rw [hc]
        decide
      · exact hvalue c hc
  have hcut : cut (fun c => decide (c = 61)) (key ++ 61 :: value) = some (key, value) :=
    cut_append (fun c hc => decide_eq_false (hkey c hc).2.2) rfl value
  rw [parseH264Part, trim_word hall, hcut]
  simp only [trim_word fun c hc => (hkey c hc).1, trim_word hvalue,
    toLower_eq_self fun c hc => (hkey c hc).2.1]
  rfl

theorem splitOnByte_append {separator : UInt8} {piece : Text} (h : ∀ c ∈ piece, c ≠ separator)
    (rest : Text) :
    splitOnByte separator (piece ++ separator :: rest) = piece :: splitOnByte separator rest :=
  List.splitOnP_append_cons_of_forall_mem (fun c hc => decide_eq_false (h c hc)) separator
    (decide_eq_true rfl) rest

theorem splitOnByte_single {separator : UInt8} {piece : Text} (h : ∀ c ∈ piece, c ≠ separator) :
    splitOnByte separator piece = [piece] :=
  List.splitOnP_eq_singleton fun c hc => decide_eq_false (h c hc)

/-- A profile and level whose text and kind are those of its bytes. -/
structure WellWritten (id : H264ProfileLevelId) : Prop where
  text : id.normalizedValue = idText id.profileIdc id.profileIop id.levelIdc
  kind : id.profile = classifyH264Profile id.profileIdc id.profileIop
  known : id.profile ≠ .unknown

/-- The parameters of an answer are read back as they were written. -/
theorem parseH264Fmtp_makeAnswerFmtp {id : H264ProfileLevelId} (h : WellWritten id)
    (levelAsymmetryAllowed : Bool) :
    parseH264Fmtp (makeAnswerFmtp id 1 levelAsymmetryAllowed) =
      .ok ⟨some 1, some levelAsymmetryAllowed, some id⟩ := by
  have hplain := idText_plain id.profileIdc id.profileIop id.levelIdc
  set flag := ascii (if levelAsymmetryAllowed then "1" else "0") with hflag
  have htext : makeAnswerFmtp id 1 levelAsymmetryAllowed =
      (ascii "level-asymmetry-allowed" ++ 61 :: flag) ++ 59 ::
        ((ascii "packetization-mode" ++ 61 :: ascii "1") ++ 59 ::
          (ascii "profile-level-id" ++ 61 :: idText id.profileIdc id.profileIop id.levelIdc)) := by
    rw [makeAnswerFmtp, h.text, ← hflag]
    have hdecimal : decimal (1 : UInt8).toNat = ascii "1" := by decide +kernel
    rw [hdecimal]
    simp [ascii]
  have hsplit : splitOnByte 59 (makeAnswerFmtp id 1 levelAsymmetryAllowed) =
      [ascii "level-asymmetry-allowed" ++ 61 :: flag,
        ascii "packetization-mode" ++ 61 :: ascii "1",
        ascii "profile-level-id" ++ 61 :: idText id.profileIdc id.profileIop id.levelIdc] := by
    rw [htext, splitOnByte_append, splitOnByte_append, splitOnByte_single]
    · intro c hc
      rcases List.mem_append.mp hc with hc | hc
      · have hkey : ∀ c ∈ ascii "profile-level-id", c ≠ 59 := by decide +kernel
        exact hkey c hc
      · rcases List.mem_cons.mp hc with hc | hc
        · rw [hc]
          decide
        · exact (hplain c hc).2.2.1
    · decide +kernel
    · cases levelAsymmetryAllowed <;> decide +kernel
  have hflagPlain : ∀ c ∈ flag, isSpace c = false := by
    cases levelAsymmetryAllowed <;> decide +kernel
  have hmode : parseU8Decimal (ascii "1") = .ok 1 := by rfl
  have hboolean : parseBoolean01 flag = .ok levelAsymmetryAllowed := by
    cases levelAsymmetryAllowed <;> rfl
  have hid : parseProfileLevelId (idText id.profileIdc id.profileIop id.levelIdc) = .ok id := by
    rw [parseProfileLevelId_idText id.levelIdc (h.kind ▸ h.known), ← h.kind, ← h.text]
  have hfirst := @parseH264Part_item {} (ascii "level-asymmetry-allowed") flag
    (by decide +kernel) hflagPlain
  have hsecond := @parseH264Part_item ⟨none, some levelAsymmetryAllowed, none⟩
    (ascii "packetization-mode") (ascii "1") (by decide +kernel) (by decide +kernel)
  have hthird := @parseH264Part_item ⟨some 1, some levelAsymmetryAllowed, none⟩
    (ascii "profile-level-id") _ (by decide +kernel) fun c hc => (hplain c hc).1
  rw [if_neg (by decide +kernel), if_pos rfl, hboolean] at hfirst
  rw [if_pos rfl, hmode] at hsecond
  rw [if_neg (by decide +kernel), if_neg (by decide +kernel), if_pos rfl, hid] at hthird
  rw [parseH264Fmtp, hsplit, List.foldlM_cons, hfirst]
  simp only [Except.map, ok_bind, List.foldlM_cons, hsecond, hthird, List.foldlM_nil]
  rfl

def localId : H264ProfileLevelId := makeDefaultConstrainedBaselineProfileLevelId

theorem localId_wellWritten : WellWritten localId := by
  constructor
  · decide +kernel
  · rfl
  · exact fun h => H264ProfileKind.noConfusion h

def localParameters : H264FmtpParameters := ⟨some 1, some true, some localId⟩

theorem parseH264Fmtp_local : parseH264Fmtp kLocalH264Fmtp = .ok localParameters := by
  have htext : kLocalH264Fmtp = makeAnswerFmtp localId 1 true := by decide +kernel
  rw [htext]
  exact parseH264Fmtp_makeAnswerFmtp localId_wellWritten true

/-- The profile and level a side asks for, stated or not. -/
def statedId (parameters : H264FmtpParameters) : H264ProfileLevelId :=
  parameters.profileLevelId.getD makeDefaultConstrainedBaselineProfileLevelId

def SupportsMode (parameters : H264FmtpParameters) : Prop :=
  effectivePacketizationModeForAnswer parameters = .ok 1

/-- The answer to an offer with the given parameters. -/
def answerId (offer : H264FmtpParameters) : H264ProfileLevelId :=
  selectAnswerProfileLevelId (statedId offer) localId (levelAsymmetryAllowedEffectiveValue offer)

theorem effectivePacketizationModeForAnswer_ok {parameters : H264FmtpParameters} {mode : UInt8}
    (h : effectivePacketizationModeForAnswer parameters = .ok mode) : mode = 1 := by
  unfold effectivePacketizationModeForAnswer at h
  split at h
  · exact (Except.ok.inj h).symm
  · split_ifs at h
    exact (Except.ok.inj h).symm

theorem negotiate_local {offerFmtp result : Text} :
    negotiateH264FmtpForAnswer offerFmtp kLocalH264Fmtp = .ok result ↔
      ∃ offer, parseH264Fmtp offerFmtp = .ok offer ∧ SupportsMode offer ∧
        profilesAreAnswerCompatible (statedId offer).profile .constrainedBaseline = true ∧
        result = makeAnswerFmtp (answerId offer) 1 (levelAsymmetryAllowedEffectiveValue offer) := by
  have hlocalMode : effectivePacketizationModeForAnswer localParameters = .ok 1 := rfl
  have hasymmetry : ∀ offer, (levelAsymmetryAllowedEffectiveValue offer &&
      levelAsymmetryAllowedEffectiveValue localParameters) =
      levelAsymmetryAllowedEffectiveValue offer := fun offer => Bool.and_true _
  constructor
  · intro h
    obtain ⟨offer, hoffer, h⟩ := bind_ok.mp h
    rw [parseH264Fmtp_local, ok_bind] at h
    obtain ⟨mode, hmode, h⟩ := bind_ok.mp h
    rw [hlocalMode, ok_bind] at h
    obtain ⟨_, h⟩ := ensure_bind_ok.mp h
    obtain ⟨hcompatible, h⟩ := ensure_bind_ok.mp h
    have hone := effectivePacketizationModeForAnswer_ok hmode
    rw [hone] at hmode h
    rw [hasymmetry] at h
    exact ⟨offer, hoffer, hmode, hcompatible, (Except.ok.inj h).symm⟩
  · intro h
    obtain ⟨offer, hoffer, hmode, hcompatible, hresult⟩ := h
    rw [hresult, negotiateH264FmtpForAnswer, hoffer, ok_bind, parseH264Fmtp_local, ok_bind, hmode,
      ok_bind, hlocalMode, ok_bind, ensure_pass rfl]
    dsimp only
    rw [hasymmetry]
    exact ensure_pass hcompatible _

def answerLevel (offer : H264FmtpParameters) : UInt8 :=
  if levelAsymmetryAllowedEffectiveValue offer = false ∧
      levelRank (statedId offer) < levelRank localId then
    (statedId offer).levelIdc
  else 0x1f

/-- An answered profile is the constrained baseline one, whatever the offer asks for. -/
theorem answerId_eq {offer : H264FmtpParameters}
    (h : profilesAreAnswerCompatible (statedId offer).profile .constrainedBaseline = true) :
    answerId offer = ⟨0x42, 0xe0, answerLevel offer, .constrainedBaseline,
      idText 0x42 0xe0 (answerLevel offer)⟩ := by
  have hselected : selectProfile (statedId offer) localId =
      { localId with profile := .constrainedBaseline, profileIdc := 0x42, profileIop := 0xe0 } := by
    have hlocal : localId.profile = .constrainedBaseline := rfl
    cases hkind : (statedId offer).profile with
    | baseline => simp [selectProfile, hkind, hlocal, H264ProfileKind.isBaselineFamily]
    | constrainedBaseline => simp [selectProfile, hkind, hlocal, H264ProfileKind.isBaselineFamily]
    | unknown => exact absurd h (by rw [hkind]; decide)
    | main => exact absurd h (by rw [hkind]; decide)
    | constrainedHigh => exact absurd h (by rw [hkind]; decide)
    | high => exact absurd h (by rw [hkind]; decide)
  rw [answerId, selectAnswerProfileLevelId, hselected]
  rfl

theorem answerId_wellWritten {offer : H264FmtpParameters}
    (h : profilesAreAnswerCompatible (statedId offer).profile .constrainedBaseline = true) :
    WellWritten (answerId offer) := by
  have hkind : classifyH264Profile 0x42 0xe0 = .constrainedBaseline := by decide
  rw [answerId_eq h]
  exact ⟨rfl, hkind.symm, fun h => H264ProfileKind.noConfusion h⟩

theorem levelRank_answerId {offer : H264FmtpParameters}
    (h : profilesAreAnswerCompatible (statedId offer).profile .constrainedBaseline = true) :
    levelRank (answerId offer) = (answerLevel offer).toUInt16 := by
  have hbit : (0xe0 : UInt8) &&& 0x10 = 0 := by decide
  rw [answerId_eq h, levelRank, if_neg]
  intro hlevel1b
  exact hlevel1b.2 hbit

/-- The profile and level id of level 1b: level 1.1 with the third constraint bit. -/
def IsLevel1b (id : H264ProfileLevelId) : Prop := id.levelIdc = 0x0b ∧ id.profileIop &&& 0x10 ≠ 0

theorem levelRank_level1b {id : H264ProfileLevelId} (h : IsLevel1b id) : levelRank id = 9 :=
  if_pos h

theorem levelRank_other {id : H264ProfileLevelId} (h : ¬IsLevel1b id) :
    levelRank id = id.levelIdc.toUInt16 := if_neg h

theorem levelRank_localId : levelRank localId = 31 := by decide

/-- An answer is its own answer. -/
theorem answerLevel_answerId {offer : H264FmtpParameters}
    (h : profilesAreAnswerCompatible (statedId offer).profile .constrainedBaseline = true) :
    answerLevel ⟨some 1, some (levelAsymmetryAllowedEffectiveValue offer), some (answerId offer)⟩ =
      answerLevel offer := by
  have hrank := levelRank_answerId h
  have hlevel : (answerId offer).levelIdc = answerLevel offer := by rw [answerId_eq h]
  have hstated : statedId ⟨some 1, some (levelAsymmetryAllowedEffectiveValue offer),
      some (answerId offer)⟩ = answerId offer := rfl
  have hallowed : levelAsymmetryAllowedEffectiveValue ⟨some 1,
      some (levelAsymmetryAllowedEffectiveValue offer), some (answerId offer)⟩ =
      levelAsymmetryAllowedEffectiveValue offer := rfl
  conv_lhs => rw [answerLevel, hstated, hallowed, hrank, hlevel]
  by_cases hoffer : levelAsymmetryAllowedEffectiveValue offer = false ∧
      levelRank (statedId offer) < levelRank localId
  · have hlow : (answerLevel offer).toUInt16 < levelRank localId := by
      rw [answerLevel, if_pos hoffer]
      by_cases hlevel1b : IsLevel1b (statedId offer)
      · rw [hlevel1b.1]
        decide
      · rw [← levelRank_other hlevel1b]
        exact hoffer.2
    rw [if_pos ⟨hoffer.1, hlow⟩]
  · rw [answerLevel, if_neg hoffer, ite_self]

theorem negotiate_again {offer : H264FmtpParameters}
    (h : profilesAreAnswerCompatible (statedId offer).profile .constrainedBaseline = true) :
    negotiateH264FmtpForAnswer
        (makeAnswerFmtp (answerId offer) 1 (levelAsymmetryAllowedEffectiveValue offer))
        kLocalH264Fmtp =
      .ok (makeAnswerFmtp (answerId offer) 1 (levelAsymmetryAllowedEffectiveValue offer)) := by
  have hprofile : (answerId offer).profile = .constrainedBaseline := by rw [answerId_eq h]
  have hsame : profilesAreAnswerCompatible .constrainedBaseline .constrainedBaseline = true := rfl
  have hcompatible : profilesAreAnswerCompatible (statedId ⟨some 1,
      some (levelAsymmetryAllowedEffectiveValue offer), some (answerId offer)⟩).profile
      .constrainedBaseline = true := by
    change profilesAreAnswerCompatible (answerId offer).profile _ = true
    rw [hprofile, hsame]
  have hanswer : answerId ⟨some 1, some (levelAsymmetryAllowedEffectiveValue offer),
      some (answerId offer)⟩ = answerId offer := by
    rw [answerId_eq hcompatible, answerLevel_answerId h, answerId_eq h]
  rw [negotiate_local]
  refine ⟨_, parseH264Fmtp_makeAnswerFmtp (answerId_wellWritten h) _, rfl, hcompatible, ?_⟩
  rw [hanswer]
  rfl

/-- What an answer owes the two sides: a supported packetization mode, a profile the offer can
take, no level above either side's unless both allow it, and that it can be offered again. -/
structure FaithfulAnswer (offerFmtp localFmtp result : Text) : Prop where
  parameters : ∃ offer localSide answer id, parseH264Fmtp offerFmtp = .ok offer ∧
    parseH264Fmtp localFmtp = .ok localSide ∧ parseH264Fmtp result = .ok answer ∧
    answer.packetizationMode = some 1 ∧ answer.profileLevelId = some id ∧
    profilesAreAnswerCompatible (statedId offer).profile id.profile = true ∧
    (¬(levelAsymmetryAllowedEffectiveValue offer = true ∧
        levelAsymmetryAllowedEffectiveValue localSide = true) →
      levelRank id ≤ levelRank (statedId offer) ∧ levelRank id ≤ levelRank (statedId localSide))
  again : negotiateH264FmtpForAnswer result localFmtp = .ok result

/-- The offer is held to its level, and that is level 1b. -/
def OffersLevel1b (offerFmtp : Text) : Prop :=
  ∃ offer, parseH264Fmtp offerFmtp = .ok offer ∧
    levelAsymmetryAllowedEffectiveValue offer = false ∧ IsLevel1b (statedId offer)

theorem answerLevel_le {offer : H264FmtpParameters}
    (hallowed : levelAsymmetryAllowedEffectiveValue offer = false)
    (h : ¬IsLevel1b (statedId offer)) :
    (answerLevel offer).toUInt16 ≤ levelRank (statedId offer) ∧
      (answerLevel offer).toUInt16 ≤ levelRank localId := by
  by_cases hlow : levelRank (statedId offer) < levelRank localId
  · rw [answerLevel, if_pos ⟨hallowed, hlow⟩, ← levelRank_other h]
    exact ⟨UInt16.le_refl _, UInt16.le_of_lt hlow⟩
  · have hlevel : (0x1f : UInt8).toUInt16 = levelRank localId := by decide
    rw [answerLevel, if_neg fun hboth => hlow hboth.2, hlevel]
    exact ⟨UInt16.not_lt.mp hlow, UInt16.le_refl _⟩

/-- An offer of level 1b is answered with level 1.1, whose constraint bit is not set. -/
theorem not_faithful_of_level1b {offerFmtp result : Text}
    (h : negotiateH264FmtpForAnswer offerFmtp kLocalH264Fmtp = .ok result)
    (hlevel1b : OffersLevel1b offerFmtp) : ¬FaithfulAnswer offerFmtp kLocalH264Fmtp result := by
  intro hfaithful
  obtain ⟨offer, hoffer, _, hcompatible, hresult⟩ := negotiate_local.mp h
  obtain ⟨offer', hoffer', hallowed, hlevel⟩ := hlevel1b
  obtain ⟨offer'', localSide, answer, id, hoffer'', _, hparsed, _, hid, _, hlevels⟩ :=
    hfaithful.parameters
  have hanswer := parseH264Fmtp_makeAnswerFmtp (answerId_wellWritten hcompatible)
    (levelAsymmetryAllowedEffectiveValue offer)
  rw [← hresult] at hanswer
  cases hoffer.symm.trans hoffer'
  cases hoffer.symm.trans hoffer''
  cases hanswer.symm.trans hparsed
  cases hid
  have hle := (hlevels fun hboth => Bool.false_ne_true (hallowed.symm.trans hboth.1)).1
  have hlow : levelRank (statedId offer) < levelRank localId := by
    rw [levelRank_level1b hlevel, levelRank_localId]
    decide
  rw [levelRank_answerId hcompatible, answerLevel, if_pos ⟨hallowed, hlow⟩, hlevel.1,
    levelRank_level1b hlevel] at hle
  exact absurd hle (by decide)

/-- An answer keeps its promises exactly when no offer of level 1b is held to its level. -/
theorem answer_faithful_iff {offerFmtp result : Text}
    (h : negotiateH264FmtpForAnswer offerFmtp kLocalH264Fmtp = .ok result) :
    FaithfulAnswer offerFmtp kLocalH264Fmtp result ↔ ¬OffersLevel1b offerFmtp := by
  constructor
  · intro hfaithful hlevel1b
    exact not_faithful_of_level1b h hlevel1b hfaithful
  · intro hno
    obtain ⟨offer, hoffer, _, hcompatible, hresult⟩ := negotiate_local.mp h
    have hanswer := parseH264Fmtp_makeAnswerFmtp (answerId_wellWritten hcompatible)
      (levelAsymmetryAllowedEffectiveValue offer)
    rw [← hresult] at hanswer
    constructor
    · refine ⟨offer, localParameters, _, answerId offer, hoffer, parseH264Fmtp_local, hanswer, rfl,
        rfl, ?_, ?_⟩
      · rw [answerId_eq hcompatible]
        exact hcompatible
      · intro hboth
        have hallowed : levelAsymmetryAllowedEffectiveValue offer = false := by
          cases hcase : levelAsymmetryAllowedEffectiveValue offer with
          | false => rfl
          | true => exact absurd ⟨hcase, rfl⟩ hboth
        rw [levelRank_answerId hcompatible]
        exact answerLevel_le hallowed fun hlevel => hno ⟨offer, hoffer, hallowed, hlevel⟩
    · rw [hresult]
      exact negotiate_again hcompatible

theorem answer_faithful_local :
    FaithfulAnswer kLocalH264Fmtp kLocalH264Fmtp kLocalH264Fmtp ↔ ¬OffersLevel1b kLocalH264Fmtp :=
  answer_faithful_iff (by rfl)

/-- Level 1b, answered with level 1.1. -/
theorem level1b_answer_raised :
    ¬∀ offerFmtp result, negotiateH264FmtpForAnswer offerFmtp kLocalH264Fmtp = .ok result →
      FaithfulAnswer offerFmtp kLocalH264Fmtp result := by
  intro h
  have hanswer : negotiateH264FmtpForAnswer (ascii "profile-level-id=42f00b") kLocalH264Fmtp =
      .ok (ascii "level-asymmetry-allowed=0;packetization-mode=1;profile-level-id=42e00b") := by
    rfl
  have hlevel1b : OffersLevel1b (ascii "profile-level-id=42f00b") := by
    refine ⟨⟨none, none, some ⟨0x42, 0xf0, 0x0b, .constrainedBaseline, ascii "42f00b"⟩⟩, ?_, rfl,
      ?_⟩
    · rfl
    · exact ⟨rfl, by decide⟩
  exact not_faithful_of_level1b hanswer hlevel1b (h _ _ hanswer)

end SimpleWebrtc.H264Answer
