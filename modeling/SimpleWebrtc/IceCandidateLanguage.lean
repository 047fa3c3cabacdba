import SimpleWebrtc.IceCandidateAcceptance

/-!
# The language of the ICE candidate parser

A text spells at most one line, and it is accepted as a candidate when that line
is in the grammar as the parser reads it. This grammar and the stated one differ
in two places. The parser takes no related port 0, and it takes a host name with
two dots at its end. Whether a line is accepted, and what is read from it, does
not change with the order of its pairs, the letter case of its keywords or the
blanks between its words.
-/
namespace SimpleWebrtc.IceCandidate
open Library Library.Text

/-- No line breaks and not too long. -/
def IsPlain (text : Text) : Prop := text.length ≤ 4096 ∧ ∀ c ∈ text, isLineBreak c = false

instance (text : Text) : Decidable (IsPlain text) := inferInstanceAs (Decidable (_ ∧ _))

/-- The media identifier and the index of a section, of which one may be missing. -/
structure ValidSection (sdpMid : Text) (sdpMlineIndex : ℤ) : Prop where
  size : sdpMid.length ≤ 128
  characters : ∀ c ∈ sdpMid, IsVisible c
  index : -1 ≤ sdpMlineIndex ∧ sdpMlineIndex ≤ 1024
  named : sdpMid ≠ [] ∨ 0 ≤ sdpMlineIndex

section
variable (isIpLiteral : Text → Bool) (text sdpMid : Text) (sdpMlineIndex : ℤ)

/-- The result for a text which is a candidate and not the end of the candidates. -/
def candidateOf : Option RemoteIceCandidate :=
  match makeRemoteIceCandidate isIpLiteral text sdpMid sdpMlineIndex with
  | .ok candidate => if candidate.endOfCandidates then none else some candidate
  | .error _ => none

/-- The parsed address and port of a candidate. -/
def parsedAddress : Option (Text × UInt16) :=
  (candidateOf isIpLiteral text sdpMid sdpMlineIndex).map fun candidate =>
    (candidate.address, candidate.port)

/-- The text is a candidate when it spells a line of the grammar, and the texts
with the same words are read alike. -/
def ReadsItsGrammar : Prop :=
  ((∃ candidate, candidateOf isIpLiteral text sdpMid sdpMlineIndex = some candidate) ↔
      ∃ line : CandidateLine, line.Spells text ∧ line.Grammar isIpLiteral 1 0) ∧
    ∀ (line other : CandidateLine) (otherText : Text), line.Spells text →
      other.Spells otherText → IsPlain otherText → line.SameWords other →
        parsedAddress isIpLiteral otherText sdpMid sdpMlineIndex =
          parsedAddress isIpLiteral text sdpMid sdpMlineIndex

end

/-! ## The text around the words -/

section
variable {text candidate : Text} {line other : CandidateLine}

theorem normalizeCandidateText_ok (hplain : IsPlain text) :
    normalizeCandidateText text = .ok candidate ∧ candidate ≠ [] ↔
      kCandidatePrefix <+: candidate ∧
        (trim isBlank text = candidate ∨ trim isBlank text = ascii "a=" ++ candidate) := by
  have hbreaks : containsLineBreak text = false := by
    unfold containsLineBreak
    rw [List.any_eq_false]
    intro c hc
    simp [hplain.2 c hc]
  have hstarts : ∀ word, startsWith word (ascii "a=candidate:") = true ↔
      ∃ rest, word = ascii "a=" ++ (kCandidatePrefix ++ rest) := by
    intro word
    rw [startsWith, List.isPrefixOf_iff_prefix]
    constructor
    · rintro ⟨rest, hrest⟩
      exact ⟨rest, hrest.symm⟩
    · rintro ⟨rest, hrest⟩
      exact ⟨rest, hrest.symm⟩
  have hsize : text.length ≤ kMaxCandidateSize := hplain.1
  unfold normalizeCandidateText
  rw [ensure_pass hsize, ensure_pass hbreaks]
  generalize trim isBlank text = trimmed
  dsimp only
  constructor
  · rintro ⟨h, hne⟩
    split_ifs at h with hend hbegins
    · exact absurd (pure_ok.mp h) hne
    · obtain ⟨hstart, h⟩ := ensure_bind_ok.mp h
      obtain rfl := pure_ok.mp h
      obtain ⟨rest, rfl⟩ := (hstarts _).mp hbegins
      have hdrop : (ascii "a=" ++ (kCandidatePrefix ++ rest)).drop 2 = kCandidatePrefix ++ rest :=
        rfl
      rw [hdrop]
      exact ⟨List.prefix_append _ _, .inr rfl⟩
    · obtain ⟨hstart, h⟩ := ensure_bind_ok.mp h
      obtain rfl := pure_ok.mp h
      exact ⟨List.isPrefixOf_iff_prefix.mp hstart, .inl rfl⟩
  · rintro ⟨⟨rest, rfl⟩, h⟩
    have hready : startsWith (kCandidatePrefix ++ rest) kCandidatePrefix = true :=
      List.isPrefixOf_iff_prefix.mpr (List.prefix_append _ _)
    cases h with
    | inl h =>
        subst h
        have hend : isEndOfCandidatesText (kCandidatePrefix ++ rest) = false := rfl
        have hstart : startsWith (kCandidatePrefix ++ rest) (ascii "a=candidate:") = false := rfl
        rw [hend, hstart]
        simp only [Bool.false_eq_true, ↓reduceIte]
        rw [ensure_pass hready]
        exact ⟨rfl, by simp [kCandidatePrefix, ascii]⟩
    | inr h =>
        subst h
        have hend : isEndOfCandidatesText (ascii "a=" ++ (kCandidatePrefix ++ rest)) = false := rfl
        have hstart : startsWith (ascii "a=" ++ (kCandidatePrefix ++ rest))
            (ascii "a=candidate:") = true := (hstarts _).mpr ⟨rest, rfl⟩
        have hdrop : (ascii "a=" ++ (kCandidatePrefix ++ rest)).drop 2 =
            kCandidatePrefix ++ rest := rfl
        rw [hend, hstart]
        simp only [Bool.false_eq_true, ↓reduceIte]
        rw [hdrop, ensure_pass hready]
        exact ⟨rfl, by simp [kCandidatePrefix, ascii]⟩

/-- The words of a line are those of the trimmed text. -/
theorem CandidateLine.spells_iff :
    line.Spells text ↔ ∃ candidate, kCandidatePrefix <+: candidate ∧
      (trim isBlank text = candidate ∨ trim isBlank text = ascii "a=" ++ candidate) ∧
        fields isBlank candidate = line.words := by
  constructor
  · rintro ⟨before, start, rest, rfl, hbefore, hstart, ⟨tail, rfl⟩, hwritten⟩
    have hgap : IsGap isBlank (tail.rtakeWhile isBlank) := fun c hc => List.mem_rtakeWhile_imp hc
    have hfields : fields isBlank (kCandidatePrefix ++ tail.rdropWhile isBlank) = line.words := by
      rw [← hwritten.fields_eq, ← fields_append_blank _ hgap, List.append_assoc,
        List.rdropWhile_append_rtakeWhile]
    refine ⟨kCandidatePrefix ++ tail.rdropWhile isBlank, List.prefix_append _ _, ?_, hfields⟩
    cases hstart with
    | inl hstart =>
        subst hstart
        exact .inl (trim_gap_append (ascii "andidate:") 99 58 hbefore rfl rfl rfl)
    | inr hstart =>
        subst hstart
        exact .inr (trim_gap_append (ascii "=candidate:") 97 58 hbefore rfl rfl rfl)
  · rintro ⟨candidate, hbegins, htrim, hfields⟩
    obtain ⟨before, after, htext, hbefore, hafter⟩ := trim_decompose isBlank text
    have hwritten : Written isBlank line.words (candidate ++ after) := by
      rw [written_iff, fields_append_blank _ hafter, hfields]
    have hstart : kCandidatePrefix <+: candidate ++ after :=
      hbegins.trans (List.prefix_append _ _)
    cases htrim with
    | inl htrim =>
        refine ⟨before, [], candidate ++ after, ?_, hbefore, .inl rfl, hstart, hwritten⟩
        rw [htext, htrim, List.nil_append, List.append_assoc]
    | inr htrim =>
        refine ⟨before, ascii "a=", candidate ++ after, ?_, hbefore, .inr rfl, hstart, hwritten⟩
        rw [htext, htrim]
        simp only [List.append_assoc]

/-- A text spells at most one line. -/
theorem CandidateLine.Spells.unique (h : line.Spells text) (h' : other.Spells text) :
    line = other := by
  obtain ⟨first, ⟨rest, rfl⟩, htrim, hwords⟩ := CandidateLine.spells_iff.mp h
  obtain ⟨second, ⟨rest', rfl⟩, htrim', hwords'⟩ := CandidateLine.spells_iff.mp h'
  have hdiffer : ∀ a b : Text, kCandidatePrefix ++ a ≠ ascii "a=" ++ b := by
    intro a b hab
    cases hab
  have hsame : kCandidatePrefix ++ rest = kCandidatePrefix ++ rest' := by
    cases htrim with
    | inl htrim =>
        cases htrim' with
        | inl htrim' => exact htrim.symm.trans htrim'
        | inr htrim' => exact absurd (htrim.symm.trans htrim') (hdiffer _ _)
    | inr htrim =>
        cases htrim' with
        | inl htrim' => exact absurd (htrim'.symm.trans htrim) (hdiffer _ _)
        | inr htrim' => exact List.append_cancel_left (htrim.symm.trans htrim')
  rw [hsame] at hwords
  exact CandidateLine.words_injective (hwords.symm.trans hwords')

theorem ValidSection.checks {sdpMid : Text} {sdpMlineIndex : ℤ}
    (h : ValidSection sdpMid sdpMlineIndex) :
    normalizeSdpMid sdpMid = .ok sdpMid ∧ validateSdpMlineIndex sdpMlineIndex = .ok () ∧
      ¬(sdpMid = [] ∧ sdpMlineIndex < 0) := by
  have hsize : sdpMid.length ≤ kMaxSdpMidSize := h.size
  have hvisible := (visible_iff sdpMid).mpr h.characters
  have hhigh : sdpMlineIndex ≤ kMaxSdpMlineIndex := h.index.2
  refine ⟨?_, ?_, ?_⟩
  · unfold normalizeSdpMid
    rw [ensure_pass hsize, ensure_pass hvisible.1, ensure_pass hvisible.2]
    rfl
  · unfold validateSdpMlineIndex
    rw [ensure_pass h.index.1, ensure_ok]
    exact hhigh
  · rintro ⟨hempty, hnegative⟩
    cases h.named with
    | inl hmid => exact hmid hempty
    | inr hindex => omega

section
variable {isIpLiteral : Text → Bool} {text sdpMid : Text} {sdpMlineIndex : ℤ}
  {line other : CandidateLine}

/-- A text with words is read by reading its words. -/
theorem candidateOf_eq_some (hsection : ValidSection sdpMid sdpMlineIndex)
    {result : RemoteIceCandidate} :
    candidateOf isIpLiteral text sdpMid sdpMlineIndex = some result ↔
      ∃ candidate, (normalizeCandidateText text = .ok candidate ∧ candidate ≠ []) ∧
        parseCandidateFields isIpLiteral candidate { candidate, sdpMid, sdpMlineIndex } =
          .ok result := by
  obtain ⟨hmid, hindex, hnamed⟩ := hsection.checks
  unfold candidateOf makeRemoteIceCandidate
  cases hnormalized : normalizeCandidateText text with
  | error message => simp [bind, Except.bind]
  | ok candidate =>
      rw [hmid, hindex]
      simp only [ok_bind]
      rw [ensure_pass hnamed]
      cases candidate with
      | nil => simp [pure, Except.pure]
      | cons c rest =>
          simp only [List.isEmpty_cons, Bool.false_eq_true, ↓reduceIte]
          constructor
          · intro h
            refine ⟨c :: rest, ⟨rfl, by simp⟩, ?_⟩
            cases hparse : parseCandidateFields isIpLiteral (c :: rest)
                { candidate := c :: rest, sdpMid, sdpMlineIndex } with
            | error message =>
                rw [hparse] at h
                cases h
            | ok parsed =>
                rw [hparse] at h
                dsimp only at h
                split_ifs at h
                exact congrArg Except.ok (Option.some.inj h)
          · rintro ⟨candidate, ⟨hcandidate, _⟩, hparse⟩
            cases hcandidate
            obtain ⟨line, hwords⟩ := exists_line_of_parse hparse
            obtain ⟨_, hresult⟩ := (parseCandidateFields_words hwords).mp hparse
            have hend : result.endOfCandidates = false := by rw [hresult]; rfl
            rw [hparse]
            simp [hend]

theorem line_of_candidate (hplain : IsPlain text) (hsection : ValidSection sdpMid sdpMlineIndex)
    {result : RemoteIceCandidate}
    (h : candidateOf isIpLiteral text sdpMid sdpMlineIndex = some result) :
    ∃ line : CandidateLine, line.Spells text ∧ line.Grammar isIpLiteral 2 1 ∧
      result.address = line.address ∧ result.port = UInt16.ofNat (decimalValue line.port) := by
  obtain ⟨candidate, hnormalized, hparse⟩ := (candidateOf_eq_some hsection).mp h
  obtain ⟨line, hwords⟩ := exists_line_of_parse hparse
  obtain ⟨hbegins, htrim⟩ := (normalizeCandidateText_ok hplain).mp hnormalized
  obtain ⟨hgrammar, rfl⟩ := (parseCandidateFields_words hwords).mp hparse
  exact ⟨line, CandidateLine.spells_iff.mpr ⟨candidate, hbegins, htrim, hwords⟩, hgrammar, rfl,
    rfl⟩

/-- A text is accepted exactly when its line is in the grammar as it is read. -/
theorem candidateOf_line (hplain : IsPlain text) (hsection : ValidSection sdpMid sdpMlineIndex) :
    (∃ result, candidateOf isIpLiteral text sdpMid sdpMlineIndex = some result) ↔
      ∃ line : CandidateLine, line.Spells text ∧ line.Grammar isIpLiteral 2 1 := by
  constructor
  · rintro ⟨result, hresult⟩
    obtain ⟨line, hspells, hgrammar, _⟩ := line_of_candidate hplain hsection hresult
    exact ⟨line, hspells, hgrammar⟩
  · rintro ⟨line, hspells, hgrammar⟩
    obtain ⟨candidate, hbegins, htrim, hwords⟩ := CandidateLine.spells_iff.mp hspells
    have hnormalized := (normalizeCandidateText_ok hplain).mpr ⟨hbegins, htrim⟩
    have hparse : parseCandidateFields isIpLiteral candidate
        { candidate, sdpMid, sdpMlineIndex } = .ok _ :=
      (parseCandidateFields_words hwords).mpr ⟨hgrammar, rfl⟩
    exact ⟨_, (candidateOf_eq_some hsection).mpr ⟨candidate, hnormalized, hparse⟩⟩

/-- The address and the port of an accepted text are those of its line. -/
theorem parsedAddress_line (hplain : IsPlain text) (hsection : ValidSection sdpMid sdpMlineIndex)
    (hspells : line.Spells text) (parsed : Text × UInt16) :
    parsedAddress isIpLiteral text sdpMid sdpMlineIndex = some parsed ↔
      line.Grammar isIpLiteral 2 1 ∧
        parsed = (line.address, UInt16.ofNat (decimalValue line.port)) := by
  have hread : ∀ result, candidateOf isIpLiteral text sdpMid sdpMlineIndex = some result →
      line.Grammar isIpLiteral 2 1 ∧
        (result.address, result.port) =
          (line.address, UInt16.ofNat (decimalValue line.port)) := by
    intro result hresult
    obtain ⟨found, hfound, hgrammar, haddress, hport⟩ :=
      line_of_candidate hplain hsection hresult
    obtain rfl := hfound.unique hspells
    exact ⟨hgrammar, Prod.ext haddress hport⟩
  unfold parsedAddress
  rw [Option.map_eq_some_iff]
  constructor
  · rintro ⟨result, hresult, rfl⟩
    exact hread result hresult
  · rintro ⟨hgrammar, rfl⟩
    obtain ⟨result, hresult⟩ := (candidateOf_line hplain hsection).mpr ⟨line, hspells, hgrammar⟩
    exact ⟨result, hresult, (hread result hresult).2⟩

/-! ## The two grammars -/

theorem mem_pairsNamed {e : Extension} {pair : Text × Text} {pairs : List (Text × Text)} :
    pair ∈ pairsNamed e pairs ↔ pair ∈ pairs ∧ toLower pair.1 = e.name := by
  simp [pairsNamed]

/-- The grammars differ only in what they say about addresses and related ports. -/
theorem CandidateLine.Grammar.change {dots lowestPort dots' lowestPort' : ℕ}
    (h : line.Grammar isIpLiteral dots lowestPort)
    (haddress : IsAddress isIpLiteral dots' line.address)
    (hraddr : ∀ pair ∈ pairsNamed .raddr line.pairs, IsAddress isIpLiteral dots' pair.2)
    (hrport : ∀ pair ∈ pairsNamed .rport line.pairs, IsNumeral lowestPort' 65535 pair.2) :
    line.Grammar isIpLiteral dots' lowestPort' := by
  refine { h with address := haddress, pairs := ?_ }
  intro pair hpair
  have hgrammar := h.pairs pair hpair
  refine { hgrammar with range := ?_ }
  intro e he
  have hallows := hgrammar.range e he
  cases e with
  | raddr => exact hraddr pair (mem_pairsNamed.mpr ⟨hpair, he⟩)
  | rport => exact hrport pair (mem_pairsNamed.mpr ⟨hpair, he⟩)
  | tcptype => exact hallows
  | generation => exact hallows
  | networkId => exact hallows
  | networkCost => exact hallows

theorem CandidateLine.Grammar.raddr {dots lowestPort : ℕ}
    (h : line.Grammar isIpLiteral dots lowestPort) {pair : Text × Text}
    (hpair : pair ∈ pairsNamed .raddr line.pairs) : IsAddress isIpLiteral dots pair.2 := by
  obtain ⟨hmem, hname⟩ := mem_pairsNamed.mp hpair
  exact (h.pairs pair hmem).range .raddr hname

theorem CandidateLine.Grammar.rport {dots lowestPort : ℕ}
    (h : line.Grammar isIpLiteral dots lowestPort) {pair : Text × Text}
    (hpair : pair ∈ pairsNamed .rport line.pairs) : IsNumeral lowestPort 65535 pair.2 := by
  obtain ⟨hmem, hname⟩ := mem_pairsNamed.mp hpair
  exact (h.pairs pair hmem).range .rport hname

/-- The stated grammar leaves out the doubled dots. -/
theorem CandidateLine.grammar_stated :
    line.Grammar isIpLiteral 1 0 ↔
      line.Grammar isIpLiteral 2 0 ∧ ¬line.HasDoubledDot isIpLiteral := by
  constructor
  · intro h
    constructor
    · exact h.change (isAddress_one_iff.mp h.address).1
        (fun pair hpair => (isAddress_one_iff.mp (h.raddr hpair)).1) fun pair hpair => h.rport hpair
    · rintro ⟨address, hplace, hdots⟩
      cases hplace with
      | inl hline =>
          rw [hline] at hdots
          exact (isAddress_one_iff.mp h.address).2 hdots
      | inr hpair =>
          obtain ⟨pair, hpair, hvalue⟩ := hpair
          rw [hvalue] at hdots
          exact (isAddress_one_iff.mp (h.raddr hpair)).2 hdots
  · rintro ⟨h, hdots⟩
    refine h.change ?_ ?_ fun pair hpair => h.rport hpair
    · exact isAddress_one_iff.mpr ⟨h.address, fun hends => hdots ⟨_, .inl rfl, hends⟩⟩
    · intro pair hpair
      refine isAddress_one_iff.mpr ⟨h.raddr hpair, fun hends => hdots ?_⟩
      exact ⟨_, .inr ⟨pair, hpair, rfl⟩, hends⟩

/-- The parser's grammar leaves out the related port 0. -/
theorem CandidateLine.grammar_read :
    line.Grammar isIpLiteral 2 1 ↔ line.Grammar isIpLiteral 2 0 ∧ ¬line.HasZeroRelatedPort := by
  constructor
  · intro h
    constructor
    · refine h.change h.address (fun pair hpair => h.raddr hpair) ?_
      intro pair hpair
      obtain ⟨hne, hdigits, _, hhigh⟩ := h.rport hpair
      exact ⟨hne, hdigits, Nat.zero_le _, hhigh⟩
    · rintro ⟨pair, hpair, hzero⟩
      have hlow := (h.rport hpair).2.2.1
      omega
  · rintro ⟨h, hzero⟩
    refine h.change h.address (fun pair hpair => h.raddr hpair) ?_
    intro pair hpair
    obtain ⟨hne, hdigits, _, hhigh⟩ := h.rport hpair
    refine ⟨hne, hdigits, ?_, hhigh⟩
    by_contra hlow
    exact hzero ⟨pair, hpair, by omega⟩

/-! ## The same words -/

theorem lowerByte_toNat (c : UInt8) :
    (lowerByte c).toNat = if 65 ≤ c.toNat ∧ c.toNat ≤ 90 then c.toNat + 32 else c.toNat := by
  unfold lowerByte
  simp only [UInt8.le_iff_toNat_le, UInt8.reduceToNat]
  split
  case isTrue h =>
    rw [UInt8.toNat_add]
    simp only [UInt8.reduceToNat]
    omega
  case isFalse => rfl

theorem isVisible_lowerByte (c : UInt8) : IsVisible (lowerByte c) ↔ IsVisible c := by
  have hvisible : ∀ d : UInt8, IsVisible d ↔ 33 ≤ d.toNat ∧ d.toNat ≠ 127 := by
    intro d
    simp only [IsVisible, isControl, Bool.or_eq_false_iff, decide_eq_false_iff_not, ne_eq,
      UInt8.lt_iff_toNat_lt, ← UInt8.toNat_inj, UInt8.reduceToNat]
    omega
  rw [hvisible, hvisible, lowerByte_toNat]
  split <;> omega

theorem toLower_toLower (word : Text) : toLower (toLower word) = toLower word := by
  have hbyte : ∀ c, lowerByte (lowerByte c) = lowerByte c := by
    intro c
    rw [← UInt8.toNat_inj, lowerByte_toNat, lowerByte_toNat]
    by_cases hupper : 65 ≤ c.toNat ∧ c.toNat ≤ 90
    · simp only [if_pos hupper]
      exact if_neg (by omega)
    · simp only [if_neg hupper]
  unfold toLower
  rw [List.map_map]
  exact List.map_congr_left fun c _ => hbyte c

theorem isVisibleWord_toLower {longest : ℕ} {word : Text} :
    IsVisibleWord longest (toLower word) ↔ IsVisibleWord longest word := by
  unfold IsVisibleWord toLower
  simp [isVisible_lowerByte]

theorem pairGrammar_foldPair {dots lowestPort : ℕ} {pair : Text × Text} :
    PairGrammar isIpLiteral dots lowestPort (CandidateLine.foldPair pair) ↔
      PairGrammar isIpLiteral dots lowestPort pair := by
  obtain ⟨name, value⟩ := pair
  have hname : (CandidateLine.foldPair (name, value)).1 = toLower name := rfl
  by_cases htcp : toLower name = Extension.tcptype.name
  · have hvalue : (CandidateLine.foldPair (name, value)).2 = toLower value := if_pos htcp
    have honly : ∀ e : Extension, toLower name = e.name → e = .tcptype :=
      fun e he => Extension.name_injective (he.symm.trans htcp)
    constructor
    · intro h
      refine ⟨isVisibleWord_toLower.mp (hname ▸ h.name),
        isVisibleWord_toLower.mp (hvalue ▸ h.value), ?_⟩
      intro e he
      have hallows := h.range e (by rw [hname, toLower_toLower]; exact he)
      rw [honly e he] at hallows ⊢
      rwa [hvalue, Extension.Allows, toLower_toLower] at hallows
    · intro h
      refine ⟨hname ▸ isVisibleWord_toLower.mpr h.name,
        hvalue ▸ isVisibleWord_toLower.mpr h.value, ?_⟩
      intro e he
      rw [hname, toLower_toLower] at he
      have hallows := h.range e he
      rw [honly e he] at hallows ⊢
      rwa [hvalue, Extension.Allows, toLower_toLower]
  · have hvalue : (CandidateLine.foldPair (name, value)).2 = value := if_neg htcp
    constructor
    · intro h
      refine ⟨isVisibleWord_toLower.mp (hname ▸ h.name), hvalue ▸ h.value, ?_⟩
      intro e he
      have hallows := h.range e (by rw [hname, toLower_toLower]; exact he)
      rwa [hvalue] at hallows
    · intro h
      refine ⟨hname ▸ isVisibleWord_toLower.mpr h.name, hvalue.symm ▸ h.value, ?_⟩
      intro e he
      rw [hname, toLower_toLower] at he
      rw [hvalue]
      exact h.range e he

theorem pairsNamed_length (e : Extension) (pairs : List (Text × Text)) :
    (pairsNamed e pairs).length =
      (pairs.map CandidateLine.foldPair).countP fun pair => decide (pair.1 = e.name) := by
  rw [List.countP_map, List.countP_eq_length_filter]
  rfl

theorem CandidateLine.SameWords.symm (h : line.SameWords other) : other.SameWords line where
  foundation := h.foundation.symm
  component := h.component.symm
  transport := h.transport.symm
  priority := h.priority.symm
  address := h.address.symm
  port := h.port.symm
  typ := h.typ.symm
  type := h.type.symm
  pairs := h.pairs.symm

/-- The grammar does not see the order of the pairs or the letter case of the keywords. -/
theorem CandidateLine.SameWords.grammar (h : line.SameWords other) {dots lowestPort : ℕ}
    (hgrammar : line.Grammar isIpLiteral dots lowestPort) :
    other.Grammar isIpLiteral dots lowestPort := by
  have hcount : ∀ e, (pairsNamed e other.pairs).length = (pairsNamed e line.pairs).length := by
    intro e
    rw [pairsNamed_length, pairsNamed_length]
    exact (h.pairs.countP_eq _).symm
  have hempty : ∀ e, pairsNamed e other.pairs ≠ [] ↔ pairsNamed e line.pairs ≠ [] := by
    intro e
    rw [← List.length_pos_iff, ← List.length_pos_iff, hcount]
  constructor
  case foundation => exact h.foundation ▸ hgrammar.foundation
  case component => exact h.component ▸ hgrammar.component
  case transport => exact h.transport ▸ hgrammar.transport
  case priority => exact h.priority ▸ hgrammar.priority
  case address => exact h.address ▸ hgrammar.address
  case port => exact h.port ▸ hgrammar.port
  case typ => exact h.typ ▸ hgrammar.typ
  case type => exact h.type ▸ hgrammar.type
  case pairs =>
    intro pair hpair
    have hmem := h.pairs.mem_iff.mpr (List.mem_map_of_mem hpair)
    obtain ⟨same, hsame, hfold⟩ := List.mem_map.mp hmem
    rw [← pairGrammar_foldPair, ← hfold, pairGrammar_foldPair]
    exact hgrammar.pairs same hsame
  case once =>
    intro e
    rw [hcount]
    exact hgrammar.once e
  case related =>
    rw [hempty, hempty]
    exact hgrammar.related
  case tcpType =>
    rw [hempty, ← h.transport]
    exact hgrammar.tcpType
  case size =>
    have hwords : ∀ l : CandidateLine, l.words.length = 2 * l.pairs.length + 8 := by
      intro l
      have hlength : l.words.length = (pairWords l.pairs).length + 8 := rfl
      rw [hlength, pairWords_length]
    have hlength := h.pairs.length_eq
    rw [List.length_map, List.length_map] at hlength
    rw [hwords, ← hlength, ← hwords]
    exact hgrammar.size

theorem parsedAddress_sameWords {otherText : Text} (hplain : IsPlain text)
    (hother : IsPlain otherText) (hsection : ValidSection sdpMid sdpMlineIndex)
    (hspells : line.Spells text) (hspells' : other.Spells otherText) (h : line.SameWords other) :
    parsedAddress isIpLiteral otherText sdpMid sdpMlineIndex =
      parsedAddress isIpLiteral text sdpMid sdpMlineIndex := by
  apply Option.ext
  intro parsed
  rw [parsedAddress_line hother hsection hspells', parsedAddress_line hplain hsection hspells,
    h.address, h.port]
  refine and_congr_left fun _ => ?_
  exact ⟨h.symm.grammar, h.grammar⟩

/-- A text is read by the grammar except when its line has one of the two
differences and not the other. -/
theorem makeRemoteIceCandidate_readsItsGrammar_iff (isIpLiteral : Text → Bool)
    {text sdpMid : Text} {sdpMlineIndex : ℤ} (hplain : IsPlain text)
    (hsection : ValidSection sdpMid sdpMlineIndex) :
    ReadsItsGrammar isIpLiteral text sdpMid sdpMlineIndex ↔
      ∀ line : CandidateLine, line.Spells text → line.Grammar isIpLiteral 2 0 →
        (line.HasDoubledDot isIpLiteral ↔ line.HasZeroRelatedPort) := by
  unfold ReadsItsGrammar
  rw [candidateOf_line hplain hsection]
  constructor
  · rintro ⟨hsame, _⟩ line hspells hgrammar
    have hiff : line.Grammar isIpLiteral 2 1 ↔ line.Grammar isIpLiteral 1 0 := by
      constructor
      · intro h
        obtain ⟨found, hfound, hstated⟩ := hsame.mp ⟨line, hspells, h⟩
        rwa [hfound.unique hspells] at hstated
      · intro h
        obtain ⟨found, hfound, hread⟩ := hsame.mpr ⟨line, hspells, h⟩
        rwa [hfound.unique hspells] at hread
    rw [CandidateLine.grammar_read, CandidateLine.grammar_stated] at hiff
    simpa [hgrammar, not_iff_not, iff_comm] using hiff
  · intro h
    constructor
    · refine exists_congr fun line => and_congr_right fun hspells => ?_
      rw [CandidateLine.grammar_read, CandidateLine.grammar_stated]
      refine and_congr_right fun hgrammar => ?_
      rw [h line hspells hgrammar]
    · intro line other otherText hspells hspells' hother hwords
      exact parsedAddress_sameWords hplain hother hsection hspells hspells' hwords

end
end

/-! ## Two lines -/

/-- A host candidate with a name in place of its address. -/
def namedLine : CandidateLine where
  foundation := ascii "1"
  component := ascii "1"
  transport := ascii "UDP"
  priority := ascii "2122260223"
  address := ascii "printer.local"
  port := ascii "54321"
  typ := ascii "typ"
  type := ascii "host"
  pairs := []

def namedText : Text :=
  ascii " a=candidate:1 1 UDP 2122260223 printer.local 54321  typ host"

theorem namedLine_spells : namedLine.Spells namedText := by
  refine ⟨ascii " ", ascii "a=", namedText.drop 3, rfl, ?_, .inr rfl, ⟨_, rfl⟩, ?_⟩
  · unfold IsGap
    decide +kernel
  · exact written_iff.mpr (by decide +kernel)

theorem namedText_section : ValidSection (ascii "0") 0 where
  size := by decide +kernel
  characters := by decide +kernel
  index := by decide +kernel
  named := by decide +kernel

theorem makeRemoteIceCandidate_readsItsGrammar_named :
    ReadsItsGrammar (fun _ => false) namedText (ascii "0") 0 ∧
      (candidateOf (fun _ => false) namedText (ascii "0") 0).isSome = true := by
  constructor
  · refine (makeRemoteIceCandidate_readsItsGrammar_iff (fun _ => false) (by decide +kernel)
      namedText_section).mpr ?_
    intro line hspells _
    obtain rfl := hspells.unique namedLine_spells
    constructor
    · rintro ⟨address, hplace, _, hdots⟩
      have haddress : address = ascii "printer.local" := by
        simpa [namedLine, pairsNamed] using hplace
      rw [haddress] at hdots
      exact absurd hdots (by decide +kernel)
    · rintro ⟨pair, hpair, _⟩
      cases hpair
  · decide +kernel

/-- The candidate of a browser which hides its own address. -/
def hiddenLine : CandidateLine where
  foundation := ascii "2"
  component := ascii "1"
  transport := ascii "udp"
  priority := ascii "1686052607"
  address := ascii "198.51.100.7"
  port := ascii "54321"
  typ := ascii "typ"
  type := ascii "srflx"
  pairs := [(ascii "raddr", ascii "0.0.0.0"), (ascii "rport", ascii "0")]

def hiddenText : Text :=
  ascii "candidate:2 1 udp 1686052607 198.51.100.7 54321 typ srflx raddr 0.0.0.0 rport 0"

/-- The two addresses of the line above are literals. -/
def isHiddenLiteral (word : Text) : Bool :=
  decide (word = ascii "198.51.100.7") || decide (word = ascii "0.0.0.0")

theorem hiddenLine_spells : hiddenLine.Spells hiddenText := by
  refine ⟨[], [], hiddenText, rfl, ?_, .inl rfl, ⟨_, rfl⟩, ?_⟩
  · intro c hc
    cases hc
  · exact written_iff.mpr (by decide +kernel)

theorem hiddenLine_grammar : hiddenLine.Grammar isHiddenLiteral 1 0 := by
  constructor
  case foundation => decide +kernel
  case component => decide +kernel
  case transport => decide +kernel
  case priority => decide +kernel
  case address => exact ⟨by decide +kernel, .inl rfl⟩
  case port => decide +kernel
  case typ => decide +kernel
  case type => decide +kernel
  case pairs =>
    intro pair hpair
    cases hpair with
    | head =>
        refine ⟨by decide +kernel, by decide +kernel, ?_⟩
        intro e he
        obtain rfl : e = .raddr := Extension.name_injective he.symm
        exact ⟨by decide +kernel, .inl rfl⟩
    | tail _ hpair =>
        obtain rfl := List.mem_singleton.mp hpair
        refine ⟨by decide +kernel, by decide +kernel, ?_⟩
        intro e he
        obtain rfl : e = .rport := Extension.name_injective he.symm
        have hzero : IsNumeral 0 65535 (ascii "0") := by decide +kernel
        exact hzero
  case once =>
    intro e
    cases e <;> decide +kernel
  case related => decide +kernel
  case tcpType => decide +kernel
  case size => decide +kernel

theorem makeRemoteIceCandidate_refuses_hidden :
    ¬∀ (isIpLiteral : Text → Bool) (text sdpMid : Text) (sdpMlineIndex : ℤ), IsPlain text →
      ValidSection sdpMid sdpMlineIndex → ReadsItsGrammar isIpLiteral text sdpMid sdpMlineIndex := by
  intro h
  have hplain : IsPlain hiddenText := by decide +kernel
  obtain ⟨hgrammar, _⟩ := h isHiddenLiteral hiddenText (ascii "0") 0 hplain namedText_section
  obtain ⟨candidate, hcandidate⟩ := hgrammar.mpr ⟨hiddenLine, hiddenLine_spells, hiddenLine_grammar⟩
  have hrefused : candidateOf isHiddenLiteral hiddenText (ascii "0") 0 = none := by decide +kernel
  rw [hrefused] at hcandidate
  cases hcandidate

end SimpleWebrtc.IceCandidate
