import SimpleWebrtc.IceCandidateGrammar

/-!
# What the ICE candidate parser accepts

Each reader of the parser is shown to accept the words of the grammar in its
place, then the pairs are read by induction over their list, and last the
mandatory fields and the text around them. The parser reads host names with up
to two dots after the last label, and related ports from 1 on.
-/
namespace SimpleWebrtc.IceCandidate
open Library Library.Text

/-! ## Words -/

theorem parseUnsignedInteger_ok {text fieldName : Text} {minimum maximum value : ℕ}
    (hmaximum : maximum < 2 ^ 64) :
    parseUnsignedInteger text minimum maximum fieldName = .ok value ↔
      IsNumeral minimum maximum text ∧ value = decimalValue text := by
  unfold parseUnsignedInteger
  rw [ensure_bind_ok]
  constructor
  · intro h
    obtain ⟨hne, hread⟩ := h
    split at hread
    case h_1 number hnumber =>
      obtain ⟨hrange, hvalue⟩ := ensure_bind_ok.mp hread
      cases hvalue
      obtain ⟨_, hdigits, hdecimal, _⟩ := fromChars_all hnumber
      refine ⟨⟨hne, List.all_eq_true.mp hdigits, ?_, ?_⟩, hdecimal.symm⟩
      · exact hdecimal ▸ hrange.1
      · exact hdecimal ▸ hrange.2
    case h_2 => cases hread
  · intro h
    obtain ⟨⟨hne, hdigits, hlow, hhigh⟩, hvalue⟩ := h
    have htake := @takeWhile_digits text [] hdigits (by simp)
    rw [List.append_nil] at htake
    have hread : fromChars (2 ^ 64) text = some (decimalValue text, []) := by
      unfold fromChars
      simp only [htake.1, htake.2]
      rw [if_neg hne, if_pos (by omega)]
    refine ⟨hne, ?_⟩
    rw [hread, hvalue]
    exact ensure_bind_ok.mpr ⟨⟨hlow, hhigh⟩, rfl⟩

theorem visible_iff (text : Text) :
    containsWhitespace text = false ∧ containsControlCharacter text = false ↔
      ∀ c ∈ text, IsVisible c := by
  have hbyte : ∀ c : UInt8, (isBlank c || isLineBreak c) = false ∧ isControl c = false ↔
      IsVisible c := by
    intro c
    simp only [isBlank, isLineBreak, isControl, IsVisible, Bool.or_eq_false_iff,
      decide_eq_false_iff_not, ne_eq, UInt8.lt_iff_toNat_lt, ← UInt8.toNat_inj]
    simp only [UInt8.reduceToNat]
    omega
  simp only [containsWhitespace, containsControlCharacter, List.any_eq_false, ← hbyte]
  simp only [Bool.not_eq_true]
  constructor
  · intro h c hc
    exact ⟨h.1 c hc, h.2 c hc⟩
  · intro h
    exact ⟨fun c hc => (h c hc).1, fun c hc => (h c hc).2⟩

theorem validateExtensionToken_ok {value fieldName : Text} {maximumSize : ℕ} {u : Unit} :
    validateExtensionToken value fieldName maximumSize = .ok u ↔
      IsVisibleWord maximumSize value := by
  unfold validateExtensionToken IsVisibleWord
  rw [ensure_bind_ok, ensure_bind_ok, ensure_ok, visible_iff]

theorem validateFoundation_ok {foundation : Text} {u : Unit} :
    validateFoundation (kCandidatePrefix ++ foundation) = .ok u ↔
      foundation ≠ [] ∧ foundation.length ≤ 32 ∧ ∀ c ∈ foundation, IsIceChar c := by
  have hstart : startsWith (kCandidatePrefix ++ foundation) kCandidatePrefix = true :=
    List.isPrefixOf_iff_prefix.mpr (List.prefix_append _ _)
  have hrest : (kCandidatePrefix ++ foundation).drop kCandidatePrefix.length = foundation :=
    List.drop_left
  unfold validateFoundation
  rw [ensure_bind_ok, hrest, ensure_bind_ok, ensure_bind_ok, ensure_ok, List.all_eq_true]
  simp [hstart, IsIceChar, isValidFoundationCharacter, kMaxFoundationSize, or_assoc]

/-- The transport read from a word. -/
theorem parseTransport_ok {value : Text} {transport : IceCandidateTransport} :
    parseTransport value = .ok transport ↔
      (toLower value = ascii "udp" ∧ transport = .udp) ∨
        (toLower value = ascii "tcp" ∧ transport = .tcp) := by
  have hudp : iequals value (ascii "udp") = decide (toLower value = ascii "udp") := rfl
  have htcp : iequals value (ascii "tcp") = decide (toLower value = ascii "tcp") := rfl
  have hdistinct : ascii "udp" ≠ ascii "tcp" := by decide
  unfold parseTransport
  rw [hudp, htcp]
  simp only [decide_eq_true_eq]
  split
  case isTrue h => cases transport <;> simp [h, hdistinct]
  case isFalse h =>
    split
    case isTrue h' => cases transport <;> simp [h', hdistinct.symm]
    case isFalse h' => simp [h, h']

/-! ## Host names -/

theorem isValidHostnameLabel_iff (label : Text) :
    isValidHostnameLabel label = true ↔ IsHostLabel label := by
  unfold isValidHostnameLabel
  simp only [Bool.and_eq_true, decide_eq_true_eq, List.all_eq_true, Bool.or_eq_true,
    Option.any_eq_true, Bool.not_eq_true', List.isEmpty_eq_false_iff]
  constructor
  · intro h
    obtain ⟨⟨⟨⟨_, hsize⟩, hfirst⟩, hlast⟩, hall⟩ := h
    exact ⟨hsize, hall, hfirst, hlast⟩
  · intro h
    refine ⟨⟨⟨⟨?_, h.size⟩, h.first⟩, h.last⟩, h.characters⟩
    rintro rfl
    obtain ⟨c, hc, _⟩ := h.first
    cases hc

theorem IsHostLabel.no_dot {label : Text} (h : IsHostLabel label) : 46 ∉ label := by
  intro hmem
  cases h.characters 46 hmem with
  | inl h => exact absurd h (by decide)
  | inr h => exact absurd h (by decide)

theorem labelsAreValid_iff (labels : List Text) (hne : labels ≠ []) :
    labelsAreValid labels = true ↔
      (∀ label ∈ labels, IsHostLabel label) ∨
        ∃ init, labels = init ++ [[]] ∧ ∀ label ∈ init, IsHostLabel label := by
  induction labels with
  | nil => exact absurd rfl hne
  | cons label rest ih =>
      cases rest with
      | nil =>
          simp only [labelsAreValid, Bool.or_eq_true, List.isEmpty_iff, isValidHostnameLabel_iff,
            List.forall_mem_singleton]
          constructor
          · intro h
            cases h with
            | inl h => exact .inr ⟨[], by simp [h], by simp⟩
            | inr h => exact .inl h
          · intro h
            cases h with
            | inl h => exact .inr h
            | inr h =>
                obtain ⟨init, hinit, _⟩ := h
                cases init with
                | nil => exact .inl (by simpa using hinit)
                | cons _ init => simp at hinit
      | cons second rest =>
          have hvalid : labelsAreValid (label :: second :: rest) =
              (isValidHostnameLabel label && labelsAreValid (second :: rest)) := rfl
          rw [hvalid, Bool.and_eq_true, isValidHostnameLabel_iff, ih (by simp)]
          constructor
          · intro h
            obtain ⟨hlabel, h⟩ := h
            cases h with
            | inl h => exact .inl (List.forall_mem_cons.mpr ⟨hlabel, h⟩)
            | inr h =>
                obtain ⟨init, hinit, hvalid⟩ := h
                exact .inr ⟨label :: init, by rw [hinit]; rfl,
                  List.forall_mem_cons.mpr ⟨hlabel, hvalid⟩⟩
          · intro h
            cases h with
            | inl h =>
                obtain ⟨hlabel, h⟩ := List.forall_mem_cons.mp h
                exact ⟨hlabel, .inl h⟩
            | inr h =>
                obtain ⟨init, hinit, hvalid⟩ := h
                cases init with
                | nil => simp at hinit
                | cons first init =>
                    rw [List.cons_append, List.cons.injEq] at hinit
                    obtain ⟨hfirst, hrest⟩ := hinit
                    obtain ⟨hlabel, hvalid⟩ := List.forall_mem_cons.mp hvalid
                    exact ⟨hfirst ▸ hlabel, .inr ⟨init, hrest, hvalid⟩⟩

theorem splitOnByte_eq (separator : UInt8) (text : Text) :
    splitOnByte separator text = text.splitOn separator := rfl

theorem intercalate_concat {separator : Text} {init : List Text} (hne : init ≠ []) (last : Text) :
    separator.intercalate (init ++ [last]) = separator.intercalate init ++ (separator ++ last) := by
  induction init with
  | nil => exact absurd rfl hne
  | cons first rest ih =>
      cases rest with
      | nil => simp [List.intercalate_cons_cons]
      | cons second rest =>
          have hrest := ih (by simp)
          rw [List.cons_append] at hrest
          rw [List.cons_append, List.cons_append, List.intercalate_cons_cons, hrest,
            List.intercalate_cons_cons]
          simp [List.append_assoc]

/-- Labels which are all valid end with a letter or a digit. -/
theorem intercalate_last {labels : List Text} (hne : labels ≠ [])
    (hvalid : ∀ label ∈ labels, IsHostLabel label) :
    ∃ init c, [46].intercalate labels = init ++ [c] ∧ c ≠ 46 := by
  obtain ⟨before, last, hsplit⟩ := List.eq_nil_or_concat labels |>.resolve_left hne
  rw [List.concat_eq_append] at hsplit
  subst hsplit
  obtain ⟨c, hc, halnum⟩ := (hvalid last (by simp)).last
  have hdot : c ≠ 46 := by
    rintro rfl
    exact absurd halnum (by decide)
  obtain ⟨tail, htail⟩ := List.getLast?_eq_some_iff.mp hc
  by_cases hbefore : before = []
  · refine ⟨tail, c, ?_, hdot⟩
    rw [hbefore, List.nil_append, List.intercalate_singleton, htail]
  · refine ⟨[46].intercalate before ++ ([46] ++ tail), c, ?_, hdot⟩
    rw [intercalate_concat hbefore, htail]
    simp [List.append_assoc]

/-- Labels and `n` more dots. -/
def DottedLabels (n : ℕ) (word : Text) : Prop :=
  ∃ labels, labels ≠ [] ∧ (∀ label ∈ labels, IsHostLabel label) ∧
    word = [46].intercalate labels ++ List.replicate n 46

theorem labelsAreValid_split {word : Text} (hne : word ≠ []) :
    labelsAreValid (splitOnByte 46 word) = true ↔ DottedLabels 0 word ∨ DottedLabels 1 word := by
  have hpieces : word.splitOn 46 ≠ [] := List.splitOnP_ne_nil _ _
  rw [splitOnByte_eq, labelsAreValid_iff _ hpieces]
  have hjoin : [46].intercalate (word.splitOn 46) = word := List.intercalate_splitOn 46
  constructor
  · intro h
    cases h with
    | inl h => exact .inl ⟨_, hpieces, h, by simp [hjoin]⟩
    | inr h =>
        obtain ⟨init, hinit, hvalid⟩ := h
        rw [hinit] at hjoin
        have hne' : init ≠ [] := by
          rintro rfl
          exact hne (by simpa using hjoin.symm)
        rw [intercalate_concat hne', List.append_nil] at hjoin
        exact .inr ⟨init, hne', hvalid, by simp [hjoin]⟩
  · intro h
    cases h with
    | inl h =>
        obtain ⟨labels, hlabels, hvalid, hword⟩ := h
        have hsplit := List.splitOn_intercalate 46 (fun l hl => (hvalid l hl).no_dot) hlabels
        rw [List.replicate_zero, List.append_nil] at hword
        rw [hword, hsplit]
        exact .inl hvalid
    | inr h =>
        obtain ⟨labels, hlabels, hvalid, hword⟩ := h
        have hnodot : ∀ l ∈ labels ++ [[]], (46 : UInt8) ∉ l := by
          intro l hl
          cases List.mem_append.mp hl with
          | inl hl => exact (hvalid l hl).no_dot
          | inr hl => simp [List.mem_singleton.mp hl]
        have hsplit := List.splitOn_intercalate 46 hnodot (by simp)
        rw [intercalate_concat hlabels, List.append_nil] at hsplit
        rw [hword, List.replicate_one, hsplit]
        exact .inr ⟨labels, rfl, hvalid⟩

/-- The dots at the end of a host name are determined. -/
theorem DottedLabels.ends_with_dot {n : ℕ} {word : Text} (h : DottedLabels n word) :
    word.getLast? = some 46 ↔ n ≠ 0 := by
  obtain ⟨labels, hne, hvalid, rfl⟩ := h
  obtain ⟨init, c, hjoin, hc⟩ := intercalate_last hne hvalid
  cases n with
  | zero => simp [hjoin, hc]
  | succ n => simp [List.replicate_succ']

theorem DottedLabels.dropLast {n : ℕ} {word : Text} (h : DottedLabels (n + 1) word) :
    DottedLabels n word.dropLast := by
  obtain ⟨labels, hne, hvalid, rfl⟩ := h
  refine ⟨labels, hne, hvalid, ?_⟩
  rw [List.replicate_succ', ← List.append_assoc, List.dropLast_concat]

theorem DottedLabels.concat {n : ℕ} {word : Text} (h : DottedLabels n word) :
    DottedLabels (n + 1) (word ++ [46]) := by
  obtain ⟨labels, hne, hvalid, rfl⟩ := h
  refine ⟨labels, hne, hvalid, ?_⟩
  rw [List.replicate_succ', List.append_assoc]

theorem DottedLabels.ne_nil {n : ℕ} {word : Text} (h : DottedLabels n word) : word ≠ [] := by
  obtain ⟨labels, hne, hvalid, rfl⟩ := h
  obtain ⟨init, c, hjoin, _⟩ := intercalate_last hne hvalid
  simp [hjoin]

/-- The code takes one dot off the end and then reads nothing after another one. -/
theorem isValidHostname_iff {word : Text} (hsize : word ≠ [] ∧ word.length ≤ 253) :
    isValidHostname word = true ↔ ∃ n, n ≤ 2 ∧ DottedLabels n word := by
  have hbound : (word.isEmpty || decide (word.length > kMaxCandidateAddressSize)) = false := by
    simp [hsize.1, kMaxCandidateAddressSize, hsize.2]
  unfold isValidHostname
  rw [hbound]
  simp only [Bool.false_eq_true, ↓reduceIte]
  by_cases hdot : word.getLast? = some 46
  · obtain ⟨init, rfl⟩ := List.getLast?_eq_some_iff.mp hdot
    rw [if_pos hdot, List.dropLast_concat]
    by_cases hinit : init = []
    · subst hinit
      simp only [List.isEmpty_nil, ↓reduceIte, Bool.false_eq_true, false_iff]
      rintro ⟨n, _, hn⟩
      cases n with
      | zero => exact absurd hdot (fun h => hn.ends_with_dot.mp h rfl)
      | succ n => exact hn.dropLast.ne_nil rfl
    · rw [if_neg (by simpa using hinit), labelsAreValid_split hinit]
      constructor
      · intro h
        cases h with
        | inl h => exact ⟨1, by omega, h.concat⟩
        | inr h => exact ⟨2, by omega, h.concat⟩
      · rintro ⟨n, hn, hlabels⟩
        obtain ⟨m, rfl⟩ := Nat.exists_eq_succ_of_ne_zero (hlabels.ends_with_dot.mp hdot)
        have hm := hlabels.dropLast
        rw [List.dropLast_concat] at hm
        obtain rfl | rfl : m = 0 ∨ m = 1 := by omega
        · exact .inl hm
        · exact .inr hm
  · rw [if_neg hdot, if_neg (by simpa using hsize.1), labelsAreValid_split hsize.1]
    constructor
    · intro h
      cases h with
      | inl h => exact ⟨0, by omega, h⟩
      | inr h => exact absurd (h.ends_with_dot.mpr (by omega)) hdot
    · rintro ⟨n, _, hlabels⟩
      have hn : n = 0 := by
        by_contra hne
        exact hdot (hlabels.ends_with_dot.mpr hne)
      exact .inl (hn ▸ hlabels)

theorem isHostName_iff {dots : ℕ} {word : Text} :
    IsHostName dots word ↔ ¬IsDottedNumber word ∧ ∃ n, n ≤ dots ∧ DottedLabels n word := by
  unfold IsHostName DottedLabels
  constructor
  · rintro ⟨hnumber, labels, n, hne, hvalid, hn, hword⟩
    exact ⟨hnumber, n, hn, labels, hne, hvalid, hword⟩
  · rintro ⟨hnumber, n, hn, labels, hne, hvalid, hword⟩
    exact ⟨hnumber, labels, n, hne, hvalid, hn, hword⟩

theorem looksLikeIpv4Literal_iff (word : Text) :
    looksLikeIpv4Literal word = true ↔ IsDottedNumber word := by
  unfold looksLikeIpv4Literal IsDottedNumber
  simp only [Bool.and_eq_true, List.all_eq_true, List.any_eq_true, Bool.or_eq_true,
    decide_eq_true_eq, exists_eq_right]
  exact and_comm

section
variable {isIpLiteral : Text → Bool}

theorem isValidCandidateAddress_iff {word : Text} :
    isValidCandidateAddress isIpLiteral word = true ↔ IsAddress isIpLiteral 2 word := by
  unfold isValidCandidateAddress IsAddress IsVisibleWord
  rw [← visible_iff, isHostName_iff]
  by_cases hsize : word ≠ [] ∧ word.length ≤ 253
  · have hbound : (word.isEmpty || decide (word.length > kMaxCandidateAddressSize)) = false := by
      simp [hsize.1, kMaxCandidateAddressSize, hsize.2]
    rw [hbound, ← isValidHostname_iff hsize, ← looksLikeIpv4Literal_iff]
    cases containsWhitespace word <;> cases containsControlCharacter word <;>
      cases isIpLiteral word <;> cases looksLikeIpv4Literal word <;> simp [hsize]
  · have hbound : (word.isEmpty || decide (word.length > kMaxCandidateAddressSize)) = true := by
      rw [not_and_or, not_ne_iff, not_le] at hsize
      simpa [kMaxCandidateAddressSize] using hsize
    rw [hbound]
    simp only [↓reduceIte, Bool.false_eq_true, false_iff]
    intro h
    exact hsize ⟨h.1.1, h.1.2.1⟩

theorem DottedLabels.ends_with_dots {n : ℕ} {word : Text} (h : DottedLabels n word) :
    [46, 46] <:+ word ↔ 2 ≤ n := by
  constructor
  · rintro ⟨init, rfl⟩
    have hsplit : init ++ [46, 46] = (init ++ [46]) ++ [46] := by simp
    rw [hsplit] at h
    have hn : n ≠ 0 := h.ends_with_dot.mp (by simp)
    obtain ⟨m, rfl⟩ := Nat.exists_eq_succ_of_ne_zero hn
    have hdrop := h.dropLast
    rw [List.dropLast_concat] at hdrop
    have hm : m ≠ 0 := hdrop.ends_with_dot.mp (by simp)
    omega
  · intro hn
    obtain ⟨m, rfl⟩ := Nat.exists_eq_add_of_le' hn
    obtain ⟨labels, hne, hvalid, rfl⟩ := h
    rw [List.replicate_add, ← List.append_assoc]
    exact List.suffix_append _ _

/-- The grammar has the addresses which do not end with two dots. -/
theorem isAddress_one_iff {word : Text} :
    IsAddress isIpLiteral 1 word ↔
      IsAddress isIpLiteral 2 word ∧ ¬(isIpLiteral word = false ∧ [46, 46] <:+ word) := by
  unfold IsAddress
  cases hliteral : isIpLiteral word with
  | true => simp
  | false =>
      rw [isHostName_iff, isHostName_iff]
      constructor
      · rintro ⟨hvisible, h⟩
        obtain ⟨hnumber, n, hn, hlabels⟩ := h.resolve_left (by simp)
        refine ⟨⟨hvisible, .inr ⟨hnumber, n, by omega, hlabels⟩⟩, ?_⟩
        rintro ⟨_, hdots⟩
        have := hlabels.ends_with_dots.mp hdots
        omega
      · rintro ⟨⟨hvisible, h⟩, hdots⟩
        obtain ⟨hnumber, n, hn, hlabels⟩ := h.resolve_left (by simp)
        refine ⟨hvisible, .inr ⟨hnumber, n, ?_, hlabels⟩⟩
        by_contra hmany
        exact hdots ⟨rfl, hlabels.ends_with_dots.mpr (by omega)⟩

/-! ## Pairs -/

def ExtensionsSeen.get (seen : ExtensionsSeen) : Extension → Bool
  | .raddr => seen.relatedAddress
  | .rport => seen.relatedPort
  | .tcptype => seen.tcpType
  | .generation => seen.generation
  | .networkId => seen.networkId
  | .networkCost => seen.networkCost

def ExtensionsSeen.set (seen : ExtensionsSeen) : Extension → ExtensionsSeen
  | .raddr => { seen with relatedAddress := true }
  | .rport => { seen with relatedPort := true }
  | .tcptype => { seen with tcpType := true }
  | .generation => { seen with generation := true }
  | .networkId => { seen with networkId := true }
  | .networkCost => { seen with networkCost := true }

@[simp] theorem ExtensionsSeen.get_set (seen : ExtensionsSeen) (e other : Extension) :
    (seen.set e).get other = (decide (e = other) || seen.get other) := by
  cases e <;> cases other <;> rfl

theorem Extension.name_injective {e other : Extension} (h : e.name = other.name) : e = other := by
  revert h
  cases e <;> cases other <;> decide

/-- What is seen after a pair with this name. -/
def ExtensionsSeen.mark (seen : ExtensionsSeen) (name : Text) : ExtensionsSeen :=
  if name = Extension.raddr.name then seen.set .raddr
  else if name = Extension.rport.name then seen.set .rport
  else if name = Extension.tcptype.name then seen.set .tcptype
  else if name = Extension.generation.name then seen.set .generation
  else if name = Extension.networkId.name then seen.set .networkId
  else if name = Extension.networkCost.name then seen.set .networkCost
  else seen

theorem ExtensionsSeen.mark_name (seen : ExtensionsSeen) (e : Extension) :
    seen.mark e.name = seen.set e := by
  cases e <;> rfl

theorem ExtensionsSeen.mark_other {seen : ExtensionsSeen} {name : Text}
    (h : ∀ e : Extension, name ≠ e.name) : seen.mark name = seen := by
  simp only [ExtensionsSeen.mark, h, ↓reduceIte]

theorem ExtensionsSeen.get_mark (seen : ExtensionsSeen) (name : Text) (e : Extension) :
    (seen.mark name).get e = (decide (name = e.name) || seen.get e) := by
  by_cases h : ∃ other : Extension, name = other.name
  · obtain ⟨other, rfl⟩ := h
    rw [ExtensionsSeen.mark_name, ExtensionsSeen.get_set]
    have hiff : other.name = e.name ↔ other = e := ⟨Extension.name_injective, congrArg _⟩
    simp only [hiff]
  · rw [not_exists] at h
    rw [ExtensionsSeen.mark_other h]
    simp [h e]

theorem parseCandidateAddress_ok {value fieldName address : Text} :
    parseCandidateAddress isIpLiteral value fieldName = .ok address ↔
      IsAddress isIpLiteral 2 value ∧ address = value := by
  unfold parseCandidateAddress
  rw [ensure_bind_ok, isValidCandidateAddress_iff]
  refine and_congr_right fun _ => ?_
  constructor
  · intro h
    cases h
    rfl
  · rintro rfl
    rfl

theorem validateTcpCandidateType_ok {value : Text} {u : Unit} :
    validateTcpCandidateType value = .ok u ↔
      toLower value ∈ [ascii "active", ascii "passive", ascii "so"] := by
  have hactive : toLower (ascii "active") = ascii "active" := by decide
  have hpassive : toLower (ascii "passive") = ascii "passive" := by decide
  have hso : toLower (ascii "so") = ascii "so" := by decide
  unfold validateTcpCandidateType
  rw [ensure_ok]
  simp [iequals, hactive, hpassive, hso, or_assoc]

/-- A numeral which is read only to be checked. -/
theorem checkNumeral_ok {value fieldName : Text} {minimum maximum : ℕ} {A : Type}
    {rest : Except Text A} {a : A} (hmaximum : maximum < 2 ^ 64) :
    (parseUnsignedInteger value minimum maximum fieldName >>= fun _ => rest) = .ok a ↔
      IsNumeral minimum maximum value ∧ rest = .ok a := by
  rw [bind_ok]
  constructor
  · rintro ⟨number, hnumber, hrest⟩
    exact ⟨((parseUnsignedInteger_ok hmaximum).mp hnumber).1, hrest⟩
  · rintro ⟨hnumeral, hrest⟩
    exact ⟨_, (parseUnsignedInteger_ok hmaximum).mpr ⟨hnumeral, rfl⟩, hrest⟩

theorem checkAddress_ok {value fieldName : Text} {A : Type} {rest : Except Text A} {a : A} :
    (parseCandidateAddress isIpLiteral value fieldName >>= fun _ => rest) = .ok a ↔
      IsAddress isIpLiteral 2 value ∧ rest = .ok a := by
  rw [bind_ok]
  constructor
  · rintro ⟨address, haddress, hrest⟩
    exact ⟨(parseCandidateAddress_ok.mp haddress).1, hrest⟩
  · rintro ⟨hvalue, hrest⟩
    exact ⟨value, parseCandidateAddress_ok.mpr ⟨hvalue, rfl⟩, hrest⟩

theorem pure_ok {A : Type} {a b : A} : (pure a : Except Text A) = .ok b ↔ b = a := by
  constructor
  · intro h
    cases h
    rfl
  · rintro rfl
    rfl

/-- A pair with a known name is read when the value is allowed and the name is new. -/
theorem parseCandidateExtension_known {seen next : ExtensionsSeen} {name value : Text}
    {e : Extension} (he : toLower name = e.name) :
    parseCandidateExtension isIpLiteral seen name value = .ok next ↔
      IsVisibleWord 64 name ∧ IsVisibleWord 512 value ∧ seen.get e = false ∧
        e.Allows isIpLiteral 2 1 value ∧ next = seen.set e := by
  unfold parseCandidateExtension
  rw [bind_ok]
  simp only [validateExtensionToken_ok, bind_ok (A := PUnit), exists_const]
  refine and_congr_right fun _ => and_congr_right fun _ => ?_
  have hother : ∀ {word : Text}, e.name ≠ word → toLower name ≠ word := by
    intro word hword
    rwa [he]
  cases e with
  | raddr =>
      have hname : toLower name = ascii "raddr" := he
      rw [if_pos hname, ensure_bind_ok, checkAddress_ok, pure_ok]
      rfl
  | rport =>
      have hname : toLower name = ascii "rport" := he
      rw [if_neg (hother (by decide)), if_pos hname, ensure_bind_ok, checkNumeral_ok (by decide),
        pure_ok]
      rfl
  | tcptype =>
      have hname : toLower name = ascii "tcptype" := he
      rw [if_neg (hother (by decide)), if_neg (hother (by decide)), if_pos hname, ensure_bind_ok,
        bind_ok]
      simp only [validateTcpCandidateType_ok, exists_const, pure_ok]
      rfl
  | generation =>
      have hname : toLower name = ascii "generation" := he
      rw [if_neg (hother (by decide)), if_neg (hother (by decide)), if_neg (hother (by decide)),
        if_pos hname, ensure_bind_ok, checkNumeral_ok (by decide), pure_ok]
      rfl
  | networkId =>
      have hname : toLower name = ascii "network-id" := he
      rw [if_neg (hother (by decide)), if_neg (hother (by decide)), if_neg (hother (by decide)),
        if_neg (hother (by decide)), if_pos hname, ensure_bind_ok, checkNumeral_ok (by decide),
        pure_ok]
      rfl
  | networkCost =>
      have hname : toLower name = ascii "network-cost" := he
      rw [if_neg (hother (by decide)), if_neg (hother (by decide)), if_neg (hother (by decide)),
        if_neg (hother (by decide)), if_neg (hother (by decide)), if_pos hname, ensure_bind_ok,
        checkNumeral_ok (by decide), pure_ok]
      rfl

theorem parseCandidateExtension_other {seen next : ExtensionsSeen} {name value : Text}
    (h : ∀ e : Extension, toLower name ≠ e.name) :
    parseCandidateExtension isIpLiteral seen name value = .ok next ↔
      IsVisibleWord 64 name ∧ IsVisibleWord 512 value ∧ next = seen := by
  unfold parseCandidateExtension
  rw [bind_ok]
  simp only [validateExtensionToken_ok, bind_ok (A := PUnit), exists_const]
  refine and_congr_right fun _ => and_congr_right fun _ => ?_
  have hother : ∀ {word : Text} (e : Extension), e.name = word → toLower name ≠ word := by
    intro word e he
    rw [← he]
    exact h e
  rw [if_neg (hother .raddr (by rfl)), if_neg (hother .rport (by rfl)),
    if_neg (hother .tcptype (by rfl)), if_neg (hother .generation (by rfl)),
    if_neg (hother .networkId (by rfl)), if_neg (hother .networkCost (by rfl)), pure_ok]

/-- One pair is read when it is in the grammar and its name was not seen before. -/
theorem parseCandidateExtension_ok {seen next : ExtensionsSeen} {name value : Text} :
    parseCandidateExtension isIpLiteral seen name value = .ok next ↔
      PairGrammar isIpLiteral 2 1 (name, value) ∧
        (∀ e : Extension, toLower name = e.name → seen.get e = false) ∧
        next = seen.mark (toLower name) := by
  by_cases hknown : ∃ e : Extension, toLower name = e.name
  · obtain ⟨e, he⟩ := hknown
    have honly : ∀ other : Extension, toLower name = other.name → other = e :=
      fun other hother => Extension.name_injective (hother.symm.trans he)
    rw [parseCandidateExtension_known he, he, ExtensionsSeen.mark_name]
    constructor
    · rintro ⟨hname, hvalue, hseen, hallows, hnext⟩
      refine ⟨⟨hname, hvalue, ?_⟩, ?_, hnext⟩
      · intro other hother
        rw [honly other hother]
        exact hallows
      · intro other hother
        rw [honly other (he.trans hother)]
        exact hseen
    · rintro ⟨hpair, hseen, hnext⟩
      exact ⟨hpair.name, hpair.value, hseen e rfl, hpair.range e he, hnext⟩
  · rw [not_exists] at hknown
    rw [parseCandidateExtension_other hknown, ExtensionsSeen.mark_other hknown]
    constructor
    · rintro ⟨hname, hvalue, hnext⟩
      exact ⟨⟨hname, hvalue, fun e he => absurd he (hknown e)⟩,
        fun e he => absurd he (hknown e), hnext⟩
    · rintro ⟨hpair, _, hnext⟩
      exact ⟨hpair.name, hpair.value, hnext⟩

def ExtensionsSeen.markAll (seen : ExtensionsSeen) (pairs : List (Text × Text)) : ExtensionsSeen :=
  pairs.foldl (fun seen pair => seen.mark (toLower pair.1)) seen

theorem ExtensionsSeen.get_markAll (seen : ExtensionsSeen) (pairs : List (Text × Text))
    (e : Extension) :
    (seen.markAll pairs).get e = true ↔ seen.get e = true ∨ pairsNamed e pairs ≠ [] := by
  induction pairs generalizing seen with
  | nil => simp [ExtensionsSeen.markAll, pairsNamed]
  | cons pair pairs ih =>
      have hstep : seen.markAll (pair :: pairs) = (seen.mark (toLower pair.1)).markAll pairs := rfl
      rw [hstep, ih, ExtensionsSeen.get_mark]
      by_cases hname : toLower pair.1 = e.name
      · simp [pairsNamed, hname]
      · simp [pairsNamed, hname]

/-- The pairs are read when each is in the grammar and no known name comes twice. -/
theorem parseExtensionPairs_ok {seen next : ExtensionsSeen} {pairs : List (Text × Text)} :
    parseExtensionPairs isIpLiteral seen (pairWords pairs) = .ok next ↔
      (∀ pair ∈ pairs, PairGrammar isIpLiteral 2 1 pair) ∧
        (∀ e, (seen.get e).toNat + (pairsNamed e pairs).length ≤ 1) ∧
        next = seen.markAll pairs := by
  induction pairs generalizing seen with
  | nil =>
      have hdone : parseExtensionPairs isIpLiteral seen (pairWords []) = pure seen := rfl
      rw [hdone, pure_ok]
      simp [ExtensionsSeen.markAll, pairsNamed, Bool.toNat_le]
  | cons pair pairs ih =>
      have hstep : parseExtensionPairs isIpLiteral seen (pairWords (pair :: pairs)) =
          (parseCandidateExtension isIpLiteral seen pair.1 pair.2 >>= fun next =>
            parseExtensionPairs isIpLiteral next (pairWords pairs)) := rfl
      have hcount : ∀ e, (seen.get e).toNat + (pairsNamed e (pair :: pairs)).length ≤ 1 ↔
          (toLower pair.1 = e.name → seen.get e = false) ∧
            ((seen.mark (toLower pair.1)).get e).toNat + (pairsNamed e pairs).length ≤ 1 := by
        intro e
        rw [ExtensionsSeen.get_mark]
        by_cases hname : toLower pair.1 = e.name
        · cases hseen : seen.get e with
          | false => simp [pairsNamed, hname]
          | true => simp [pairsNamed, hname]
        · simp [pairsNamed, hname]
      rw [hstep, bind_ok, List.forall_mem_cons]
      simp only [hcount, parseCandidateExtension_ok, ih]
      constructor
      · rintro ⟨middle, ⟨hpair, hnew, rfl⟩, hpairs, honce, hnext⟩
        exact ⟨⟨hpair, hpairs⟩, fun e => ⟨hnew e, honce e⟩, hnext⟩
      · rintro ⟨⟨hpair, hpairs⟩, honce, hnext⟩
        exact ⟨_, ⟨hpair, fun e => (honce e).1, rfl⟩, hpairs, fun e => (honce e).2, hnext⟩

/-! ## Lines -/

theorem pairWords_length (pairs : List (Text × Text)) :
    (pairWords pairs).length = 2 * pairs.length := by
  induction pairs with
  | nil => rfl
  | cons pair pairs ih =>
      have hcons : pairWords (pair :: pairs) = pair.1 :: pair.2 :: pairWords pairs := rfl
      rw [hcons, List.length_cons, List.length_cons, ih, List.length_cons]
      omega

theorem exists_pairs (words : List Text) (heven : words.length % 2 = 0) :
    ∃ pairs, words = pairWords pairs := by
  induction hlen : words.length using Nat.strong_induction_on generalizing words with
  | h n ih =>
      match words with
      | [] => exact ⟨[], rfl⟩
      | [_] => simp at heven
      | name :: value :: rest =>
          simp only [List.length_cons] at heven hlen
          obtain ⟨pairs, hpairs⟩ := ih rest.length (by omega) rest (by omega) rfl
          exact ⟨(name, value) :: pairs, by rw [hpairs]; rfl⟩

theorem pairWords_injective {pairs other : List (Text × Text)}
    (h : pairWords pairs = pairWords other) : pairs = other := by
  induction pairs generalizing other with
  | nil =>
      cases other with
      | nil => rfl
      | cons pair other => cases h
  | cons pair pairs ih =>
      cases other with
      | nil => cases h
      | cons second other =>
          have hcons : ∀ p : Text × Text, ∀ ps, pairWords (p :: ps) = p.1 :: p.2 :: pairWords ps :=
            fun _ _ => rfl
          rw [hcons, hcons, List.cons.injEq, List.cons.injEq] at h
          rw [ih h.2.2, Prod.ext h.1 h.2.1]

theorem CandidateLine.words_injective {line other : CandidateLine}
    (h : line.words = other.words) : line = other := by
  cases line
  cases other
  simp only [CandidateLine.words, List.cons.injEq, List.append_cancel_left_eq] at h
  simp only [CandidateLine.mk.injEq]
  obtain ⟨h1, h2, h3, h4, h5, h6, h7, h8, h9⟩ := h
  exact ⟨h1, h2, h3, h4, h5, h6, h7, h8, pairWords_injective h9⟩

/-- What the grammar asks of the pairs, given the transport. -/
def PairsGrammar (isIpLiteral : Text → Bool) (dots lowestPort : ℕ) (tcp : Prop)
    (pairs : List (Text × Text)) : Prop :=
  (∀ pair ∈ pairs, PairGrammar isIpLiteral dots lowestPort pair) ∧
    (∀ e, (pairsNamed e pairs).length ≤ 1) ∧
    (pairsNamed .raddr pairs ≠ [] ↔ pairsNamed .rport pairs ≠ []) ∧
    (pairsNamed .tcptype pairs ≠ [] ↔ tcp)

theorem parseCandidateExtensions_ok {line : CandidateLine} {transport : IceCandidateTransport}
    {u : Unit} :
    parseCandidateExtensions isIpLiteral line.words transport = .ok u ↔
      PairsGrammar isIpLiteral 2 1 (transport = .tcp) line.pairs := by
  have heven : (line.words.length - 8) % 2 = 0 := by
    have hlength : line.words.length = (pairWords line.pairs).length + 8 := rfl
    rw [hlength, pairWords_length]
    omega
  have hdrop : line.words.drop 8 = pairWords line.pairs := rfl
  unfold parseCandidateExtensions PairsGrammar
  rw [ensure_pass heven, hdrop, bind_ok]
  simp only [parseExtensionPairs_ok]
  have hstart : ∀ e, (({} : ExtensionsSeen).get e).toNat = 0 := by
    intro e
    cases e <;> rfl
  have hget : ∀ e, (({} : ExtensionsSeen).markAll line.pairs).get e = true ↔
      pairsNamed e line.pairs ≠ [] := by
    intro e
    rw [ExtensionsSeen.get_markAll]
    cases e <;> simp [ExtensionsSeen.get]
  simp only [hstart, Nat.zero_add]
  constructor
  · rintro ⟨seen, ⟨hpairs, honce, rfl⟩, hchecks⟩
    obtain ⟨hrelated, hchecks⟩ := ensure_bind_ok.mp hchecks
    obtain ⟨htcp, hudp⟩ := ensure_bind_ok.mp hchecks
    have hudp := ensure_ok.mp hudp
    refine ⟨hpairs, honce, ?_, ?_⟩
    · rw [← hget, ← hget]
      exact Bool.eq_iff_iff.mp hrelated
    · rw [← hget]
      cases transport with
      | udp => simpa [ExtensionsSeen.get] using hudp
      | tcp => simpa [ExtensionsSeen.get] using htcp
  · rintro ⟨hpairs, honce, hrelated, htcp⟩
    refine ⟨_, ⟨hpairs, honce, rfl⟩, ensure_bind_ok.mpr ⟨?_, ensure_bind_ok.mpr ⟨?_, ?_⟩⟩⟩
    · rw [← hget, ← hget] at hrelated
      exact Bool.eq_iff_iff.mpr hrelated
    · rw [← hget] at htcp
      rintro ⟨rfl, hseen⟩
      have hmarked := htcp.mpr rfl
      rw [ExtensionsSeen.get, hseen] at hmarked
      cases hmarked
    · rw [← hget] at htcp
      refine ensure_ok.mpr ?_
      rintro ⟨rfl, hseen⟩
      cases htcp.mp hseen

theorem validateCandidateType_ok {value : Text} {u : Unit} :
    validateCandidateType value = .ok u ↔
      toLower value ∈ [ascii "host", ascii "srflx", ascii "prflx", ascii "relay"] := by
  have hhost : toLower (ascii "host") = ascii "host" := by decide
  have hsrflx : toLower (ascii "srflx") = ascii "srflx" := by decide
  have hprflx : toLower (ascii "prflx") = ascii "prflx" := by decide
  have hrelay : toLower (ascii "relay") = ascii "relay" := by decide
  unfold validateCandidateType
  rw [ensure_ok]
  simp [iequals, hhost, hsrflx, hprflx, hrelay, or_assoc]

/-- The candidate with the fields of a line. -/
def CandidateLine.readInto (isIpLiteral : Text → Bool) (line : CandidateLine)
    (candidate : RemoteIceCandidate) : RemoteIceCandidate :=
  { candidate with
    address := line.address
    port := UInt16.ofNat (decimalValue line.port)
    addressIsHostname := !isIpLiteral line.address
    addressIsMdnsHostname := isMdnsHostname line.address }

theorem parseCandidateFields_words {line : CandidateLine} {text : Text}
    {candidate result : RemoteIceCandidate} (hwords : fields isBlank text = line.words) :
    parseCandidateFields isIpLiteral text candidate = .ok result ↔
      line.Grammar isIpLiteral 2 1 ∧ result = line.readInto isIpLiteral candidate := by
  have hsplit : ∀ tokens, splitCandidateTokens text = .ok tokens ↔
      line.words.length ≤ 64 ∧ tokens = line.words := by
    intro tokens
    have hdef : splitCandidateTokens text = (ensure (line.words.length ≤ kMaxCandidateTokenCount)
        (ascii "ice candidate has too many tokens") >>= fun _ => pure line.words) := by
      unfold splitCandidateTokens
      rw [hwords]
    rw [hdef, ensure_bind_ok, pure_ok]
    rfl
  have hport : ∀ {value fieldName : Text} {number : ℕ},
      parseUnsignedInteger value 1 kMaxUInt16 fieldName = .ok number ↔
        IsNumeral 1 65535 value ∧ number = decimalValue value :=
    parseUnsignedInteger_ok (by decide)
  have htyp : toLower (ascii "typ") = ascii "typ" := by decide
  unfold parseCandidateFields
  simp only [bind_ok, hsplit]
  constructor
  · rintro ⟨tokens, ⟨hsize, rfl⟩, h⟩
    obtain ⟨_, hfoundation, h⟩ := bind_ok.mp h
    obtain ⟨hcomponent, h⟩ := (checkNumeral_ok (by decide)).mp h
    obtain ⟨transport, htransport, h⟩ := bind_ok.mp h
    obtain ⟨hpriority, h⟩ := (checkNumeral_ok (by decide)).mp h
    obtain ⟨address, hread, h⟩ := bind_ok.mp h
    obtain ⟨haddress, rfl⟩ := parseCandidateAddress_ok.mp hread
    obtain ⟨number, hnumber, h⟩ := bind_ok.mp h
    obtain ⟨hnumeral, rfl⟩ := hport.mp hnumber
    obtain ⟨htypword, h⟩ := ensure_bind_ok.mp h
    obtain ⟨_, htype, h⟩ := bind_ok.mp h
    obtain ⟨_, hextensions, h⟩ := bind_ok.mp h
    obtain ⟨hpairs, honce, hrelated, htcp⟩ := parseCandidateExtensions_ok.mp hextensions
    have htransport := parseTransport_ok.mp htransport
    constructor
    · constructor
      case foundation => exact validateFoundation_ok.mp hfoundation
      case component => exact hcomponent
      case transport => exact htransport.imp And.left And.left
      case priority => exact hpriority
      case address => exact haddress
      case port => exact hnumeral
      case typ => simpa [iequals, htyp] using htypword
      case type => exact validateCandidateType_ok.mp htype
      case pairs => exact hpairs
      case once => exact honce
      case related => exact hrelated
      case tcpType =>
        rw [htcp]
        have hdistinct : ascii "udp" ≠ ascii "tcp" := by decide
        cases htransport with
        | inl hudp => simp [hudp.1, hudp.2, hdistinct]
        | inr htcp => simp [htcp.1, htcp.2]
      case size => exact hsize
    · cases h
      rfl
  · rintro ⟨hgrammar, rfl⟩
    obtain ⟨transport, htransport, htcp⟩ : ∃ transport,
        parseTransport line.transport = .ok transport ∧
          (transport = .tcp ↔ toLower line.transport = ascii "tcp") := by
      have hdistinct : ascii "udp" ≠ ascii "tcp" := by decide
      cases hgrammar.transport with
      | inl hudp =>
          exact ⟨.udp, parseTransport_ok.mpr (.inl ⟨hudp, rfl⟩), by simp [hudp, hdistinct]⟩
      | inr htcp => exact ⟨.tcp, parseTransport_ok.mpr (.inr ⟨htcp, rfl⟩), by simp [htcp]⟩
    refine ⟨line.words, ⟨hgrammar.size, rfl⟩, ?_⟩
    refine bind_ok.mpr ⟨(), validateFoundation_ok.mpr hgrammar.foundation, ?_⟩
    refine (checkNumeral_ok (by decide)).mpr ⟨hgrammar.component, ?_⟩
    refine bind_ok.mpr ⟨transport, htransport, ?_⟩
    refine (checkNumeral_ok (by decide)).mpr ⟨hgrammar.priority, ?_⟩
    refine bind_ok.mpr ⟨line.address, parseCandidateAddress_ok.mpr ⟨hgrammar.address, rfl⟩, ?_⟩
    refine bind_ok.mpr ⟨decimalValue line.port, hport.mpr ⟨hgrammar.port, rfl⟩, ?_⟩
    refine ensure_bind_ok.mpr ⟨by simp [iequals, htyp, hgrammar.typ], ?_⟩
    refine bind_ok.mpr ⟨(), validateCandidateType_ok.mpr hgrammar.type, ?_⟩
    refine bind_ok.mpr ⟨(), parseCandidateExtensions_ok.mpr ?_, rfl⟩
    exact ⟨hgrammar.pairs, hgrammar.once, hgrammar.related, hgrammar.tcpType.trans htcp.symm⟩

theorem exists_line_of_parse {text : Text} {candidate result : RemoteIceCandidate}
    (h : parseCandidateFields isIpLiteral text candidate = .ok result) :
    ∃ line : CandidateLine, fields isBlank text = line.words := by
  unfold parseCandidateFields at h
  obtain ⟨tokens, htokens, h⟩ := bind_ok.mp h
  have htokens : tokens = fields isBlank text := by
    obtain ⟨_, hpure⟩ := ensure_bind_ok.mp htokens
    exact pure_ok.mp hpure
  rw [← htokens]
  split at h
  case h_1 first component transport priority address port typ type rest _ =>
    obtain ⟨_, hfoundation, h⟩ := bind_ok.mp h
    obtain ⟨_, _, h⟩ := bind_ok.mp h
    obtain ⟨_, _, h⟩ := bind_ok.mp h
    obtain ⟨_, _, h⟩ := bind_ok.mp h
    obtain ⟨_, _, h⟩ := bind_ok.mp h
    obtain ⟨_, _, h⟩ := bind_ok.mp h
    obtain ⟨_, h⟩ := ensure_bind_ok.mp h
    obtain ⟨_, _, h⟩ := bind_ok.mp h
    obtain ⟨_, hextensions, _⟩ := bind_ok.mp h
    obtain ⟨hstart, _⟩ := ensure_bind_ok.mp hfoundation
    obtain ⟨name, rfl⟩ := List.isPrefixOf_iff_prefix.mp hstart
    obtain ⟨heven, _⟩ := ensure_bind_ok.mp hextensions
    obtain ⟨pairs, rfl⟩ := exists_pairs rest (by simpa using heven)
    exact ⟨⟨name, component, transport, priority, address, port, typ, type, pairs⟩, rfl⟩
  case h_2 => cases h

end
end SimpleWebrtc.IceCandidate
