import Mathlib.Data.List.Basic
import Mathlib.Data.List.DropRight
import Mathlib.Data.Nat.Digits.Defs

/-!
# Byte strings

A program string is the list of its bytes. Literals are written as ASCII text.
Splitting, trimming, comparison without case and decimal numbers follow the
string library of the program in the C locale.
-/
namespace SimpleWebrtc.Library

abbrev Text := List UInt8

instance : LawfulBEq Text := inferInstance

def ascii (s : String) : Text := s.toList.map fun c => UInt8.ofNat c.toNat

namespace Text

/-- The characters of `" \t"`. -/
def isBlank (c : UInt8) : Bool := decide (c = 32) || decide (c = 9)

/-- White space of the C locale. -/
def isSpace (c : UInt8) : Bool := decide (c = 32) || (decide (9 ≤ c) && decide (c ≤ 13))

def isDigit (c : UInt8) : Bool := decide (48 ≤ c) && decide (c ≤ 57)

def trim (p : UInt8 → Bool) (text : Text) : Text := (text.dropWhile p).rdropWhile p

/-- The nonempty pieces between separators. -/
def fields (p : UInt8 → Bool) (text : Text) : List Text :=
  (text.splitOnP p).filter fun piece => !piece.isEmpty

def splitOnByte (separator : UInt8) (text : Text) : List Text :=
  text.splitOnP fun c => decide (c = separator)

/-- The text before the first byte satisfying `p` and the text after it. -/
def cut (p : UInt8 → Bool) (text : Text) : Option (Text × Text) :=
  match text.dropWhile fun c => !p c with
  | [] => none
  | _ :: rest => some (text.takeWhile (fun c => !p c), rest)

def lowerByte (c : UInt8) : UInt8 := if 65 ≤ c ∧ c ≤ 90 then c + 32 else c

def toLower (text : Text) : Text := text.map lowerByte

def iequals (a b : Text) : Bool := decide (toLower a = toLower b)

def join (separator : Text) : List Text → Text
  | [] => []
  | [piece] => piece
  | piece :: rest => piece ++ separator ++ join separator rest

def decimalValue (digits : Text) : ℕ := digits.foldl (fun n c => n * 10 + (c.toNat - 48)) 0

/-- The decimal number at the start of the text and what follows it. A number
which does not fit below `bound` is an error. -/
def fromChars (bound : ℕ) (text : Text) : Option (ℕ × Text) :=
  let digits := text.takeWhile isDigit
  if digits = [] then none
  else if decimalValue digits < bound then some (decimalValue digits, text.dropWhile isDigit)
  else none

/-- A text that is a 32-bit decimal number and nothing else. -/
def readUInt32 (text : Text) : Option UInt32 :=
  match fromChars (2 ^ 32) text with
  | some (value, []) => some (UInt32.ofNat value)
  | _ => none

def digitByte (d : ℕ) : UInt8 := UInt8.ofNat (48 + d)

def decimal (n : ℕ) : Text :=
  if n = 0 then [48] else ((Nat.digits 10 n).map digitByte).reverse

theorem decimalValue_append_digit (text : Text) {d : ℕ} (hd : d < 10) :
    decimalValue (text ++ [digitByte d]) = decimalValue text * 10 + d := by
  have hbyte : (digitByte d).toNat = 48 + d := by
    simp only [digitByte, UInt8.toNat_ofNat']
    omega
  simp only [decimalValue, List.foldl_append, List.foldl_cons, List.foldl_nil, hbyte]
  omega

theorem decimalValue_digits (digits : List ℕ) (h : ∀ d ∈ digits, d < 10) :
    decimalValue (digits.map digitByte).reverse = Nat.ofDigits 10 digits := by
  induction digits with
  | nil => rfl
  | cons d rest ih =>
      have hrest := ih fun e he => h e (List.mem_cons_of_mem d he)
      rw [List.map_cons, List.reverse_cons, decimalValue_append_digit _ (h d (by simp)), hrest,
        Nat.ofDigits_cons]
      ring

theorem decimalValue_decimal (n : ℕ) : decimalValue (decimal n) = n := by
  unfold decimal
  split
  · next h => subst h; rfl
  · rw [decimalValue_digits _ fun d hd => Nat.digits_lt_base (by decide) hd, Nat.ofDigits_digits]

theorem decimal_injective {m n : ℕ} (h : decimal m = decimal n) : m = n := by
  rw [← decimalValue_decimal m, h, decimalValue_decimal]

theorem isDigit_digitByte {d : ℕ} (hd : d < 10) : isDigit (digitByte d) = true := by
  have : ∀ e < 10, isDigit (digitByte e) = true := by decide
  exact this d hd

theorem isDigit_decimal (n : ℕ) : ∀ c ∈ decimal n, isDigit c = true := by
  intro c hc
  unfold decimal at hc
  split at hc
  · obtain rfl : c = 48 := by simpa using hc
    rfl
  · simp only [List.mem_reverse, List.mem_map] at hc
    obtain ⟨d, hd, rfl⟩ := hc
    exact isDigit_digitByte (Nat.digits_lt_base (by decide) hd)

theorem decimal_ne_nil (n : ℕ) : decimal n ≠ [] := by
  unfold decimal
  split
  · simp
  · next h => simpa [Nat.digits_eq_nil_iff_eq_zero] using h

theorem takeWhile_digits {text rest : Text} (h : ∀ c ∈ text, isDigit c = true)
    (hrest : ∀ c ∈ rest.head?, isDigit c = false) :
    (text ++ rest).takeWhile isDigit = text ∧ (text ++ rest).dropWhile isDigit = rest := by
  induction text with
  | nil =>
      cases rest with
      | nil => simp
      | cons c rest =>
          have hc := hrest c rfl
          simp [hc]
  | cons c text ih =>
      have hc := h c (by simp)
      obtain ⟨htake, hdrop⟩ := ih fun d hd => h d (List.mem_cons_of_mem c hd)
      simp [hc, htake, hdrop]

theorem fromChars_decimal {n bound : ℕ} (hn : n < bound) (rest : Text)
    (hrest : ∀ c ∈ rest.head?, isDigit c = false) :
    fromChars bound (decimal n ++ rest) = some (n, rest) := by
  obtain ⟨htake, hdrop⟩ := takeWhile_digits (isDigit_decimal n) hrest
  simp [fromChars, htake, hdrop, decimal_ne_nil, decimalValue_decimal, hn]

theorem readUInt32_decimal (n : UInt32) : readUInt32 (decimal n.toNat) = some n := by
  have h := fromChars_decimal n.toNat_lt [] (by simp)
  rw [List.append_nil] at h
  simp [readUInt32, h]

theorem fromChars_all {bound value : ℕ} {text : Text} (h : fromChars bound text = some (value, [])) :
    text ≠ [] ∧ text.all isDigit = true ∧ decimalValue text = value ∧ value < bound := by
  simp only [fromChars] at h
  split_ifs at h with hne hlt
  rw [Option.some.injEq, Prod.mk.injEq] at h
  have hall : text.takeWhile isDigit = text := by
    have happend := List.takeWhile_append_dropWhile (p := isDigit) (l := text)
    rwa [h.2, List.append_nil] at happend
  rw [hall] at hne hlt h
  exact ⟨hne, List.takeWhile_eq_self_iff.mp hall |> List.all_eq_true.mpr, h.1, h.1 ▸ hlt⟩

theorem readUInt32_digits {text : Text} {value : UInt32} (h : readUInt32 text = some value) :
    text ≠ [] ∧ text.all isDigit = true ∧ decimalValue text = value.toNat := by
  unfold readUInt32 at h
  split at h
  · next number hread =>
      obtain ⟨hne, hall, heq, hlt⟩ := fromChars_all hread
      cases h
      rw [UInt32.toNat_ofNat_of_lt' hlt]
      exact ⟨hne, hall, heq⟩
  · cases h

/-! ## Cutting -/

theorem cut_append {p : UInt8 → Bool} {key : Text} {c : UInt8} (hkey : ∀ x ∈ key, p x = false)
    (hc : p c = true) (rest : Text) : cut p (key ++ c :: rest) = some (key, rest) := by
  have hnot : ∀ x ∈ key, (!p x) = true := by
    intro x hx
    rw [hkey x hx]
    rfl
  rw [cut, List.dropWhile_append_of_pos hnot, List.takeWhile_append_of_pos hnot,
    List.dropWhile_cons_of_neg (by simp [hc]), List.takeWhile_cons_of_neg (by simp [hc]),
    List.append_nil]

theorem cut_none {p : UInt8 → Bool} {text : Text} (h : ∀ c ∈ text, p c = false) :
    cut p text = none := by
  have hall : text.dropWhile (fun c => !p c) = [] := by
    rw [List.dropWhile_eq_nil_iff]
    intro c hc
    rw [h c hc]
    rfl
  rw [cut, hall]

theorem cut_eq_none {p : UInt8 → Bool} {text : Text} (h : cut p text = none) :
    ∀ c ∈ text, p c = false := by
  unfold cut at h
  split at h
  · next hall =>
      intro c hc
      simpa using List.dropWhile_eq_nil_iff.mp hall c hc
  · cases h

theorem cut_eq_some {p : UInt8 → Bool} {text key rest : Text} (h : cut p text = some (key, rest)) :
    ∃ c, text = key ++ c :: rest ∧ p c = true ∧ ∀ d ∈ key, p d = false := by
  unfold cut at h
  split at h
  · cases h
  · next c tail htail =>
      simp only [Option.some.injEq, Prod.mk.injEq] at h
      obtain ⟨rfl, rfl⟩ := h
      refine ⟨c, ?_, ?_, ?_⟩
      · rw [← htail, List.takeWhile_append_dropWhile]
      · have hhead := List.head?_dropWhile_not (fun c => !p c) text
        rw [htail] at hhead
        simpa using hhead
      · intro d hd
        simpa using List.mem_takeWhile_imp hd

/-! ## Fields and trimming -/

theorem fields_cons_separator (p : UInt8 → Bool) {c : UInt8} (hc : p c = true) (text : Text) :
    fields p (c :: text) = fields p text := by
  simp [fields, List.splitOnP_cons_eq_if_modifyHead, hc]

theorem fields_append_separator (p : UInt8 → Bool) (word : Text) {c : UInt8} (hc : p c = true)
    (text : Text) : fields p (word ++ c :: text) = fields p word ++ fields p text := by
  simp [fields, List.splitOnP_append_cons _ _ hc]

theorem fields_word {p : UInt8 → Bool} {word : Text} (hne : word ≠ [])
    (h : ∀ c ∈ word, p c = false) : fields p word = [word] := by
  simp [fields, List.splitOnP_eq_singleton h, hne]

theorem fields_word_append {p : UInt8 → Bool} {word rest : Text} (hne : word ≠ [])
    (hword : ∀ c ∈ word, p c = false) (hrest : ∀ c ∈ rest.head?, p c = true) :
    fields p (word ++ rest) = word :: fields p rest := by
  cases rest with
  | nil => rw [List.append_nil, fields_word hne hword, fields, List.splitOnP_nil]; rfl
  | cons c rest =>
      have hc : p c = true := hrest c rfl
      rw [fields_append_separator p word hc, fields_cons_separator p hc, fields_word hne hword,
        List.singleton_append]

theorem fields_dropWhile (p : UInt8 → Bool) (text : Text) :
    fields p (text.dropWhile p) = fields p text := by
  induction text with
  | nil => rfl
  | cons c rest ih =>
      cases hc : p c with
      | true => rw [List.dropWhile_cons_of_pos hc, fields_cons_separator p hc, ih]
      | false => rw [List.dropWhile_cons_of_neg (by simp [hc])]

theorem fields_blank {p : UInt8 → Bool} {text : Text} (h : ∀ c ∈ text, p c = true) :
    fields p text = [] := by
  induction text with
  | nil => rfl
  | cons c text ih =>
      rw [fields_cons_separator p (h c (by simp))]
      exact ih fun d hd => h d (List.mem_cons_of_mem c hd)

theorem fields_append_blank {p : UInt8 → Bool} (text : Text) {blank : Text}
    (h : ∀ c ∈ blank, p c = true) : fields p (text ++ blank) = fields p text := by
  cases blank with
  | nil => simp
  | cons c blank =>
      rw [fields_append_separator p text (h c (by simp)),
        fields_blank fun d hd => h d (List.mem_cons_of_mem c hd), List.append_nil]

theorem fields_blank_append {p : UInt8 → Bool} {blank : Text} (h : ∀ c ∈ blank, p c = true)
    (text : Text) : fields p (blank ++ text) = fields p text := by
  induction blank with
  | nil => rfl
  | cons c blank ih =>
      rw [List.cons_append, fields_cons_separator p (h c (by simp))]
      exact ih fun d hd => h d (List.mem_cons_of_mem c hd)

theorem blank_of_fields_nil {p : UInt8 → Bool} {text : Text} (h : fields p text = []) :
    ∀ c ∈ text, p c = true := by
  induction text with
  | nil => simp
  | cons c text ih =>
      cases hc : p c with
      | true =>
          rw [fields_cons_separator p hc] at h
          intro d hd
          cases hd with
          | head => exact hc
          | tail _ hd => exact ih h d hd
      | false =>
          obtain ⟨first, rest, hsplit⟩ :=
            List.exists_cons_of_ne_nil (List.splitOnP_ne_nil p text)
          simp [fields, List.splitOnP_cons_eq_if_modifyHead, hc, hsplit] at h

theorem piece_of_mem_splitOnP {p : UInt8 → Bool} {text piece : Text}
    (h : piece ∈ text.splitOnP p) : ∀ c ∈ piece, p c = false ∧ c ∈ text := by
  induction text generalizing piece with
  | nil =>
      obtain rfl : piece = [] := by simpa using h
      simp
  | cons d text ih =>
      rw [List.splitOnP_cons_eq_if_modifyHead] at h
      split_ifs at h with hd
      · intro c hc
        cases h with
        | head => cases hc
        | tail _ h => exact ⟨(ih h c hc).1, List.mem_cons_of_mem d (ih h c hc).2⟩
      · obtain ⟨first, rest, hsplit⟩ :=
          List.exists_cons_of_ne_nil (List.splitOnP_ne_nil p text)
        rw [hsplit, List.modifyHead_cons] at h
        have hmem : ∀ q ∈ first :: rest, ∀ c ∈ q, p c = false ∧ c ∈ text :=
          fun q hq => ih (hsplit ▸ hq)
        intro c hc
        cases h with
        | head =>
            cases hc with
            | head => exact ⟨by simpa using hd, by simp⟩
            | tail _ hc =>
                obtain ⟨hp, hin⟩ := hmem first (by simp) c hc
                exact ⟨hp, List.mem_cons_of_mem d hin⟩
        | tail _ h =>
            obtain ⟨hp, hin⟩ := hmem piece (List.mem_cons_of_mem _ h) c hc
            exact ⟨hp, List.mem_cons_of_mem d hin⟩

theorem field_of_mem {p : UInt8 → Bool} {text field : Text} (h : field ∈ fields p text) :
    field ≠ [] ∧ ∀ c ∈ field, p c = false ∧ c ∈ text := by
  obtain ⟨hmem, hne⟩ := List.mem_filter.mp h
  exact ⟨by simpa using hne, piece_of_mem_splitOnP hmem⟩

/-- A text is its trimmed part between two blank ones. -/
theorem trim_decompose (p : UInt8 → Bool) (text : Text) :
    ∃ before after, text = before ++ trim p text ++ after ∧ (∀ c ∈ before, p c = true) ∧
      ∀ c ∈ after, p c = true := by
  refine ⟨text.takeWhile p, (text.dropWhile p).rtakeWhile p, ?_, ?_, ?_⟩
  · rw [List.append_assoc, trim, List.rdropWhile_append_rtakeWhile, List.takeWhile_append_dropWhile]
  · intro c hc
    exact List.mem_takeWhile_imp hc
  · intro c hc
    exact List.mem_rtakeWhile_imp hc

theorem fields_trim (p : UInt8 → Bool) (text : Text) : fields p (trim p text) = fields p text := by
  obtain ⟨before, after, htext, hbefore, hafter⟩ := trim_decompose p text
  conv_rhs => rw [htext]
  rw [fields_append_blank _ hafter, fields_blank_append hbefore]

theorem trim_head {p : UInt8 → Bool} {text : Text} {c : UInt8} {rest : Text}
    (h : trim p text = c :: rest) : p c = false := by
  have hprefix : trim p text <+: text.dropWhile p := List.rdropWhile_prefix p _
  rw [h] at hprefix
  obtain ⟨tail, htail⟩ := hprefix
  have hhead := List.head?_dropWhile_not p text
  rw [← htail] at hhead
  simpa using hhead

theorem trim_last {p : UInt8 → Bool} {text init : Text} {c : UInt8}
    (h : trim p text = init ++ [c]) : p c = false := by
  have hlast := List.rdropWhile_last_not p (text.dropWhile p)
  have hne : (text.dropWhile p).rdropWhile p ≠ [] := by
    intro hnil
    rw [trim, hnil] at h
    simp at h
  have heq : ((text.dropWhile p).rdropWhile p).getLast hne = c := by
    have hget : ((text.dropWhile p).rdropWhile p).getLast? = some c := by
      have htrim : (text.dropWhile p).rdropWhile p = init ++ [c] := h
      rw [htrim]
      simp
    rw [List.getLast?_eq_getLast_of_ne_nil hne] at hget
    exact Option.some.inj hget
  simpa [heq] using hlast hne

/-- A trimmed text is the only field exactly when it has no separator inside. -/
theorem fields_eq_singleton {p : UInt8 → Bool} {text word : Text} :
    fields p text = [word] ↔ trim p text = word ∧ word ≠ [] ∧ ∀ c ∈ word, p c = false := by
  constructor
  · intro h
    have hmem : word ∈ fields p text := by simp [h]
    obtain ⟨hne, hclean⟩ := field_of_mem hmem
    have hclean' : ∀ c ∈ word, p c = false := fun c hc => (hclean c hc).1
    refine ⟨?_, hne, hclean'⟩
    rw [← fields_trim] at h
    by_cases hall : ∀ c ∈ trim p text, p c = false
    · have hnonempty : trim p text ≠ [] := by
        intro hnil
        rw [hnil] at h
        cases h
      rw [fields_word hnonempty hall] at h
      simpa using h
    · exfalso
      obtain ⟨c, hc, hpc⟩ : ∃ c ∈ trim p text, p c = true := by simpa using hall
      obtain ⟨before, after, hsplit⟩ := List.append_of_mem hc
      rw [hsplit, fields_append_separator p before hpc] at h
      have hbefore : fields p before ≠ [] := by
        intro hnil
        cases before with
        | nil => exact absurd (trim_head hsplit) (by simp [hpc])
        | cons d before =>
            have hd := blank_of_fields_nil hnil d (by simp)
            exact absurd (trim_head hsplit) (by simp [hd])
      obtain ⟨first, rest, hfields⟩ := List.exists_cons_of_ne_nil hbefore
      have hafter : fields p after = [] := by
        rw [hfields, List.cons_append, List.cons.injEq, List.append_eq_nil_iff] at h
        exact h.2.2
      have hblank := blank_of_fields_nil hafter
      obtain ⟨init, last, hlast⟩ := List.eq_nil_or_concat (c :: after) |>.resolve_left (by simp)
      have hlastBlank : p last = true := by
        have hmem : last ∈ c :: after := by rw [hlast]; simp
        cases hmem with
        | head => exact hpc
        | tail _ hmem => exact hblank last hmem
      have hend : trim p text = (before ++ init) ++ [last] := by
        rw [hsplit, hlast]
        simp
      exact absurd (trim_last hend) (by simp [hlastBlank])
  · rintro ⟨htrim, hne, hclean⟩
    rw [← fields_trim, htrim, fields_word hne hclean]

theorem trim_word {p : UInt8 → Bool} {word : Text} (h : ∀ c ∈ word, p c = false) :
    trim p word = word := by
  by_cases hne : word = []
  · subst hne
    rfl
  · exact (fields_eq_singleton.mp (fields_word hne h)).1

theorem isDigit_ne {c d : UInt8} (hc : isDigit c = true) (hd : isDigit d = false) : c ≠ d := by
  rintro rfl
  rw [hc] at hd
  cases hd

theorem isBlank_of_isDigit {c : UInt8} (h : isDigit c = true) : isBlank c = false := by
  have hspace : c ≠ 32 := isDigit_ne h rfl
  have htab : c ≠ 9 := isDigit_ne h rfl
  simp [isBlank, hspace, htab]

theorem trim_decimal (n : ℕ) : trim isBlank (decimal n) = decimal n :=
  trim_word fun c hc => isBlank_of_isDigit (isDigit_decimal n c hc)

/-- Decimal numbers followed by a byte that is no digit are told apart. -/
theorem decimal_append_inj {m n : ℕ} {c : UInt8} (hc : isDigit c = false) {a b : Text}
    (h : decimal m ++ c :: a = decimal n ++ c :: b) : m = n ∧ a = b := by
  have hstop : ∀ rest : Text, ∀ d ∈ (c :: rest).head?, isDigit d = false := by
    intro rest d hd
    obtain rfl : c = d := by simpa using hd
    exact hc
  obtain ⟨hmTake, hmDrop⟩ := takeWhile_digits (isDigit_decimal m) (hstop a)
  obtain ⟨hnTake, hnDrop⟩ := takeWhile_digits (isDigit_decimal n) (hstop b)
  rw [h] at hmTake hmDrop
  have htext := hmTake.symm.trans hnTake
  have hrest := hmDrop.symm.trans hnDrop
  exact ⟨decimal_injective htext, (List.cons.inj hrest).2⟩

end Text

end SimpleWebrtc.Library
