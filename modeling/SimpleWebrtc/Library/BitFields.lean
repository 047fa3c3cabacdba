import Mathlib.Data.Nat.Bitwise
import Mathlib.Tactic.NormNum

/-!
# Equal-width bit fields packed below a header

A word of `count` fields of `width` bits is filled from the most significant
field downwards. Reading a field back is a shift and a mask. The round trip
needs only that every packed value fits its field and that the header leaves
the field area clear.
-/
namespace SimpleWebrtc.Library.BitFields

/-- The position of the field with a given index. -/
def fieldShift (width count index : ℕ) : ℕ := width * (count - 1 - index)

/-- Fill the fields from `index` on. -/
def packFrom (width count : ℕ) : ℕ → List ℕ → ℕ → ℕ
  | _, [], word => word
  | index, field :: fields, word =>
      packFrom width count (index + 1) fields (word ||| field <<< fieldShift width count index)

def field (width count word index : ℕ) : ℕ :=
  (word >>> fieldShift width count index) % 2 ^ width

section
variable {width count : ℕ}

private theorem testBit_field_add {fieldValue index other offset : ℕ} (hw : fieldValue < 2 ^ width)
    (hi : index < count) (ho : other < count) (hoff : offset < width) :
    (fieldValue <<< fieldShift width count index).testBit (fieldShift width count other + offset) =
      (decide (index = other) && fieldValue.testBit offset) := by
  rw [Nat.testBit_shiftLeft]
  by_cases heq : index = other
  · subst heq
    simp
  · simp only [heq, decide_false, Bool.false_and, Bool.and_eq_false_iff, decide_eq_false_iff_not]
    by_cases hlt : other < index
    · right
      apply Nat.testBit_lt_two_pow
      refine lt_of_lt_of_le hw (Nat.pow_le_pow_right (by norm_num) ?_)
      have hstep : width * (count - 1 - index) + width ≤ width * (count - 1 - other) := by
        rw [← Nat.mul_succ]
        exact Nat.mul_le_mul_left width (by omega)
      simp only [fieldShift]
      omega
    · left
      have hstep : width * (count - 1 - other) + width ≤ width * (count - 1 - index) := by
        rw [← Nat.mul_succ]
        exact Nat.mul_le_mul_left width (by omega)
      simp only [fieldShift]
      omega

/-- Packing only sets bits of the fields it fills. -/
theorem packFrom_testBit {fields : List ℕ} {index : ℕ} (word : ℕ)
    (hw : ∀ v ∈ fields, v < 2 ^ width) (hlen : index + fields.length ≤ count)
    {other offset : ℕ} (ho : other < count) (hoff : offset < width) :
    (packFrom width count index fields word).testBit (fieldShift width count other + offset) =
      (word.testBit (fieldShift width count other + offset) ||
        (decide (index ≤ other) && (fields.getD (other - index) 0).testBit offset)) := by
  induction fields generalizing index word with
  | nil => simp [packFrom]
  | cons v fields ih =>
      simp only [List.length_cons] at hlen
      rw [packFrom, ih _ (fun u hu => hw u (by simp [hu])) (by omega),
        Nat.testBit_or, testBit_field_add (hw v (by simp)) (by omega) ho hoff, Bool.or_assoc]
      congr 1
      rcases lt_trichotomy index other with hlt | heq | hgt
      · have hd : other - index = (other - (index + 1)) + 1 := by omega
        simp [hd, Nat.ne_of_lt hlt, Nat.succ_le_of_lt hlt, Nat.le_of_lt hlt]
      · subst heq
        simp
      · simp [Nat.ne_of_gt hgt, Nat.not_le.mpr hgt, show ¬ index + 1 ≤ other by omega]

/-- Bits above every field are those of the header. -/
theorem packFrom_testBit_header {fields : List ℕ} {index : ℕ} (word : ℕ)
    (hw : ∀ v ∈ fields, v < 2 ^ width) (hlen : index + fields.length ≤ count)
    {bit : ℕ} (hbit : width * count ≤ bit) :
    (packFrom width count index fields word).testBit bit = word.testBit bit := by
  induction fields generalizing index word with
  | nil => rfl
  | cons v fields ih =>
      simp only [List.length_cons] at hlen
      have hstep : width * (count - 1 - index) + width ≤ width * count := by
        rw [← Nat.mul_succ]
        exact Nat.mul_le_mul_left width (by omega)
      rw [packFrom, ih _ (fun u hu => hw u (by simp [hu])) (by omega),
        Nat.testBit_or, Nat.testBit_shiftLeft]
      have hv : v.testBit (bit - fieldShift width count index) = false := by
        apply Nat.testBit_lt_two_pow
        refine lt_of_lt_of_le (hw v (by simp)) (Nat.pow_le_pow_right (by norm_num) ?_)
        simp only [fieldShift]
        omega
      simp [hv]

/-- Reading a packed field returns the value which was packed. -/
theorem field_packFrom {fields : List ℕ} (word : ℕ)
    (hw : ∀ v ∈ fields, v < 2 ^ width) (hlen : fields.length ≤ count)
    (hword : ∀ bit < width * count, word.testBit bit = false)
    {index : ℕ} (hi : index < fields.length) :
    field width count (packFrom width count 0 fields word) index = fields[index] := by
  have hic : index < count := by omega
  apply Nat.eq_of_testBit_eq
  intro bit
  rw [field, Nat.testBit_mod_two_pow, Nat.testBit_shiftRight]
  by_cases hb : bit < width
  · have hclear : word.testBit (fieldShift width count index + bit) = false := by
      apply hword
      have hstep : width * (count - 1 - index) + width ≤ width * count := by
        rw [← Nat.mul_succ]
        exact Nat.mul_le_mul_left width (by omega)
      simp only [fieldShift]
      omega
    rw [packFrom_testBit word hw (by omega) hic hb, hclear]
    simp [hb, hi]
  · have hv : fields[index].testBit bit = false := by
      apply Nat.testBit_lt_two_pow
      exact lt_of_lt_of_le (hw _ (List.getElem_mem hi))
        (Nat.pow_le_pow_right (by norm_num) (by omega))
    simp [hb, hv]

theorem packFrom_lt {fields : List ℕ} {index : ℕ} {word bits : ℕ}
    (hw : ∀ v ∈ fields, v < 2 ^ width) (hlen : index + fields.length ≤ count)
    (hbits : width * count ≤ bits) (hword : word < 2 ^ bits) :
    packFrom width count index fields word < 2 ^ bits := by
  apply Nat.lt_pow_two_of_testBit
  intro bit hbit
  rw [packFrom_testBit_header word hw hlen (by omega)]
  exact Nat.testBit_lt_two_pow (lt_of_lt_of_le hword (Nat.pow_le_pow_right (by norm_num) hbit))

end

end SimpleWebrtc.Library.BitFields
