import Mathlib.Data.Int.ModEq
import Mathlib.Tactic.Linarith
import Mathlib.Tactic.Ring

/-!
# Unwrapping a cyclic counter

A counter is sent modulo twice a half range. The receiver replaces the low part
of the newest number it knows and moves the candidate by one cycle when it is
more than a half range away. The result is congruent to the number which was
sent, never further than the half range, and it is the only such number at a
smaller distance.
-/
namespace SimpleWebrtc.Library.SequenceSpace

def unwrap (half newest wire : ℤ) : ℤ :=
  let candidate := newest / (2 * half) * (2 * half) + wire
  if candidate - newest > half then candidate - 2 * half
  else if newest - candidate > half then candidate + 2 * half
  else candidate

section
variable {half newest wire : ℤ}

theorem unwrap_modEq : unwrap half newest wire ≡ wire [ZMOD 2 * half] := by
  simp only [unwrap]
  split_ifs <;> simp [Int.ModEq]

theorem unwrap_emod (hlo : 0 ≤ wire) (hhi : wire < 2 * half) :
    unwrap half newest wire % (2 * half) = wire := by
  rw [unwrap_modEq, Int.emod_eq_of_lt hlo hhi]

theorem unwrap_distance (hlo : 0 ≤ wire) (hhi : wire < 2 * half) :
    |unwrap half newest wire - newest| ≤ half := by
  have hpos : 0 < 2 * half := lt_of_le_of_lt hlo hhi
  have hdiv : newest / (2 * half) * (2 * half) + newest % (2 * half) = newest := by
    rw [mul_comm]
    exact Int.mul_ediv_add_emod newest (2 * half)
  have hr₀ := Int.emod_nonneg newest (ne_of_gt hpos)
  have hr₁ := Int.emod_lt_of_pos newest hpos
  simp only [unwrap]
  rw [abs_le]
  split_ifs <;> constructor <;> linarith

/-- A congruent number nearer than the half range is the unwrapped one. -/
theorem unwrap_eq_of_near {extended : ℤ} (hlo : 0 ≤ wire) (hhi : wire < 2 * half)
    (hmod : extended % (2 * half) = wire) (hnear : |extended - newest| < half) :
    unwrap half newest wire = extended := by
  have hdist : |unwrap half newest wire - newest| ≤ half := unwrap_distance hlo hhi
  have hcong : unwrap half newest wire ≡ extended [ZMOD 2 * half] := by
    rw [Int.ModEq, unwrap_emod hlo hhi, hmod]
  have hzero := Int.eq_zero_of_abs_lt_dvd hcong.dvd (by
    rw [abs_le] at hdist
    rw [abs_lt] at hnear ⊢
    constructor <;> linarith)
  linarith

end

end SimpleWebrtc.Library.SequenceSpace
