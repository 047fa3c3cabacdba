import Mathlib.Data.List.Basic
import Mathlib.Logic.Function.Iterate

/-!
# Probing a circle of numbers

A search which goes from one number to the next, and from the highest back to
the lowest, comes past every number before it is back where it started.
-/
namespace SimpleWebrtc.Library.CircularProbe

section Probe
variable {A : Type} {next : A → A} {free : A → Bool}

/-- The first free candidate among a number of attempts. -/
def firstFree (next : A → A) (free : A → Bool) : ℕ → A → Option A
  | 0, _ => none
  | attempts + 1, candidate =>
      if free candidate then some candidate else firstFree next free attempts (next candidate)

theorem firstFree_some {attempts : ℕ} {start a : A}
    (h : firstFree next free attempts start = some a) :
    free a = true ∧ ∃ k < attempts, next^[k] start = a := by
  induction attempts generalizing start with
  | zero => cases h
  | succ attempts ih =>
      rw [firstFree] at h
      by_cases hstart : free start = true
      · rw [if_pos hstart] at h
        cases h
        exact ⟨hstart, 0, Nat.succ_pos attempts, rfl⟩
      · rw [if_neg hstart] at h
        obtain ⟨hfree, k, hk, hreach⟩ := ih h
        exact ⟨hfree, k + 1, Nat.succ_lt_succ hk, hreach⟩

theorem firstFree_none {attempts : ℕ} {start : A}
    (h : firstFree next free attempts start = none) :
    ∀ k < attempts, free (next^[k] start) = false := by
  induction attempts generalizing start with
  | zero =>
      intro k hk
      exact absurd hk (Nat.not_lt_zero k)
  | succ attempts ih =>
      rw [firstFree] at h
      by_cases hstart : free start = true
      · rw [if_pos hstart] at h
        cases h
      · rw [if_neg hstart] at h
        intro k hk
        cases k with
        | zero => exact Bool.eq_false_iff.mpr hstart
        | succ k => exact ih h k (Nat.lt_of_succ_lt_succ hk)

end Probe

section Circle
variable {low high : ℕ}

/-- The next number on the circle from `low` to `high`. -/
def advance (low high n : ℕ) : ℕ := if n = high then low else n + 1

theorem advance_mem {n : ℕ} (hlow : low ≤ n) (hhigh : n ≤ high) :
    low ≤ advance low high n ∧ advance low high n ≤ high := by
  rw [advance]
  split_ifs with h
  · omega
  · omega

/-- Going on from the position reached so far is adding to it, around the circle. -/
theorem advance_position {n : ℕ} (hlow : low ≤ n) (hhigh : n ≤ high) :
    advance low high n - low = (n - low + 1) % (high - low + 1) := by
  rw [advance]
  split_ifs with h
  · rw [h, Nat.mod_self, Nat.sub_self]
  · rw [Nat.mod_eq_of_lt (by omega)]
    omega

theorem iterate_mem {n : ℕ} (hlow : low ≤ n) (hhigh : n ≤ high) (k : ℕ) :
    low ≤ (advance low high)^[k] n ∧ (advance low high)^[k] n ≤ high := by
  induction k with
  | zero => exact ⟨hlow, hhigh⟩
  | succ k ih =>
      rw [Function.iterate_succ_apply']
      exact advance_mem ih.1 ih.2

theorem iterate_position {n : ℕ} (hlow : low ≤ n) (hhigh : n ≤ high) (k : ℕ) :
    (advance low high)^[k] n - low = (n - low + k) % (high - low + 1) := by
  induction k with
  | zero =>
      rw [Function.iterate_zero_apply, Nat.add_zero, Nat.mod_eq_of_lt (by omega)]
  | succ k ih =>
      have hmem := iterate_mem hlow hhigh k
      rw [Function.iterate_succ_apply', advance_position hmem.1 hmem.2, ih, Nat.mod_add_mod,
        Nat.add_assoc]

/-- Every number of the circle comes up within one round. -/
theorem exists_iterate {n target : ℕ} (hlow : low ≤ n) (hhigh : n ≤ high)
    (htargetLow : low ≤ target) (htargetHigh : target ≤ high) :
    ∃ k < high - low + 1, (advance low high)^[k] n = target := by
  by_cases hle : n ≤ target
  · refine ⟨target - n, by omega, ?_⟩
    have hmem := iterate_mem hlow hhigh (target - n)
    have hposition := iterate_position hlow hhigh (target - n)
    rw [Nat.mod_eq_of_lt (by omega)] at hposition
    omega
  · refine ⟨high - low + 1 - (n - target), by omega, ?_⟩
    have hmem := iterate_mem hlow hhigh (high - low + 1 - (n - target))
    have hposition := iterate_position hlow hhigh (high - low + 1 - (n - target))
    have hround : n - low + (high - low + 1 - (n - target)) = target - low + (high - low + 1) := by
      omega
    rw [hround, Nat.add_mod_right, Nat.mod_eq_of_lt (by omega)] at hposition
    omega

end Circle

end SimpleWebrtc.Library.CircularProbe
