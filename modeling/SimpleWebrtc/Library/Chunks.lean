import Mathlib.Data.List.Basic

/-!
# Chunks

A list cut from its front into pieces of at most a given length, the way a loop
with a growing offset does.
-/
namespace SimpleWebrtc.Library
variable {α : Type*}

def chunksFrom (size : ℕ) : ℕ → List α → List (List α)
  | 0, _ => []
  | _ + 1, [] => []
  | fuel + 1, x :: xs => (x :: xs).take size :: chunksFrom size fuel ((x :: xs).drop size)

/-- As many steps as there are entries are enough. -/
def chunks (size : ℕ) (xs : List α) : List (List α) := chunksFrom size xs.length xs

theorem chunksFrom_flatten {size : ℕ} (hsize : 0 < size) (fuel : ℕ) (xs : List α)
    (h : xs.length ≤ fuel) : (chunksFrom size fuel xs).flatten = xs := by
  induction fuel generalizing xs with
  | zero =>
      rw [List.eq_nil_of_length_eq_zero (Nat.le_zero.mp h)]
      rfl
  | succ fuel ih =>
      cases xs with
      | nil => rfl
      | cons x xs =>
          have hrest : ((x :: xs).drop size).length ≤ fuel := by
            rw [List.length_drop]
            omega
          rw [chunksFrom, List.flatten_cons, ih _ hrest, List.take_append_drop]

/-- The pieces put together are the list. -/
theorem chunks_flatten {size : ℕ} (hsize : 0 < size) (xs : List α) :
    (chunks size xs).flatten = xs :=
  chunksFrom_flatten hsize xs.length xs (Nat.le_refl _)

theorem chunksFrom_nil (size fuel : ℕ) : chunksFrom size fuel ([] : List α) = [] := by
  cases fuel with
  | zero => rfl
  | succ fuel => rfl

theorem chunksFrom_length (size fuel : ℕ) (xs : List α) :
    (chunksFrom size fuel xs).length * size ≤ xs.length + size := by
  induction fuel generalizing xs with
  | zero => simp [chunksFrom]
  | succ fuel ih =>
      cases xs with
      | nil => simp [chunksFrom]
      | cons x xs =>
          rw [chunksFrom, List.length_cons, Nat.succ_mul]
          rcases Nat.lt_or_ge (x :: xs).length size with hfew | hmany
          · rw [List.drop_eq_nil_of_le (Nat.le_of_lt hfew), chunksFrom_nil, List.length_nil]
            omega
          · have hrest := ih ((x :: xs).drop size)
            rw [List.length_drop] at hrest
            omega

/-- No more pieces than it takes. -/
theorem chunks_length (size : ℕ) (xs : List α) :
    (chunks size xs).length * size ≤ xs.length + size :=
  chunksFrom_length size xs.length xs

/-- A piece has entries, and no more than it has room for. -/
theorem mem_chunks {size : ℕ} (hsize : 0 < size) {xs chunk : List α} (h : chunk ∈ chunks size xs) :
    chunk ≠ [] ∧ chunk.length ≤ size ∧ chunk.Sublist xs := by
  unfold chunks at h
  generalize xs.length = fuel at h
  induction fuel generalizing xs with
  | zero => cases h
  | succ fuel ih =>
      cases xs with
      | nil => cases h
      | cons x xs =>
          rcases List.mem_cons.mp h with rfl | hrest
          · refine ⟨?_, List.length_take_le _ _, List.take_sublist _ _⟩
            rw [List.take_cons hsize]
            exact List.cons_ne_nil _ _
          · obtain ⟨hne, hlength, hsublist⟩ := ih hrest
            exact ⟨hne, hlength, hsublist.trans (List.drop_sublist _ _)⟩

end SimpleWebrtc.Library
