import Mathlib.Data.List.Forall2

/-!
# Computations that may fail

Inversion rules for a sequence of checks and for a loop that stops at its first
error.
-/
namespace SimpleWebrtc.Library

universe u v

variable {E : Type u} {A B : Type v}

def ensure (condition : Prop) [Decidable condition] (error : E) : Except E PUnit.{v + 1} :=
  if condition then .ok ⟨⟩ else .error error

def orError (error : E) : Option A → Except E A
  | none => .error error
  | some a => .ok a

theorem ensure_ok {condition : Prop} [Decidable condition] {error : E} {u : PUnit.{v + 1}} :
    ensure condition error = .ok u ↔ condition := by
  unfold ensure
  split <;> simp [*]

theorem orError_ok {error : E} {x : Option A} {a : A} : orError error x = .ok a ↔ x = some a := by
  cases x <;> simp [orError]

theorem bind_ok {x : Except E A} {f : A → Except E B} {b : B} :
    x >>= f = .ok b ↔ ∃ a, x = .ok a ∧ f a = .ok b := by
  cases x with
  | error e => simp [bind, Except.bind]
  | ok a => simp [bind, Except.bind]

theorem ensure_bind_ok {condition : Prop} [Decidable condition] {error : E}
    {f : PUnit.{v + 1} → Except E B} {b : B} :
    (ensure condition error >>= f) = .ok b ↔ condition ∧ f ⟨⟩ = .ok b := by
  rw [bind_ok]
  constructor
  · intro h
    obtain ⟨_, hc, hf⟩ := h
    exact ⟨ensure_ok.mp hc, hf⟩
  · intro h
    exact ⟨⟨⟩, ensure_ok.mpr h.1, h.2⟩

theorem ok_bind (a : A) (f : A → Except E B) : (Except.ok a >>= f) = f a := rfl

/-- A check which holds is passed. -/
theorem ensure_pass {condition : Prop} [Decidable condition] {error : E}
    (h : condition) (f : PUnit.{v + 1} → Except E B) : (ensure condition error >>= f) = f ⟨⟩ := by
  rw [ensure, if_pos h]
  rfl

theorem map_ok {x : Except E A} {f : A → B} {b : B} :
    x.map f = .ok b ↔ ∃ a, x = .ok a ∧ f a = b := by
  cases x with
  | error e => simp [Except.map]
  | ok a => simp [Except.map]

theorem ok_of_toOption {x : Except E A} {a : A} (h : x.toOption = some a) : x = .ok a := by
  cases x with
  | error e => cases h
  | ok b =>
      cases h
      rfl

theorem mapM_ok {f : A → Except E B} {xs : List A} {ys : List B} :
    xs.mapM f = .ok ys ↔ List.Forall₂ (fun x y => f x = .ok y) xs ys := by
  induction xs generalizing ys with
  | nil =>
      cases ys <;> simp [pure, Except.pure]
  | cons x xs ih =>
      rw [List.mapM_cons, bind_ok]
      constructor
      · rintro ⟨y, hy, h⟩
        obtain ⟨zs, hzs, h⟩ := bind_ok.mp h
        cases h
        exact .cons hy (ih.mp hzs)
      · intro h
        cases h with
        | cons hy hys => exact ⟨_, hy, bind_ok.mpr ⟨_, ih.mpr hys, rfl⟩⟩

theorem mapM_ok_of_toOption {f : A → Except E B} {xs : List A} {ys : List B}
    (h : xs.map (fun x => (f x).toOption) = ys.map some) : xs.mapM f = .ok ys := by
  rw [mapM_ok]
  induction xs generalizing ys with
  | nil =>
      cases ys with
      | nil => exact .nil
      | cons y ys => cases h
  | cons x xs ih =>
      cases ys with
      | nil => cases h
      | cons y ys =>
          obtain ⟨hx, hxs⟩ := List.cons.inj h
          exact .cons (ok_of_toOption hx) (ih hxs)

theorem forall_of_mapM_ok {f : A → Except E B} {xs : List A} {ys : List B} {P : B → Prop}
    (h : xs.mapM f = .ok ys) (hf : ∀ x ∈ xs, ∀ y, f x = .ok y → P y) : ∀ y ∈ ys, P y := by
  have hall := mapM_ok.mp h
  clear h
  induction hall with
  | nil => simp
  | @cons x y xs ys hy _ ih =>
      intro z hz
      cases hz with
      | head => exact hf x (by simp) y hy
      | tail _ hz => exact ih (fun x hx => hf x (List.mem_cons_of_mem _ hx)) z hz

theorem foldlM_ok_invariant {f : A → B → Except E A} {P : A → Prop} {bs : List B}
    (hf : ∀ a, ∀ b ∈ bs, ∀ a', P a → f a b = .ok a' → P a') {a a' : A} (ha : P a)
    (h : bs.foldlM f a = .ok a') : P a' := by
  induction bs generalizing a with
  | nil =>
      cases h
      exact ha
  | cons b bs ih =>
      rw [List.foldlM_cons] at h
      obtain ⟨next, hnext, h⟩ := bind_ok.mp h
      have hrest : ∀ a, ∀ c ∈ bs, ∀ a', P a → f a c = .ok a' → P a' :=
        fun a c hc => hf a c (List.mem_cons_of_mem b hc)
      exact ih hrest (hf a b (by simp) next ha hnext) h

end SimpleWebrtc.Library
