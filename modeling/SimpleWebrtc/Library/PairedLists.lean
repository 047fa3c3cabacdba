import SimpleWebrtc.Library.Fallible

/-!
# Lists taken in pairs

Two lists whose entries are related one by one. What is found, mapped or said of
every entry on one side carries over to the other.
-/
namespace SimpleWebrtc.Library

variable {A B C : Type} {R : A → B → Prop} {as : List A} {bs : List B}

theorem forall₂_mem_left (h : List.Forall₂ R as bs) {a : A} (ha : a ∈ as) : ∃ b ∈ bs, R a b := by
  induction h with
  | nil => cases ha
  | cons hab _ ih =>
      cases ha with
      | head => exact ⟨_, .head _, hab⟩
      | tail _ ha =>
          obtain ⟨b, hb, hR⟩ := ih ha
          exact ⟨b, .tail _ hb, hR⟩

theorem forall₂_mem_right (h : List.Forall₂ R as bs) {b : B} (hb : b ∈ bs) : ∃ a ∈ as, R a b := by
  obtain ⟨a, ha, hR⟩ := forall₂_mem_left h.flip hb
  exact ⟨a, ha, hR⟩

theorem forall₂_getElem? (h : List.Forall₂ R as bs) {index : ℕ} {a : A} {b : B}
    (ha : as[index]? = some a) (hb : bs[index]? = some b) : R a b := by
  induction h generalizing index with
  | nil => cases ha
  | cons hab _ ih =>
      cases index with
      | zero =>
          cases ha
          cases hb
          exact hab
      | succ index => exact ih ha hb

theorem forall₂_comp {S : B → C → Prop} {T : A → C → Prop} {cs : List C}
    (hcomp : ∀ a b c, R a b → S b c → T a c) (hab : List.Forall₂ R as bs)
    (hbc : List.Forall₂ S bs cs) : List.Forall₂ T as cs := by
  induction hab generalizing cs with
  | nil =>
      cases hbc
      exact .nil
  | cons hab _ ih =>
      cases hbc with
      | cons hbc hrest => exact .cons (hcomp _ _ _ hab hbc) (ih hrest)

theorem forall₂_map_eq {f : A → C} {g : B → C} (hfg : ∀ a b, R a b → f a = g b)
    (h : List.Forall₂ R as bs) : as.map f = bs.map g := by
  induction h with
  | nil => rfl
  | cons hab _ ih => rw [List.map_cons, List.map_cons, hfg _ _ hab, ih]

theorem forall₂_zip_map (f : A → C) (h : List.Forall₂ R as bs) :
    List.Forall₂ (fun a (pair : C × B) => pair.1 = f a ∧ R a pair.2) as ((as.map f).zip bs) := by
  induction h with
  | nil => exact .nil
  | cons hab _ ih => exact .cons ⟨rfl, hab⟩ ih

theorem find?_forall₂ {p : A → Bool} {q : B → Bool} (hpq : ∀ a b, R a b → p a = q b)
    (h : List.Forall₂ R as bs) {a : A} (hfind : as.find? p = some a) :
    ∃ b, bs.find? q = some b ∧ R a b := by
  induction h with
  | nil => cases hfind
  | @cons x y xs ys hxy _ ih =>
      rw [List.find?_cons] at hfind
      cases hx : p x with
      | true =>
          rw [hx] at hfind
          cases hfind
          exact ⟨y, by rw [List.find?_cons, ← hpq _ y hxy, hx], hxy⟩
      | false =>
          rw [hx] at hfind
          obtain ⟨b, hb, hab⟩ := ih hfind
          exact ⟨b, by rw [List.find?_cons, ← hpq _ y hxy, hx, hb], hab⟩

theorem forall₂_iff_forall_mem {S : A → B → Prop} {P : A → Prop} (h : List.Forall₂ R as bs)
    (hR : ∀ a ∈ as, ∀ b, R a b → (S a b ↔ P a)) : List.Forall₂ S as bs ↔ ∀ a ∈ as, P a := by
  induction h with
  | nil => simp
  | @cons a b as bs hab _ ih =>
      have hrest := ih fun c hc => hR c (List.mem_cons_of_mem _ hc)
      rw [List.forall₂_cons, hR a (by simp) b hab, hrest, List.forall_mem_cons]

/-- A loop over entries none of which fails succeeds. -/
theorem exists_mapM_ok {E : Type} {f : B → Except E C} {S : A → C → Prop}
    (h : List.Forall₂ R as bs) (hf : ∀ a ∈ as, ∀ b, R a b → ∃ c, f b = .ok c ∧ S a c) :
    ∃ cs, bs.mapM f = .ok cs ∧ List.Forall₂ S as cs := by
  induction h with
  | nil => exact ⟨[], rfl, .nil⟩
  | @cons a b as bs hab _ ih =>
      obtain ⟨cs, hcs, hforall⟩ := ih fun c hc => hf c (List.mem_cons_of_mem _ hc)
      obtain ⟨c, hc, hS⟩ := hf a (by simp) b hab
      refine ⟨c :: cs, ?_, .cons hS hforall⟩
      rw [List.mapM_cons, hc, hcs]
      rfl

end SimpleWebrtc.Library
