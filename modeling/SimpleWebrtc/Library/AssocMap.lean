import Mathlib.Data.List.Basic
import Mathlib.Data.List.Nodup
import Mathlib.Data.List.Pairwise
import Mathlib.Data.List.Perm.Subperm

/-!
# Hash maps as association lists

A hash map is observed only by lookup, so it is its entry list with the
distinctness of the keys as a field. Every write primitive rebuilds the field,
and what a write does is stated by the lookup after it.
-/
namespace SimpleWebrtc.Library

structure AssocMap (κ α : Type*) where
  entries : List (κ × α)
  nodup : (entries.map Prod.fst).Nodup
deriving DecidableEq

namespace AssocMap
variable {κ α : Type*} [DecidableEq κ]

def empty : AssocMap κ α := ⟨[], List.nodup_nil⟩

instance : Inhabited (AssocMap κ α) := ⟨empty⟩

/-- The value bound to a key. -/
def find? (m : AssocMap κ α) (key : κ) : Option α :=
  (m.entries.find? fun e => decide (e.1 = key)).map Prod.snd

@[simp] theorem find?_empty (key : κ) : (empty : AssocMap κ α).find? key = none := rfl

theorem find?_eq_some {m : AssocMap κ α} {key : κ} {value : α} :
    m.find? key = some value ↔ (key, value) ∈ m.entries := by
  obtain ⟨entries, nodup⟩ := m
  simp only [find?, Option.map_eq_some_iff]
  induction entries with
  | nil => simp
  | cons e es ih =>
      have hnd : e.1 ∉ es.map Prod.fst ∧ (es.map Prod.fst).Nodup := by
        simpa only [List.map_cons, List.nodup_cons] using nodup
      by_cases hkey : e.1 = key
      · subst hkey
        have hnot : ∀ other, (e.1, other) ∉ es :=
          fun other hmem => hnd.1 (List.mem_map.mpr ⟨_, hmem, rfl⟩)
        simp only [List.find?_cons_of_pos, decide_true, Option.some.injEq, exists_eq_left',
          List.mem_cons, hnot, or_false]
        constructor
        · rintro rfl
          rfl
        · intro h
          exact (congrArg Prod.snd h).symm
      · have hne : (key, value) ≠ e := fun h => hkey (congrArg Prod.fst h).symm
        simp only [List.find?_cons, hkey, decide_false, List.mem_cons, hne, false_or]
        exact ih hnd.2

theorem find?_eq_none {m : AssocMap κ α} {key : κ} :
    m.find? key = none ↔ ∀ value, (key, value) ∉ m.entries := by
  rw [Option.eq_none_iff_forall_ne_some]
  simp only [ne_eq, find?_eq_some]

/-- The entries which satisfy a predicate. -/
def filter (keep : κ → α → Bool) (m : AssocMap κ α) : AssocMap κ α :=
  ⟨m.entries.filter fun e => keep e.1 e.2, m.nodup.sublist (List.filter_sublist.map _)⟩

theorem find?_filter (keep : κ → α → Bool) (m : AssocMap κ α) (key : κ) :
    (m.filter keep).find? key = (m.find? key).filter (keep key) := by
  ext value
  simp only [find?_eq_some, filter, List.mem_filter, Option.filter_eq_some_iff]

def erase (m : AssocMap κ α) (key : κ) : AssocMap κ α := m.filter fun k _ => decide (k ≠ key)

theorem find?_erase (m : AssocMap κ α) (key key' : κ) :
    (m.erase key).find? key' = if key' = key then none else m.find? key' := by
  rw [erase, find?_filter]
  split_ifs with h
  · cases m.find? key' <;> simp [h]
  · cases m.find? key' <;> simp [h]

@[simp] theorem find?_erase_self (m : AssocMap κ α) (key : κ) :
    (m.erase key).find? key = none := by simp [find?_erase]

/-- Binding a key, whether or not it was bound before. -/
def insertOrAssign (m : AssocMap κ α) (key : κ) (value : α) : AssocMap κ α where
  entries := (key, value) :: (m.erase key).entries
  nodup := by
    simp only [List.map_cons, List.nodup_cons]
    refine ⟨?_, (m.erase key).nodup⟩
    intro hmem
    obtain ⟨e, he, hkey⟩ := List.mem_map.mp hmem
    have hsome : (m.erase key).find? e.1 = some e.2 := find?_eq_some.mpr he
    rw [hkey, find?_erase_self] at hsome
    cases hsome

theorem find?_insertOrAssign (m : AssocMap κ α) (key : κ) (value : α) (key' : κ) :
    (m.insertOrAssign key value).find? key' = if key' = key then some value else m.find? key' := by
  split_ifs with h
  · subst h
    simp [find?, insertOrAssign]
  · have hne : key ≠ key' := Ne.symm h
    have herase : (m.erase key).find? key' = m.find? key' := by rw [find?_erase, if_neg h]
    rw [← herase]
    simp [find?, insertOrAssign, hne]

@[simp] theorem find?_insertOrAssign_self (m : AssocMap κ α) (key : κ) (value : α) :
    (m.insertOrAssign key value).find? key = some value := by simp [find?_insertOrAssign]

/-- Rewriting every value in place. -/
def mapValues (f : κ → α → α) (m : AssocMap κ α) : AssocMap κ α where
  entries := m.entries.map fun e => (e.1, f e.1 e.2)
  nodup := by
    rw [List.map_map]
    exact m.nodup

theorem find?_mapValues (f : κ → α → α) (m : AssocMap κ α) (key : κ) :
    (m.mapValues f).find? key = (m.find? key).map (f key) := by
  ext value
  simp only [find?_eq_some, mapValues, List.mem_map, Prod.mk.injEq, Option.map_eq_some_iff]
  constructor
  · rintro ⟨⟨k, v⟩, he, rfl, rfl⟩
    exact ⟨v, he, rfl⟩
  · rintro ⟨v, he, rfl⟩
    exact ⟨(key, v), he, rfl, rfl⟩

/-- The values bound in a map, in the order of the entries. -/
def values (m : AssocMap κ α) : List α := m.entries.map Prod.snd

theorem mem_values {m : AssocMap κ α} {value : α} :
    value ∈ m.values ↔ ∃ key, m.find? key = some value := by
  simp [values, find?_eq_some]

/-- Moving the value of one key under another. -/
def rekey (m : AssocMap κ α) (old new : κ) : AssocMap κ α :=
  match m.find? old with
  | none => m
  | some value => (m.erase old).insertOrAssign new value

theorem find?_rekey {m : AssocMap κ α} {old : κ} {value : α} (h : m.find? old = some value)
    (new key : κ) : (m.rekey old new).find? key =
      if key = new then some value else if key = old then none else m.find? key := by
  simp only [rekey, h, find?_insertOrAssign, find?_erase]

theorem find?_insertOrAssign_rekey (m : AssocMap κ α) (old new : κ) (value : α) (key : κ) :
    ((m.insertOrAssign old value).rekey old new).find? key =
      if key = new then some value else if key = old then none else m.find? key := by
  rw [find?_rekey (find?_insertOrAssign_self m old value), find?_insertOrAssign]
  split_ifs <;> rfl

/-! ## Sums over the entries -/

def size (m : AssocMap κ α) : ℕ := m.entries.length

/-- The sum of a measure over the values. -/
def total (f : α → ℕ) (m : AssocMap κ α) : ℕ := m.values.foldr (fun value n => f value + n) 0

omit [DecidableEq κ] in
theorem size_eq_total (m : AssocMap κ α) : m.size = m.total fun _ => 1 := by
  obtain ⟨entries, nodup⟩ := m
  simp only [size, total, values]
  clear nodup
  induction entries with
  | nil => rfl
  | cons e es ih =>
      simp only [List.length_cons, List.map_cons, List.foldr_cons]
      omega

/-- A map all of whose keys another one has is not larger. -/
theorem size_le_of_keys {β : Type*} {m : AssocMap κ α} {m' : AssocMap κ β}
    (h : ∀ key value, m.find? key = some value → (m'.find? key).isSome = true) :
    m.size ≤ m'.size := by
  have hsubset : m.entries.map Prod.fst ⊆ m'.entries.map Prod.fst := by
    intro key hkey
    obtain ⟨e, he, rfl⟩ := List.mem_map.mp hkey
    obtain ⟨value, hvalue⟩ := Option.isSome_iff_exists.mp (h e.1 e.2 (find?_eq_some.mpr he))
    exact List.mem_map.mpr ⟨(e.1, value), find?_eq_some.mp hvalue, rfl⟩
  simpa only [size, List.length_map] using (List.subperm_of_subset m.nodup hsubset).length_le

theorem total_eq_zero (f : α → ℕ) {m : AssocMap κ α} (h : ∀ key, m.find? key = none) :
    m.total f = 0 := by
  rcases hentries : m.entries with _ | ⟨e, es⟩
  · simp [total, values, hentries]
  · have hmem : (e.1, e.2) ∈ m.entries := by simp [hentries]
    exact absurd hmem (find?_eq_none.mp (h e.1) e.2)

theorem erase_of_none {m : AssocMap κ α} {key : κ} (h : m.find? key = none) :
    m.erase key = m := by
  obtain ⟨entries, nodup⟩ := m
  simp only [erase, filter, AssocMap.mk.injEq, List.filter_eq_self, decide_eq_true_eq]
  intro e he heq
  subst heq
  exact find?_eq_none.mp h e.2 he

/-- Removing a bound key takes its value out of the sum. -/
theorem total_erase (f : α → ℕ) {m : AssocMap κ α} {key : κ} {value : α}
    (h : m.find? key = some value) : (m.erase key).total f + f value = m.total f := by
  obtain ⟨entries, nodup⟩ := m
  rw [find?_eq_some] at h
  simp only [total, values, erase, filter] at h ⊢
  induction entries with
  | nil => simp at h
  | cons e es ih =>
      have hnd : e.1 ∉ es.map Prod.fst ∧ (es.map Prod.fst).Nodup := by
        simpa only [List.map_cons, List.nodup_cons] using nodup
      rcases List.mem_cons.mp h with rfl | hmem
      · have hrest : es.filter (fun e => decide (e.1 ≠ key)) = es := by
          rw [List.filter_eq_self]
          intro e he
          have hne : e.1 ≠ key := fun heq => hnd.1 (List.mem_map.mpr ⟨e, he, heq⟩)
          simpa using hne
        simp only [ne_eq, not_true_eq_false, decide_false, Bool.false_eq_true,
          not_false_eq_true, List.filter_cons_of_neg, List.map_cons, List.foldr_cons]
        rw [hrest]
        omega
      · have hne : e.1 ≠ key := fun heq => hnd.1 (List.mem_map.mpr ⟨_, hmem, heq.symm⟩)
        have htail := ih hnd.2 hmem
        simp only [ne_eq, hne, not_false_eq_true, decide_true, List.filter_cons_of_pos,
          List.map_cons, List.foldr_cons] at htail ⊢
        omega

theorem total_insertOrAssign (f : α → ℕ) (m : AssocMap κ α) (key : κ) (value : α) :
    (m.insertOrAssign key value).total f = f value + (m.erase key).total f := by
  simp [total, values, insertOrAssign]

/-- Binding a new key adds its value to the sum. -/
theorem total_insertOrAssign_none (f : α → ℕ) {m : AssocMap κ α} {key : κ}
    (h : m.find? key = none) (value : α) :
    (m.insertOrAssign key value).total f = f value + m.total f := by
  rw [total_insertOrAssign, erase_of_none h]

/-- Rebinding a key replaces its value in the sum. -/
theorem total_insertOrAssign_some (f : α → ℕ) {m : AssocMap κ α} {key : κ} {old : α}
    (h : m.find? key = some old) (value : α) :
    (m.insertOrAssign key value).total f + f old = f value + m.total f := by
  have herase := total_erase f h
  rw [total_insertOrAssign]
  omega

/-! ## Maps with one key -/

/-- There is no key but one, and a property holds of its value. -/
def Only (key : κ) (p : α → Prop) (m : AssocMap κ α) : Prop :=
  ∀ key' value, m.find? key' = some value → key' = key ∧ p value

namespace Only
variable {key : κ} {p : α → Prop} {m : AssocMap κ α}

theorem of_find?_eq_none (h : ∀ key', m.find? key' = none) : Only key p m := by
  intro key' value hfind
  rw [h key'] at hfind
  cases hfind

theorem erase (h : Only key p m) (key' : κ) : (m.erase key).find? key' = none := by
  rw [find?_erase]
  split_ifs with hkey
  · rfl
  · rw [Option.eq_none_iff_forall_ne_some]
    intro value hvalue
    exact hkey (h key' value hvalue).1

/-- Without its only key a map is empty. -/
theorem of_erased {m' : AssocMap κ α} (h : Only key p m) {key' : κ} {p' : α → Prop}
    (heq : ∀ k, m'.find? k = if k = key then none else m.find? k) : Only key' p' m' := by
  apply of_find?_eq_none
  intro k
  rw [heq, ← find?_erase]
  exact h.erase k

theorem insertOrAssign (h : Only key p m) {value : α} (hvalue : p value) :
    Only key p (m.insertOrAssign key value) := by
  intro key' value' hfind
  rw [find?_insertOrAssign] at hfind
  split_ifs at hfind with heq
  · cases hfind
    exact ⟨heq, hvalue⟩
  · exact h key' value' hfind

theorem rekey (h : Only key p m) (new : κ) : Only new p (m.rekey key new) := by
  intro key' value' hfind
  cases hold : m.find? key with
  | none =>
      rw [AssocMap.rekey, hold] at hfind
      obtain ⟨rfl, -⟩ := h key' value' hfind
      rw [hold] at hfind
      cases hfind
  | some value =>
      rw [find?_rekey hold] at hfind
      split_ifs at hfind with heq hkey
      · cases hfind
        exact ⟨heq, (h key value' hold).2⟩
      · exact absurd (h key' value' hfind).1 hkey

end Only
end AssocMap

/-- An order in which the entries of a hash map may be visited. -/
structure VisitOrder (α : Type*) where
  visit : List α → List α
  perm : ∀ xs, (visit xs).Perm xs

namespace VisitOrder
variable {α : Type*}

@[simp] theorem mem_visit (order : VisitOrder α) {x : α} {xs : List α} :
    x ∈ order.visit xs ↔ x ∈ xs := (order.perm xs).mem_iff

/-- The order of the entries themselves. -/
def asStored : VisitOrder α := ⟨id, fun _ => .refl _⟩

end VisitOrder
end SimpleWebrtc.Library
