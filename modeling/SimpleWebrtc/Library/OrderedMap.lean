import Mathlib.Data.List.Basic
import Mathlib.Order.Lattice

/-!
# Maps ordered by key

A finite map is its entry list in strictly increasing key order. The order is
a field of the structure, so every operation hands back a map which is ordered,
and a key is bound at most once. The operations are those of an ordered
associative container: insertion which keeps an existing entry, removal by
predicate or from the front, and the first entry not below a key.
-/
namespace SimpleWebrtc.Library

structure OrderedMap (κ α : Type*) [LinearOrder κ] where
  entries : List (κ × α)
  sorted : entries.Pairwise fun a b => a.1 < b.1
deriving DecidableEq

namespace OrderedMap
variable {κ α : Type*} [LinearOrder κ]

instance : Membership κ (OrderedMap κ α) where
  mem m key := ∃ value, (key, value) ∈ m.entries

theorem mem_iff {m : OrderedMap κ α} {key : κ} :
    key ∈ m ↔ ∃ value, (key, value) ∈ m.entries := Iff.rfl

theorem mem_of_entry {m : OrderedMap κ α} {key : κ} {value : α}
    (h : (key, value) ∈ m.entries) : key ∈ m := ⟨value, h⟩

instance (key : κ) (m : OrderedMap κ α) : Decidable (key ∈ m) :=
  decidable_of_iff (key ∈ m.entries.map Prod.fst) (by simp [mem_iff])

/-- A key is bound once. -/
theorem entry_unique {m : OrderedMap κ α} {key : κ} {value value' : α}
    (h : (key, value) ∈ m.entries) (h' : (key, value') ∈ m.entries) : value = value' := by
  obtain ⟨entries, sorted⟩ := m
  induction entries with
  | nil => simp at h
  | cons e es ih =>
      obtain ⟨hlt, htail⟩ := List.pairwise_cons.mp sorted
      rcases List.mem_cons.mp h with rfl | hmem <;> rcases List.mem_cons.mp h' with heq | hmem'
      · exact (Prod.mk.inj heq).2.symm
      · exact absurd (hlt _ hmem') (lt_irrefl _)
      · subst heq
        exact absurd (hlt _ hmem) (lt_irrefl _)
      · exact ih htail hmem hmem'

def empty : OrderedMap κ α := ⟨[], List.Pairwise.nil⟩

def size (m : OrderedMap κ α) : ℕ := m.entries.length

def isEmpty (m : OrderedMap κ α) : Bool := m.entries.isEmpty

@[simp] theorem entries_empty : (empty : OrderedMap κ α).entries = [] := rfl
@[simp] theorem not_mem_empty (key : κ) : key ∉ (empty : OrderedMap κ α) := by simp [mem_iff]
@[simp] theorem size_empty : (empty : OrderedMap κ α).size = 0 := rfl

theorem isEmpty_iff {m : OrderedMap κ α} : m.isEmpty = true ↔ ∀ key, key ∉ m := by
  simp only [isEmpty, List.isEmpty_iff, mem_iff, not_exists]
  constructor
  · intro h key value
    simp [h]
  · intro h
    rcases hl : m.entries with _ | ⟨e, es⟩
    · rfl
    · exact absurd (by simp [hl]) (h e.1 e.2)

/-- The value bound to a key. -/
def find? (m : OrderedMap κ α) (key : κ) : Option α :=
  (m.entries.find? fun e => decide (e.1 = key)).map Prod.snd

theorem find?_eq_some {m : OrderedMap κ α} {key : κ} {value : α} :
    m.find? key = some value ↔ (key, value) ∈ m.entries := by
  constructor
  · intro h
    obtain ⟨e, he, rfl⟩ := Option.map_eq_some_iff.mp h
    have hkey : e.1 = key := by simpa using List.find?_some he
    subst hkey
    exact List.mem_of_find?_eq_some he
  · intro h
    rcases hf : m.entries.find? (fun e => decide (e.1 = key)) with _ | e
    · simpa using List.find?_eq_none.mp hf _ h
    · have hkey : e.1 = key := by simpa using List.find?_some hf
      subst hkey
      simp only [find?, hf, Option.map_some, Option.some.injEq]
      exact entry_unique (List.mem_of_find?_eq_some hf) h

theorem find?_eq_none {m : OrderedMap κ α} {key : κ} : m.find? key = none ↔ key ∉ m := by
  rw [Option.eq_none_iff_forall_ne_some, mem_iff, not_exists]
  simp only [ne_eq, find?_eq_some]

theorem isSome_find? {m : OrderedMap κ α} {key : κ} : (m.find? key).isSome = true ↔ key ∈ m := by
  rw [Option.isSome_iff_exists, mem_iff]
  simp only [find?_eq_some]

/-- Insertion which leaves an existing entry alone. -/
def insertEntry (key : κ) (value : α) : List (κ × α) → List (κ × α)
  | [] => [(key, value)]
  | e :: es =>
      if key < e.1 then (key, value) :: e :: es
      else if key = e.1 then e :: es
      else e :: insertEntry key value es

theorem mem_insertEntry {key : κ} {value : α} {es : List (κ × α)} {e : κ × α}
    (sorted : es.Pairwise fun a b => a.1 < b.1) :
    e ∈ insertEntry key value es ↔
      e ∈ es ∨ (e = (key, value) ∧ ∀ other, (key, other) ∉ es) := by
  induction es with
  | nil => simp [insertEntry]
  | cons d ds ih =>
      obtain ⟨hlt, htail⟩ := List.pairwise_cons.mp sorted
      rw [insertEntry]
      split_ifs with hkey heq
      · have hnot : ∀ other, (key, other) ∉ d :: ds := by
          intro other hmem
          rcases List.mem_cons.mp hmem with rfl | hmem
          · exact lt_irrefl _ hkey
          · exact lt_asymm hkey (hlt _ hmem)
        simp [hnot, or_comm]
      · have hyes : (key, d.2) ∈ d :: ds := by simp [heq]
        constructor
        · exact Or.inl
        · rintro (h | ⟨-, hnone⟩)
          · exact h
          · exact absurd hyes (hnone d.2)
      · rw [List.mem_cons, ih htail, List.mem_cons, or_assoc]
        have hd : ∀ other, (key, other) ≠ d := fun other h => heq (by rw [← h])
        simp [hd]

theorem insertEntry_sorted {key : κ} {value : α} {es : List (κ × α)}
    (sorted : es.Pairwise fun a b => a.1 < b.1) :
    (insertEntry key value es).Pairwise fun a b => a.1 < b.1 := by
  induction es with
  | nil => simp [insertEntry]
  | cons d ds ih =>
      obtain ⟨hlt, htail⟩ := List.pairwise_cons.mp sorted
      rw [insertEntry]
      split_ifs with hkey heq
      · refine List.pairwise_cons.mpr ⟨?_, sorted⟩
        intro e he
        rcases List.mem_cons.mp he with rfl | he
        · exact hkey
        · exact lt_trans hkey (hlt _ he)
      · exact sorted
      · refine List.pairwise_cons.mpr ⟨?_, ih htail⟩
        intro e he
        rcases (mem_insertEntry htail).mp he with he | ⟨rfl, -⟩
        · exact hlt _ he
        · exact lt_of_le_of_ne (not_lt.mp hkey) (Ne.symm heq)

/-- The flag says whether the key was new. -/
def tryEmplace (m : OrderedMap κ α) (key : κ) (value : α) : OrderedMap κ α × Bool :=
  (⟨insertEntry key value m.entries, insertEntry_sorted m.sorted⟩, decide (key ∉ m))

@[simp] theorem tryEmplace_snd (m : OrderedMap κ α) (key : κ) (value : α) :
    (m.tryEmplace key value).2 = decide (key ∉ m) := rfl

theorem entry_mem_tryEmplace {m : OrderedMap κ α} {key : κ} {value : α} {e : κ × α} :
    e ∈ (m.tryEmplace key value).1.entries ↔ e ∈ m.entries ∨ (e = (key, value) ∧ key ∉ m) := by
  rw [tryEmplace, mem_insertEntry m.sorted]
  simp [mem_iff]

theorem mem_tryEmplace {m : OrderedMap κ α} {key other : κ} {value : α} :
    other ∈ (m.tryEmplace key value).1 ↔ other ∈ m ∨ other = key := by
  simp only [mem_iff, entry_mem_tryEmplace, Prod.mk.injEq]
  constructor
  · rintro ⟨v, h | ⟨⟨rfl, -⟩, -⟩⟩
    · exact Or.inl ⟨v, h⟩
    · exact Or.inr rfl
  · rintro (⟨v, h⟩ | rfl)
    · exact ⟨v, Or.inl h⟩
    · by_cases hm : ∃ v, (other, v) ∈ m.entries
      · obtain ⟨v, h⟩ := hm
        exact ⟨v, Or.inl h⟩
      · exact ⟨value, Or.inr ⟨⟨rfl, rfl⟩, hm⟩⟩

/-- Keep the entries which satisfy a test. -/
def filter (m : OrderedMap κ α) (keep : κ × α → Bool) : OrderedMap κ α :=
  ⟨m.entries.filter keep, m.sorted.filter keep⟩

theorem entry_mem_filter {m : OrderedMap κ α} {keep : κ × α → Bool} {e : κ × α} :
    e ∈ (m.filter keep).entries ↔ e ∈ m.entries ∧ keep e = true := List.mem_filter

/-- Erase entries from the front until at most `limit` remain. -/
def eraseFrontTo (m : OrderedMap κ α) (limit : ℕ) : OrderedMap κ α :=
  ⟨m.entries.drop (m.entries.length - limit), m.sorted.drop⟩

theorem size_eraseFrontTo (m : OrderedMap κ α) (limit : ℕ) :
    (m.eraseFrontTo limit).size = min m.size limit := by
  simp only [eraseFrontTo, size, List.length_drop]
  omega

theorem entry_mem_of_mem_eraseFrontTo {m : OrderedMap κ α} {limit : ℕ} {e : κ × α}
    (h : e ∈ (m.eraseFrontTo limit).entries) : e ∈ m.entries := List.mem_of_mem_drop h

/-- Only keys below every surviving key are erased from the front. -/
theorem lt_of_erased {m : OrderedMap κ α} {limit : ℕ} {e kept : κ × α} (h : e ∈ m.entries)
    (herased : e ∉ (m.eraseFrontTo limit).entries) (hkept : kept ∈ (m.eraseFrontTo limit).entries) :
    e.1 < kept.1 := by
  have hsplit := List.take_append_drop (m.entries.length - limit) m.entries
  have hsorted := m.sorted
  rw [← hsplit] at h hsorted
  rcases List.mem_append.mp h with htake | hdrop
  · exact (List.pairwise_append.mp hsorted).2.2 e htake kept hkept
  · exact absurd hdrop herased

/-- The entry with the least key. -/
def first? (m : OrderedMap κ α) : Option (κ × α) := m.entries.head?

theorem first?_mem {m : OrderedMap κ α} {e : κ × α} (h : m.first? = some e) : e ∈ m.entries :=
  List.mem_of_head? h

theorem first?_le {m : OrderedMap κ α} {e other : κ × α} (h : m.first? = some e)
    (hmem : other ∈ m.entries) : e.1 ≤ other.1 := by
  obtain ⟨entries, sorted⟩ := m
  rcases entries with _ | ⟨d, ds⟩
  · simp at hmem
  · obtain ⟨hlt, -⟩ := List.pairwise_cons.mp sorted
    obtain rfl : d = e := by simpa [first?] using h
    rcases List.mem_cons.mp hmem with rfl | hmem
    · exact le_refl _
    · exact le_of_lt (hlt _ hmem)

theorem first?_eq_none {m : OrderedMap κ α} : m.first? = none ↔ m.isEmpty = true := by
  simp [first?, isEmpty]

/-- The entry with the least key which is not below the given one. -/
def lowerBound (m : OrderedMap κ α) (key : κ) : Option (κ × α) :=
  m.entries.find? fun e => decide (key ≤ e.1)

theorem lowerBound_mem {m : OrderedMap κ α} {key : κ} {e : κ × α}
    (h : m.lowerBound key = some e) : e ∈ m.entries := List.mem_of_find?_eq_some h

theorem le_lowerBound {m : OrderedMap κ α} {key : κ} {e : κ × α}
    (h : m.lowerBound key = some e) : key ≤ e.1 := by
  simpa using List.find?_some h

theorem lowerBound_eq_none {m : OrderedMap κ α} {key : κ} :
    m.lowerBound key = none ↔ ∀ e ∈ m.entries, e.1 < key := by
  simp [lowerBound]

/-- No entry lies between the key and its lower bound. -/
theorem lowerBound_le {m : OrderedMap κ α} {key : κ} {e other : κ × α}
    (h : m.lowerBound key = some e) (hmem : other ∈ m.entries) (hle : key ≤ other.1) :
    e.1 ≤ other.1 := by
  obtain ⟨entries, sorted⟩ := m
  simp only [lowerBound] at h hmem
  induction entries with
  | nil => simp at hmem
  | cons d ds ih =>
      obtain ⟨hlt, htail⟩ := List.pairwise_cons.mp sorted
      rw [List.find?_cons] at h
      split at h
      · obtain rfl : d = e := by simpa using h
        rcases List.mem_cons.mp hmem with rfl | hmem
        · exact le_refl _
        · exact le_of_lt (hlt _ hmem)
      · next hd =>
        rcases List.mem_cons.mp hmem with rfl | hmem
        · simp [hle] at hd
        · exact ih htail h hmem

end OrderedMap
end SimpleWebrtc.Library
