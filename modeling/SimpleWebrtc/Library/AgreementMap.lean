import SimpleWebrtc.Library.AssocMap

/-!
# Maps that keep what all agree on

A key is bound while every value given for it is the same. The first value that
differs removes the key for good.
-/
namespace SimpleWebrtc.Library

structure AgreementMap (κ α : Type*) where
  values : AssocMap κ α
  ambiguous : List κ := []
deriving DecidableEq

namespace AgreementMap
variable {κ α : Type*}

/-- All entries of a key have this value, and there is one. -/
def Agreed (entries : List (κ × α)) (key : κ) (value : α) : Prop :=
  (key, value) ∈ entries ∧ ∀ other, (key, other) ∈ entries → other = value

def Disputed (entries : List (κ × α)) (key : κ) : Prop :=
  ∃ value other, (key, value) ∈ entries ∧ (key, other) ∈ entries ∧ value ≠ other

theorem agreed_append_ne {entries : List (κ × α)} {key key' : κ} (h : key' ≠ key)
    (value value' : α) :
    Agreed (entries ++ [(key, value)]) key' value' ↔ Agreed entries key' value' := by
  simp [Agreed, h]

theorem disputed_append_ne {entries : List (κ × α)} {key key' : κ} (h : key' ≠ key) (value : α) :
    Disputed (entries ++ [(key, value)]) key' ↔ Disputed entries key' := by
  simp [Disputed, h]

theorem agreed_append {entries : List (κ × α)} {key : κ} {value value' : α} :
    Agreed (entries ++ [(key, value)]) key value' ↔
      value' = value ∧ ∀ other, (key, other) ∈ entries → other = value := by
  simp only [Agreed, List.mem_append, List.mem_singleton, Prod.mk.injEq, true_and]
  constructor
  · rintro ⟨-, hall⟩
    obtain rfl := hall value (Or.inr rfl)
    exact ⟨rfl, fun other hother => hall other (Or.inl hother)⟩
  · rintro ⟨rfl, hall⟩
    refine ⟨Or.inr rfl, ?_⟩
    rintro other (hother | rfl)
    · exact hall other hother
    · rfl

theorem disputed_append {entries : List (κ × α)} {key : κ} {value : α} :
    Disputed (entries ++ [(key, value)]) key ↔
      Disputed entries key ∨ ∃ other, (key, other) ∈ entries ∧ other ≠ value := by
  simp only [Disputed, List.mem_append, List.mem_singleton, Prod.mk.injEq, true_and]
  constructor
  · rintro ⟨a, b, ha | rfl, hb | rfl, hne⟩
    · exact Or.inl ⟨a, b, ha, hb, hne⟩
    · exact Or.inr ⟨a, ha, hne⟩
    · exact Or.inr ⟨b, hb, hne.symm⟩
    · exact absurd rfl hne
  · rintro (⟨a, b, ha, hb, hne⟩ | ⟨a, ha, hne⟩)
    · exact ⟨a, b, Or.inl ha, Or.inl hb, hne⟩
    · exact ⟨a, value, Or.inl ha, Or.inr rfl, hne⟩

variable [DecidableEq κ] [DecidableEq α]

def empty : AgreementMap κ α := { values := AssocMap.empty }

def add (m : AgreementMap κ α) (key : κ) (value : α) : AgreementMap κ α :=
  if key ∈ m.ambiguous then m
  else match m.values.find? key with
    | none => { m with values := m.values.insertOrAssign key value }
    | some existing =>
        if existing = value then m
        else ⟨m.values.erase key, key :: m.ambiguous⟩

def ofEntries (entries : List (κ × α)) : AgreementMap κ α :=
  entries.foldl (fun m e => m.add e.1 e.2) empty

/-- What the map knows after a list of entries. -/
structure Reads (m : AgreementMap κ α) (entries : List (κ × α)) : Prop where
  bound : ∀ key value, m.values.find? key = some value ↔ Agreed entries key value
  ambiguous : ∀ key, key ∈ m.ambiguous ↔ Disputed entries key

theorem Reads.unbound {m : AgreementMap κ α} {entries : List (κ × α)} (h : m.Reads entries)
    {key : κ} (hclear : key ∉ m.ambiguous) (hnone : m.values.find? key = none) (value : α) :
    (key, value) ∉ entries := by
  intro hmem
  have hagreed : Agreed entries key value := by
    refine ⟨hmem, fun other hother => ?_⟩
    by_contra hne
    exact hclear ((h.ambiguous key).mpr ⟨other, value, hother, hmem, hne⟩)
  have hsome := (h.bound key value).mpr hagreed
  rw [hnone] at hsome
  cases hsome

/-- An entry changes nothing for the other keys. -/
theorem add_ne (m : AgreementMap κ α) {key key' : κ} (h : key' ≠ key) (value : α) :
    (m.add key value).values.find? key' = m.values.find? key' ∧
      (key' ∈ (m.add key value).ambiguous ↔ key' ∈ m.ambiguous) := by
  unfold add
  split_ifs
  · exact ⟨rfl, Iff.rfl⟩
  · cases m.values.find? key with
    | none => simp [AssocMap.find?_insertOrAssign, h]
    | some existing =>
        simp only
        split_ifs
        · exact ⟨rfl, Iff.rfl⟩
        · simp [AssocMap.find?_erase, h]

theorem Reads.add_self {m : AgreementMap κ α} {entries : List (κ × α)} (h : m.Reads entries)
    (key : κ) (value : α) :
    (∀ value', (m.add key value).values.find? key = some value' ↔
      Agreed (entries ++ [(key, value)]) key value') ∧
    (key ∈ (m.add key value).ambiguous ↔ Disputed (entries ++ [(key, value)]) key) := by
  simp only [agreed_append, disputed_append]
  unfold AgreementMap.add
  split_ifs with hambiguous
  · obtain ⟨a, b, ha, hb, hne⟩ := (h.ambiguous key).mp hambiguous
    refine ⟨fun value' => ?_, by simp [hambiguous, (h.ambiguous key).mp hambiguous]⟩
    rw [h.bound]
    constructor
    · rintro ⟨-, hall⟩
      exact absurd ((hall a ha).trans (hall b hb).symm) hne
    · rintro ⟨-, hall⟩
      exact absurd ((hall a ha).trans (hall b hb).symm) hne
  · have hclear := mt (h.ambiguous key).mpr hambiguous
    cases hfind : m.values.find? key with
    | none =>
        have hfresh := h.unbound hambiguous hfind
        simp [hfresh, hambiguous, hclear, eq_comm]
    | some existing =>
        obtain ⟨hexisting, hall⟩ := (h.bound key existing).mp hfind
        simp only
        split_ifs with hsame
        · subst hsame
          refine ⟨fun value' => ?_, ?_⟩
          · rw [hfind]
            simp only [Option.some.injEq]
            exact ⟨fun heq => ⟨heq.symm, hall⟩, fun hagreed => hagreed.1.symm⟩
          · simp only [hambiguous, hclear, false_or, false_iff, not_exists, not_and, not_not]
            exact hall
        · refine ⟨fun value' => ?_, ?_⟩
          · simp only [AssocMap.find?_erase_self, reduceCtorEq, false_iff, not_and, not_forall]
            intro _
            exact ⟨existing, hexisting, hsame⟩
          · simp only [List.mem_cons, true_or, true_iff]
            exact Or.inr ⟨existing, hexisting, hsame⟩

theorem Reads.add {m : AgreementMap κ α} {entries : List (κ × α)} (h : m.Reads entries)
    (key : κ) (value : α) : (m.add key value).Reads (entries ++ [(key, value)]) := by
  obtain ⟨hbound, hambiguous⟩ := h.add_self key value
  constructor
  · intro key' value'
    by_cases hkey : key' = key
    · subst hkey
      exact hbound value'
    · rw [(m.add_ne hkey value).1, agreed_append_ne hkey, h.bound]
  · intro key'
    by_cases hkey : key' = key
    · subst hkey
      exact hambiguous
    · rw [(m.add_ne hkey value).2, disputed_append_ne hkey, h.ambiguous]

theorem reads_foldl {m : AgreementMap κ α} {before : List (κ × α)} (h : m.Reads before)
    (entries : List (κ × α)) :
    (entries.foldl (fun m e => m.add e.1 e.2) m).Reads (before ++ entries) := by
  induction entries generalizing m before with
  | nil => simpa using h
  | cons e entries ih =>
      have hnext := ih (h.add e.1 e.2)
      simpa using hnext

theorem reads_ofEntries (entries : List (κ × α)) : (ofEntries entries).Reads entries := by
  have hempty : (empty : AgreementMap κ α).Reads [] := by
    constructor <;> simp [empty, Agreed, Disputed]
  exact reads_foldl hempty entries

/-- A key is bound to the value all its entries have. -/
theorem find?_ofEntries (entries : List (κ × α)) (key : κ) (value : α) :
    (ofEntries entries).values.find? key = some value ↔ Agreed entries key value :=
  (reads_ofEntries entries).bound key value

end AgreementMap
end SimpleWebrtc.Library
