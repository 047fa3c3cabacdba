import SimpleWebrtc.RtpRetransmissionCache

/-!
# Accounting of the retransmission cache

Both loops of `prune` only take elements off the front of the order: a stale one
is dropped, a live one is evicted with its packet. The accounting is an
invariant of these two steps and of storing a packet, and serials increase along
the order, so what is evicted is older than what stays.
-/
namespace SimpleWebrtc.RtpRetransmissionCache
open Library

/-- What holds of the cache between two operations, the last of them not after `now`. -/
structure Accounted (now : ℤ) (c : Cache) : Prop where
  counted : c.byteCount = c.entries.total CacheEntry.bytes
  balanced : c.inserted = c.entries.size + c.evictedAge + c.evictedCapacity
  listed : ∀ key e, c.entries.find? key = some e → (⟨key, e.serial⟩ : OrderEntry) ∈ c.order
  increasing : c.order.Pairwise fun a b => a.serial < b.serial
  issued : ∀ o ∈ c.order, o.serial < c.nextSerial
  keyed : ∀ key e, c.entries.find? key = some e →
    key = makeKey e.packet.targetSsrc e.packet.targetSequenceNumber
  dated : ∀ key e key' e', c.entries.find? key = some e → c.entries.find? key' = some e' →
    e.serial < e'.serial → e.packet.storedAt ≤ e'.packet.storedAt
  past : ∀ key e, c.entries.find? key = some e → e.packet.storedAt ≤ now

theorem create_accounted (config : CacheConfig) (now : ℤ) : Accounted now (create config) where
  counted := rfl
  balanced := rfl
  listed := by simp [create]
  increasing := List.Pairwise.nil
  issued := by simp [create]
  keyed := by simp [create]
  dated := by simp [create]
  past := by simp [create]

theorem Accounted.later {now now' : ℤ} {c : Cache} (h : Accounted now c) (hnow : now ≤ now') :
    Accounted now' c :=
  { h with past := fun key e hfind => (h.past key e hfind).trans hnow }

/-! ## The steps of `prune` -/

/-- One step of either loop takes the front of the order. -/
inductive PruneStep : Cache → Cache → Prop
  | drop {c : Cache} {oldest : OrderEntry} {rest : List OrderEntry}
      (horder : c.order = oldest :: rest)
      (hstale : ∀ e, c.entries.find? oldest.key = some e → e.serial ≠ oldest.serial) :
      PruneStep c { c with order := rest }
  | evict {c : Cache} {oldest : OrderEntry} {rest : List OrderEntry} {e : CacheEntry}
      (ageEviction : Bool) (horder : c.order = oldest :: rest)
      (hfind : c.entries.find? oldest.key = some e) (hserial : e.serial = oldest.serial) :
      PruneStep c { c.eraseEntry oldest.key ageEviction with order := rest }

theorem eraseEntry_some {c : Cache} {key : UInt64} {e : CacheEntry}
    (h : c.entries.find? key = some e) (ageEviction : Bool) :
    c.eraseEntry key ageEviction = { c with
      byteCount := c.byteCount - e.bytes
      entries := c.entries.erase key
      evictedAge := c.evictedAge + ageEviction.toNat
      evictedCapacity := c.evictedCapacity + (!ageEviction).toNat } := by
  cases ageEviction <;> simp [Cache.eraseEntry, h]

theorem eraseEntry_config (c : Cache) (key : UInt64) (ageEviction : Bool) :
    (c.eraseEntry key ageEviction).config = c.config := by
  unfold Cache.eraseEntry
  cases c.entries.find? key with
  | none => rfl
  | some e => cases ageEviction <;> rfl

theorem eraseEntry_order (c : Cache) (key : UInt64) (ageEviction : Bool)
    (order : List OrderEntry) :
    { c.eraseEntry key ageEviction with order } =
      ({ c with order } : Cache).eraseEntry key ageEviction := by
  unfold Cache.eraseEntry
  dsimp only
  cases c.entries.find? key with
  | none => rfl
  | some e => cases ageEviction <;> rfl

namespace Accounted
variable {now : ℤ} {c c' : Cache}

/-- A live entry is the front of the order or behind it. -/
theorem behind {oldest : OrderEntry} {rest : List OrderEntry} (h : Accounted now c)
    (horder : c.order = oldest :: rest) {key : UInt64} {e : CacheEntry}
    (hfind : c.entries.find? key = some e) (hne : (⟨key, e.serial⟩ : OrderEntry) ≠ oldest) :
    (⟨key, e.serial⟩ : OrderEntry) ∈ rest ∧ oldest.serial < e.serial := by
  have hlisted := h.listed key e hfind
  have hincreasing := h.increasing
  rw [horder] at hlisted hincreasing
  have hmem : (⟨key, e.serial⟩ : OrderEntry) ∈ rest := (List.mem_cons.mp hlisted).resolve_left hne
  exact ⟨hmem, (List.pairwise_cons.mp hincreasing).1 _ hmem⟩

theorem drop (h : Accounted now c) {oldest : OrderEntry} {rest : List OrderEntry}
    (horder : c.order = oldest :: rest)
    (hstale : ∀ e, c.entries.find? oldest.key = some e → e.serial ≠ oldest.serial) :
    Accounted now { c with order := rest } := by
  have hincreasing := h.increasing
  have hissued := h.issued
  rw [horder] at hincreasing hissued
  refine { h with
    listed := ?_
    increasing := (List.pairwise_cons.mp hincreasing).2
    issued := fun o ho => hissued o (List.mem_cons_of_mem _ ho) }
  intro key e hfind
  refine (h.behind horder hfind ?_).1
  intro heq
  subst heq
  exact hstale e hfind rfl

theorem evict (h : Accounted now c) {oldest : OrderEntry} {rest : List OrderEntry}
    {e : CacheEntry} (horder : c.order = oldest :: rest)
    (hfind : c.entries.find? oldest.key = some e) (ageEviction : Bool) :
    Accounted now { c.eraseEntry oldest.key ageEviction with order := rest } := by
  have hincreasing := h.increasing
  have hissued := h.issued
  rw [horder] at hincreasing hissued
  have hkept : ∀ key e', (c.entries.erase oldest.key).find? key = some e' →
      key ≠ oldest.key ∧ c.entries.find? key = some e' := by
    intro key e' hfind'
    rw [AssocMap.find?_erase] at hfind'
    split_ifs at hfind' with hkey
    exact ⟨hkey, hfind'⟩
  have hbytes := AssocMap.total_erase CacheEntry.bytes hfind
  have hsize := AssocMap.total_erase (fun _ => 1) hfind
  rw [← AssocMap.size_eq_total, ← AssocMap.size_eq_total] at hsize
  rw [eraseEntry_some hfind]
  constructor
  case counted =>
    have hcounted := h.counted
    dsimp only
    omega
  case balanced =>
    have hbalanced := h.balanced
    dsimp only
    cases ageEviction <;> simp only [Bool.toNat_true, Bool.toNat_false, Bool.not_true,
      Bool.not_false] <;> omega
  case listed =>
    intro key e' hfind'
    obtain ⟨hkey, hold⟩ := hkept key e' hfind'
    refine (h.behind horder hold ?_).1
    intro heq
    exact hkey (congrArg OrderEntry.key heq)
  case increasing => exact (List.pairwise_cons.mp hincreasing).2
  case issued => exact fun o ho => hissued o (List.mem_cons_of_mem _ ho)
  case keyed => exact fun key e' hfind' => h.keyed key e' (hkept key e' hfind').2
  case dated =>
    intro key e' key' e'' hfind' hfind''
    exact h.dated key e' key' e'' (hkept key e' hfind').2 (hkept key' e'' hfind'').2
  case past => exact fun key e' hfind' => h.past key e' (hkept key e' hfind').2

theorem pruneStep (h : Accounted now c) (hstep : PruneStep c c') : Accounted now c' := by
  cases hstep with
  | drop horder hstale => exact h.drop horder hstale
  | evict ageEviction horder hfind hserial => exact h.evict horder hfind ageEviction

theorem pruneSteps (h : Accounted now c) (hsteps : Relation.ReflTransGen PruneStep c c') :
    Accounted now c' := by
  induction hsteps with
  | refl => exact h
  | tail _ hstep ih => exact ih.pruneStep hstep

end Accounted

/-- Entries which are gone were stored before every entry which is left. -/
structure OldestEvicted (before after : Cache) : Prop where
  kept : ∀ key e, after.entries.find? key = some e → before.entries.find? key = some e
  oldest : ∀ key e key' e', before.entries.find? key = some e →
    after.entries.find? key = none → after.entries.find? key' = some e' →
    e.serial < e'.serial ∧ e.packet.storedAt ≤ e'.packet.storedAt

namespace OldestEvicted
variable {now : ℤ} {a b c c' : Cache}

theorem refl (c : Cache) : OldestEvicted c c where
  kept _ _ h := h
  oldest key e key' e' h hnone _ := by
    rw [h] at hnone
    cases hnone

theorem trans (hab : OldestEvicted a b) (hbc : OldestEvicted b c) : OldestEvicted a c where
  kept key e h := hab.kept key e (hbc.kept key e h)
  oldest key e key' e' h hnone hleft := by
    cases hb : b.entries.find? key with
    | none => exact hab.oldest key e key' e' h hb (hbc.kept key' e' hleft)
    | some e'' =>
        have hsame := hab.kept key e'' hb
        rw [h] at hsame
        cases hsame
        exact hbc.oldest key e key' e' hb hnone hleft

theorem of_pruneStep (h : Accounted now c) (hstep : PruneStep c c') : OldestEvicted c c' := by
  cases hstep with
  | drop horder hstale => exact ⟨(refl c).kept, (refl c).oldest⟩
  | @evict oldest rest e ageEviction horder hfind hserial =>
      rw [eraseEntry_some hfind]
      constructor
      · intro key e' hleft
        dsimp only at hleft
        rw [AssocMap.find?_erase] at hleft
        split_ifs at hleft
        exact hleft
      · intro key e₁ key' e' hbefore hnone hleft
        dsimp only at hnone hleft
        rw [AssocMap.find?_erase] at hnone hleft
        split_ifs at hnone hleft with hkey hkey'
        · subst hkey
          rw [hfind] at hbefore
          cases hbefore
          have hne : (⟨key', e'.serial⟩ : OrderEntry) ≠ oldest := by
            intro heq
            exact hkey' (congrArg OrderEntry.key heq)
          have hlt := (h.behind horder hleft hne).2
          rw [← hserial] at hlt
          exact ⟨hlt, h.dated _ _ _ _ hfind hleft hlt⟩
        · rw [hnone] at hbefore
          cases hbefore

theorem of_pruneSteps (h : Accounted now c) (hsteps : Relation.ReflTransGen PruneStep c c') :
    OldestEvicted c c' := by
  induction hsteps with
  | refl => exact refl c
  | tail hprefix hstep ih => exact ih.trans (of_pruneStep (h.pruneSteps hprefix) hstep)

end OldestEvicted

/-! ## The two loops -/

section
variable {c : Cache} {oldest : OrderEntry} {rest : List OrderEntry}

theorem PruneStep.of_none (hfind : c.entries.find? oldest.key = none) :
    PruneStep { c with order := oldest :: rest } { c with order := rest } := by
  apply PruneStep.drop (c := { c with order := oldest :: rest }) rfl
  intro e he
  rw [hfind] at he
  cases he

theorem PruneStep.of_stale {e : CacheEntry} (hfind : c.entries.find? oldest.key = some e)
    (hserial : e.serial ≠ oldest.serial) :
    PruneStep { c with order := oldest :: rest } { c with order := rest } := by
  apply PruneStep.drop (c := { c with order := oldest :: rest }) rfl
  intro e' he'
  rw [hfind] at he'
  cases he'
  exact hserial

theorem PruneStep.of_live {e : CacheEntry} (hfind : c.entries.find? oldest.key = some e)
    (hserial : ¬e.serial ≠ oldest.serial) (ageEviction : Bool) :
    PruneStep { c with order := oldest :: rest }
      { c.eraseEntry oldest.key ageEviction with order := rest } := by
  have hstep := PruneStep.evict (c := { c with order := oldest :: rest }) ageEviction rfl hfind
    (not_not.mp hserial)
  rwa [← eraseEntry_order] at hstep

end

theorem pruneAged_steps (now : ℤ) (c : Cache) (order : List OrderEntry) :
    Relation.ReflTransGen PruneStep { c with order } (Cache.pruneAged now c order) := by
  induction order generalizing c with
  | nil => exact .refl
  | cons oldest rest ih =>
      rw [Cache.pruneAged]
      cases hfind : c.entries.find? oldest.key with
      | none => exact .head (.of_none hfind) (ih c)
      | some e =>
          dsimp only
          split_ifs with hserial hage
          · exact .head (.of_stale hfind hserial) (ih c)
          · exact .refl
          · exact .head (.of_live hfind hserial true) (ih _)

theorem pruneExcess_steps (c : Cache) (order : List OrderEntry) :
    Relation.ReflTransGen PruneStep { c with order } (Cache.pruneExcess c order) := by
  induction order generalizing c with
  | nil => exact .refl
  | cons oldest rest ih =>
      rw [Cache.pruneExcess]
      split_ifs with hexceeds
      · cases hfind : c.entries.find? oldest.key with
        | none => exact .head (.of_none hfind) (ih c)
        | some e =>
            dsimp only
            split_ifs with hserial
            · exact .head (.of_stale hfind hserial) (ih c)
            · exact .head (.of_live hfind hserial false) (ih _)
      · exact .refl

/-- No packet of the cache is too old. -/
def Young (now : ℤ) (c : Cache) : Prop :=
  ∀ key e, c.entries.find? key = some e → c.withinAge now e.packet = true

namespace Accounted
variable {now : ℤ} {c : Cache}

/-- Packets behind a young front are young. -/
theorem young_of_front (h : Accounted now c) {oldest : OrderEntry} {rest : List OrderEntry}
    {e : CacheEntry} (horder : c.order = oldest :: rest)
    (hfind : c.entries.find? oldest.key = some e) (hserial : ¬e.serial ≠ oldest.serial)
    (hage : c.withinAge now e.packet = true) : Young now c := by
  intro key e' hfind'
  by_cases heq : (⟨key, e'.serial⟩ : OrderEntry) = oldest
  · have hkey : key = oldest.key := congrArg OrderEntry.key heq
    rw [hkey, hfind] at hfind'
    cases hfind'
    exact hage
  · have hlt := (h.behind horder hfind' heq).2
    rw [← not_not.mp hserial] at hlt
    have hdated := h.dated _ _ _ _ hfind hfind' hlt
    simp only [Cache.withinAge, decide_eq_true_eq] at hage ⊢
    omega

theorem pruneAged_young {order : List OrderEntry} (h : Accounted now { c with order }) :
    Young now (Cache.pruneAged now c order) := by
  induction order generalizing c with
  | nil =>
      intro key e hfind
      have hlisted := h.listed key e hfind
      cases hlisted
  | cons oldest rest ih =>
      rw [Cache.pruneAged]
      cases hfind : c.entries.find? oldest.key with
      | none => exact ih (h.pruneStep (.of_none hfind))
      | some e =>
          dsimp only
          split_ifs with hserial hage
          · exact ih (h.pruneStep (.of_stale hfind hserial))
          · exact h.young_of_front rfl hfind hserial hage
          · exact ih (h.pruneStep (.of_live hfind hserial true))

/-- With nothing left in the order the cache is empty, so the capacity is kept. -/
theorem exceedsCapacity_nil (h : Accounted now { c with order := [] }) :
    c.exceedsCapacity = false := by
  have hnone : ∀ key, c.entries.find? key = none := by
    intro key
    rw [Option.eq_none_iff_forall_ne_some]
    intro e hfind
    have hlisted := h.listed key e hfind
    cases hlisted
  have hcounted : c.byteCount = c.entries.total CacheEntry.bytes := h.counted
  rw [AssocMap.total_eq_zero _ hnone] at hcounted
  have hsize := AssocMap.size_eq_total c.entries
  rw [AssocMap.total_eq_zero _ hnone] at hsize
  simp only [Cache.exceedsCapacity, decide_eq_false_iff_not, not_or]
  omega

theorem pruneExcess_capacity {order : List OrderEntry} (h : Accounted now { c with order }) :
    (Cache.pruneExcess c order).exceedsCapacity = false := by
  induction order generalizing c with
  | nil => exact h.exceedsCapacity_nil
  | cons oldest rest ih =>
      rw [Cache.pruneExcess]
      split_ifs with hexceeds
      · cases hfind : c.entries.find? oldest.key with
        | none => exact ih (h.pruneStep (.of_none hfind))
        | some e =>
            dsimp only
            split_ifs with hserial
            · exact ih (h.pruneStep (.of_stale hfind hserial))
            · exact ih (h.pruneStep (.of_live hfind hserial false))
      · simpa [Cache.exceedsCapacity] using hexceeds

end Accounted

theorem PruneStep.config {c c' : Cache} (h : PruneStep c c') : c'.config = c.config := by
  cases h with
  | drop horder hstale => rfl
  | evict ageEviction horder hfind hserial => exact eraseEntry_config _ _ _

theorem pruneSteps_config {c c' : Cache} (h : Relation.ReflTransGen PruneStep c c') :
    c'.config = c.config := by
  induction h with
  | refl => rfl
  | tail _ hstep ih => exact hstep.config.trans ih

theorem aged_steps (now : ℤ) (c : Cache) : Relation.ReflTransGen PruneStep c (c.aged now) :=
  pruneAged_steps now c c.order

theorem capped_steps (c : Cache) : Relation.ReflTransGen PruneStep c c.capped :=
  pruneExcess_steps c c.order

theorem prune_steps (now : ℤ) (c : Cache) : Relation.ReflTransGen PruneStep c (c.prune now) :=
  (aged_steps now c).trans (capped_steps _)

/-- The capacity loop takes the oldest packets and does not run out of them. -/
structure CapsOldest (c : Cache) : Prop where
  oldest : OldestEvicted c c.capped
  capped : c.capped.exceedsCapacity = false

namespace Accounted
variable {now : ℤ} {c : Cache}

theorem capsOldest (h : Accounted now c) : CapsOldest c where
  oldest := .of_pruneSteps h (capped_steps c)
  capped := h.pruneExcess_capacity

theorem prune (h : Accounted now c) : Accounted now (c.prune now) :=
  h.pruneSteps (prune_steps now c)

theorem prune_capacity (h : Accounted now c) : (c.prune now).exceedsCapacity = false :=
  (h.pruneSteps (aged_steps now c)).capsOldest.capped

theorem prune_young (h : Accounted now c) : Young now (c.prune now) := by
  have haged := h.pruneSteps (aged_steps now c)
  have hyoung : Young now (c.aged now) := h.pruneAged_young
  intro key e hfind
  have hkept := haged.capsOldest.oldest.kept key e hfind
  have hconfig : (c.prune now).config = (c.aged now).config :=
    pruneSteps_config (capped_steps (c.aged now))
  have hage := hyoung key e hkept
  rw [Cache.withinAge] at hage ⊢
  rwa [hconfig]

end Accounted

/-! ## Storing a packet -/

/-- The entry `store` makes of a packet. -/
def storedEntry (c : Cache) (packet : CachePacket) (now : ℤ) : CacheEntry where
  packet := { packet with storedAt := now }
  serial := c.nextSerial

def packetKey (packet : CachePacket) : UInt64 :=
  makeKey packet.targetSsrc packet.targetSequenceNumber

/-- What `store` changes, with or without a packet under the key before. -/
theorem store_spec (c : Cache) (packet : CachePacket) (now : ℤ) :
    (c.store packet now).entries =
        c.entries.insertOrAssign (packetKey packet) (storedEntry c packet now) ∧
      (c.store packet now).order = c.order ++ [⟨packetKey packet, c.nextSerial⟩] ∧
      (c.store packet now).nextSerial = c.nextSerial + 1 ∧
      (c.store packet now).config = c.config := by
  unfold Cache.store packetKey storedEntry
  dsimp only
  cases c.entries.find? (makeKey packet.targetSsrc packet.targetSequenceNumber) with
  | none => exact ⟨rfl, rfl, rfl, rfl⟩
  | some existing => exact ⟨rfl, rfl, rfl, rfl⟩

theorem find?_store (c : Cache) (packet : CachePacket) (now : ℤ) (key : UInt64) :
    (c.store packet now).entries.find? key =
      if key = packetKey packet then some (storedEntry c packet now)
      else c.entries.find? key := by
  rw [(store_spec c packet now).1, AssocMap.find?_insertOrAssign]

theorem store_counted {c : Cache} (h : c.byteCount = c.entries.total CacheEntry.bytes)
    (packet : CachePacket) (now : ℤ) :
    (c.store packet now).byteCount = (c.store packet now).entries.total CacheEntry.bytes := by
  rw [(store_spec c packet now).1]
  unfold Cache.store
  dsimp only
  cases hfind : c.entries.find? (makeKey packet.targetSsrc packet.targetSequenceNumber) with
  | none =>
      have htotal := AssocMap.total_insertOrAssign_none CacheEntry.bytes hfind
        (storedEntry c packet now)
      simp only [packetKey, storedEntry] at htotal ⊢
      omega
  | some existing =>
      have htotal := AssocMap.total_insertOrAssign_some CacheEntry.bytes hfind
        (storedEntry c packet now)
      simp only [packetKey, storedEntry] at htotal ⊢
      omega

theorem store_balanced {c : Cache}
    (h : c.inserted = c.entries.size + c.evictedAge + c.evictedCapacity)
    (packet : CachePacket) (now : ℤ) :
    (c.store packet now).inserted = (c.store packet now).entries.size +
      (c.store packet now).evictedAge + (c.store packet now).evictedCapacity := by
  rw [(store_spec c packet now).1, AssocMap.size_eq_total]
  rw [AssocMap.size_eq_total] at h
  unfold Cache.store
  dsimp only
  cases hfind : c.entries.find? (makeKey packet.targetSsrc packet.targetSequenceNumber) with
  | none =>
      have htotal := AssocMap.total_insertOrAssign_none (fun _ => 1) hfind
        (storedEntry c packet now)
      simp only [packetKey, htotal]
      omega
  | some existing =>
      have htotal := AssocMap.total_insertOrAssign_some (fun _ => 1) hfind
        (storedEntry c packet now)
      simp only [packetKey] at htotal ⊢
      omega

namespace Accounted
variable {now : ℤ} {c : Cache}

theorem serial_lt (h : Accounted now c) {key : UInt64} {e : CacheEntry}
    (hfind : c.entries.find? key = some e) : e.serial < c.nextSerial :=
  h.issued _ (h.listed key e hfind)

theorem store (h : Accounted now c) (packet : CachePacket) :
    Accounted now (c.store packet now) := by
  obtain ⟨-, horder, hserial, -⟩ := store_spec c packet now
  have hcases : ∀ key e, (c.store packet now).entries.find? key = some e →
      (key = packetKey packet ∧ e = storedEntry c packet now) ∨
        c.entries.find? key = some e := by
    intro key e hfind
    rw [find?_store] at hfind
    split_ifs at hfind with hkey
    · exact .inl ⟨hkey, (Option.some.inj hfind).symm⟩
    · exact .inr hfind
  constructor
  case counted => exact store_counted h.counted packet now
  case balanced => exact store_balanced h.balanced packet now
  case listed =>
    intro key e hfind
    rw [horder, List.mem_append, List.mem_singleton]
    rcases hcases key e hfind with ⟨rfl, rfl⟩ | hold
    · exact .inr rfl
    · exact .inl (h.listed key e hold)
  case increasing =>
    rw [horder, List.pairwise_append]
    refine ⟨h.increasing, List.pairwise_singleton _ _, ?_⟩
    intro o ho o' ho'
    rw [List.mem_singleton] at ho'
    subst ho'
    exact h.issued o ho
  case issued =>
    intro o ho
    rw [horder, List.mem_append, List.mem_singleton] at ho
    rw [hserial]
    rcases ho with ho | rfl
    · exact (h.issued o ho).trans (Nat.lt_succ_self _)
    · exact Nat.lt_succ_self _
  case keyed =>
    intro key e hfind
    rcases hcases key e hfind with ⟨rfl, rfl⟩ | hold
    · rfl
    · exact h.keyed key e hold
  case dated =>
    intro key e key' e' hfind hfind' hlt
    rcases hcases key e hfind with ⟨rfl, rfl⟩ | hold <;>
      rcases hcases key' e' hfind' with ⟨rfl, rfl⟩ | hold'
    · exact le_refl _
    · exact absurd hlt (h.serial_lt hold').le.not_gt
    · exact h.past key e hold
    · exact h.dated key e key' e' hold hold' hlt
  case past =>
    intro key e hfind
    rcases hcases key e hfind with ⟨rfl, rfl⟩ | hold
    · exact le_refl _
    · exact h.past key e hold

/-- Noting the time of a retransmission changes nothing which is accounted. -/
theorem touch (h : Accounted now c) {key : UInt64} {cached : CacheEntry}
    (hfind : c.entries.find? key = some cached) (sent : Option ℤ) :
    Accounted now { c with
      entries := c.entries.insertOrAssign key { cached with lastRetransmittedAt := sent } } := by
  have hbytes := AssocMap.total_insertOrAssign_some CacheEntry.bytes hfind
    { cached with lastRetransmittedAt := sent }
  have hsize := AssocMap.total_insertOrAssign_some (fun _ => 1) hfind
    { cached with lastRetransmittedAt := sent }
  rw [← AssocMap.size_eq_total, ← AssocMap.size_eq_total] at hsize
  have hcases : ∀ key' e,
      (c.entries.insertOrAssign key { cached with lastRetransmittedAt := sent }).find? key' =
        some e → ∃ e', c.entries.find? key' = some e' ∧ e.serial = e'.serial ∧
          e.packet = e'.packet := by
    intro key' e hfind'
    rw [AssocMap.find?_insertOrAssign] at hfind'
    split_ifs at hfind' with hkey
    · cases hfind'
      exact ⟨cached, hkey ▸ hfind, rfl, rfl⟩
    · exact ⟨e, hfind', rfl, rfl⟩
  constructor
  case counted =>
    have hcounted := h.counted
    simp only [CacheEntry.bytes] at hbytes hcounted ⊢
    omega
  case balanced =>
    have hbalanced := h.balanced
    dsimp only
    omega
  case listed =>
    intro key' e hfind'
    obtain ⟨e', hold, hserial, -⟩ := hcases key' e hfind'
    rw [hserial]
    exact h.listed key' e' hold
  case increasing => exact h.increasing
  case issued => exact h.issued
  case keyed =>
    intro key' e hfind'
    obtain ⟨e', hold, -, hpacket⟩ := hcases key' e hfind'
    rw [hpacket]
    exact h.keyed key' e' hold
  case dated =>
    intro key₁ e₁ key₂ e₂ hfind₁ hfind₂
    obtain ⟨e₁', hold₁, hserial₁, hpacket₁⟩ := hcases key₁ e₁ hfind₁
    obtain ⟨e₂', hold₂, hserial₂, hpacket₂⟩ := hcases key₂ e₂ hfind₂
    rw [hserial₁, hserial₂, hpacket₁, hpacket₂]
    exact h.dated _ _ _ _ hold₁ hold₂
  case past =>
    intro key' e hfind'
    obtain ⟨e', hold, -, hpacket⟩ := hcases key' e hfind'
    rw [hpacket]
    exact h.past key' e' hold

end Accounted
end SimpleWebrtc.RtpRetransmissionCache
