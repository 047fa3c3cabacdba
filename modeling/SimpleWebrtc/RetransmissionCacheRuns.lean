import SimpleWebrtc.Library.Runs
import SimpleWebrtc.RetransmissionCacheAccounting

/-!
# Runs of the retransmission cache

A run takes the operations of the cache at times which do not go back. After
each of them the cache is accounted for and within its capacity, and within its
age unless a packet was rejected, since `remember` returns before it prunes. A
hit is the last packet remembered for its stream and sequence number, read off
the run itself.
-/
namespace SimpleWebrtc.RtpRetransmissionCache
open Library

inductive CacheEvent
  | remember (packet : CachePacket) (now : ℤ)
  | lookupForRetransmission (targetSsrc : UInt32) (targetSequenceNumber : UInt16) (now : ℤ)
  | snapshot (now : ℤ)
  | clear
deriving Repr, DecidableEq

structure CacheState where
  cache : Cache
  now : ℤ

/-- The time of an event; clearing the cache reads no clock. -/
def CacheEvent.at : CacheEvent → ℤ → ℤ
  | .remember _ now, _ => now
  | .lookupForRetransmission _ _ now, _ => now
  | .snapshot now, _ => now
  | .clear, before => before

def Cache.perform (c : Cache) : CacheEvent → Cache
  | .remember packet now => c.remember packet now
  | .lookupForRetransmission ssrc seq now => (c.lookupForRetransmission ssrc seq now).1
  | .snapshot now => (c.snapshot now).1
  | .clear => c.clear

def cacheSystem (config : CacheConfig) : EventSystem CacheState CacheEvent where
  initial s := s.cache = create config
  step s e s' := s.now ≤ e.at s.now ∧ s' = { cache := s.cache.perform e, now := e.at s.now }

/-- An event which hands over a packet that is not taken. -/
def CacheEvent.rejected : CacheEvent → Bool
  | .remember packet _ => Cache.rejects packet
  | _ => false

/-- The caches on which an event starts the capacity loop. -/
def Cache.capacityLoops (c : Cache) : CacheEvent → List Cache
  | .remember packet now =>
      if Cache.rejects packet then []
      else [c.aged now, ((c.prune now).store packet now).aged now]
  | .lookupForRetransmission _ _ now => [c.aged now]
  | .snapshot now => [c.aged now]
  | .clear => []

/-- The packet an event leaves in the cache. -/
def CacheEvent.remembered : CacheEvent → Option CachePacket
  | .remember packet now =>
      if Cache.rejects packet then none else some { packet with storedAt := now }
  | _ => none

/-- The packet remembered last for a stream and a sequence number. -/
def lastRemembered (events : List CacheEvent) (targetSsrc : UInt32)
    (targetSequenceNumber : UInt16) : Option CachePacket :=
  (events.reverse.filterMap CacheEvent.remembered).find? fun packet =>
    decide (packet.targetSsrc = targetSsrc ∧ packet.targetSequenceNumber = targetSequenceNumber)

theorem lastRemembered_snoc (events : List CacheEvent) (e : CacheEvent) (ssrc : UInt32)
    (seq : UInt16) : lastRemembered (events ++ [e]) ssrc seq =
      match e.remembered with
      | none => lastRemembered events ssrc seq
      | some packet =>
          if packet.targetSsrc = ssrc ∧ packet.targetSequenceNumber = seq then some packet
          else lastRemembered events ssrc seq := by
  simp only [lastRemembered, List.reverse_append, List.reverse_singleton, List.singleton_append]
  cases hremembered : e.remembered with
  | none => rw [List.filterMap_cons_none hremembered]
  | some packet =>
      rw [List.filterMap_cons_some hremembered, List.find?_cons]
      by_cases hkey : packet.targetSsrc = ssrc ∧ packet.targetSequenceNumber = seq
      · simp [hkey]
      · simp [hkey]

/-- Every packet of the cache is the last one remembered for its stream and sequence number. -/
def Recalls (events : List CacheEvent) (c : Cache) : Prop :=
  ∀ key e, c.entries.find? key = some e →
    lastRemembered events e.packet.targetSsrc e.packet.targetSequenceNumber = some e.packet

namespace Recalls
variable {events : List CacheEvent} {c c' : Cache}

theorem of_kept (h : Recalls events c)
    (hkept : ∀ key e, c'.entries.find? key = some e → c.entries.find? key = some e) :
    Recalls events c' :=
  fun key e hfind => h key e (hkept key e hfind)

theorem snoc_none (h : Recalls events c) {e : CacheEvent} (hnone : e.remembered = none) :
    Recalls (events ++ [e]) c := by
  intro key entry hfind
  rw [lastRemembered_snoc, hnone]
  exact h key entry hfind

end Recalls

/-! ## One operation -/

/-- The accounting and the bounds, at the time of the last operation. -/
structure Settled (now : ℤ) (c : Cache) : Prop where
  accounted : Accounted now c
  within : c.exceedsCapacity = false

/-- The time of a retransmission noted on a packet of the cache. -/
def Cache.touched (c : Cache) (key : UInt64) (cached : CacheEntry) (now : ℤ) : Cache :=
  { c with entries := c.entries.insertOrAssign key { cached with lastRetransmittedAt := some now } }

theorem lookup_cases (c : Cache) (ssrc : UInt32) (seq : UInt16) (now : ℤ) :
    ((c.lookupForRetransmission ssrc seq now).1 = c.prune now ∧
        (c.lookupForRetransmission ssrc seq now).2.state ≠ .hit) ∨
      ∃ cached, (c.prune now).entries.find? (makeKey ssrc seq) = some cached ∧
        c.lookupForRetransmission ssrc seq now =
          ((c.prune now).touched (makeKey ssrc seq) cached now,
            { state := .hit, packet := some cached.packet }) := by
  unfold Cache.lookupForRetransmission
  dsimp only
  cases hfind : (c.prune now).entries.find? (makeKey ssrc seq) with
  | none => exact .inl ⟨rfl, LookupState.noConfusion⟩
  | some cached =>
      dsimp only
      split_ifs with hsuppress
      · exact .inl ⟨rfl, LookupState.noConfusion⟩
      · exact .inr ⟨cached, rfl, rfl⟩

section
variable {now : ℤ} {c : Cache} {key : UInt64} {cached : CacheEntry}

theorem find?_touched (hfind : c.entries.find? key = some cached) (now : ℤ) {key' : UInt64}
    {e : CacheEntry} (h : (c.touched key cached now).entries.find? key' = some e) :
    ∃ old, c.entries.find? key' = some old ∧ e.packet = old.packet := by
  rw [Cache.touched, AssocMap.find?_insertOrAssign] at h
  split_ifs at h with hkey
  · cases h
    exact ⟨cached, hkey ▸ hfind, rfl⟩
  · exact ⟨e, h, rfl⟩

theorem touched_capacity (hfind : c.entries.find? key = some cached) (now : ℤ) :
    (c.touched key cached now).exceedsCapacity = c.exceedsCapacity := by
  have hsize := AssocMap.total_insertOrAssign_some (fun _ => 1) hfind
    { cached with lastRetransmittedAt := some now }
  rw [← AssocMap.size_eq_total, ← AssocMap.size_eq_total] at hsize
  have heq : (c.touched key cached now).entries.size = c.entries.size := by
    dsimp only [Cache.touched]
    omega
  rw [Cache.exceedsCapacity, heq]
  rfl

theorem Accounted.settled_prune (h : Accounted now c) : Settled now (c.prune now) :=
  ⟨h.prune, h.prune_capacity⟩

theorem Settled.touched (h : Settled now c) (hfind : c.entries.find? key = some cached) :
    Settled now (c.touched key cached now) :=
  ⟨h.accounted.touch hfind (some now), (touched_capacity hfind now).trans h.within⟩

theorem Young.touched (h : Young now c) (hfind : c.entries.find? key = some cached) :
    Young now (c.touched key cached now) := by
  intro key' e hfind'
  obtain ⟨old, hold, hpacket⟩ := find?_touched hfind now hfind'
  rw [hpacket]
  exact h key' old hold

/-- Every operation but a rejected `remember` prunes, so it leaves a settled and young cache. -/
theorem Accounted.perform (h : Accounted now c) {e : CacheEvent} (hnow : now ≤ e.at now)
    (htaken : e.rejected = false) :
    Settled (e.at now) (c.perform e) ∧ Young (e.at now) (c.perform e) := by
  have hlater := h.later hnow
  cases e with
  | remember packet time =>
      have hreject : Cache.rejects packet = false := htaken
      have hstored : Accounted time ((c.prune time).store packet time) :=
        Accounted.store (Accounted.prune hlater) packet
      simp only [Cache.perform, Cache.remember, hreject, Bool.false_eq_true, if_false]
      exact ⟨hstored.settled_prune, hstored.prune_young⟩
  | lookupForRetransmission ssrc seq time =>
      have hpruned : Settled time (c.prune time) := hlater.settled_prune
      have hyoung : Young time (c.prune time) := hlater.prune_young
      rcases lookup_cases c ssrc seq time with ⟨heq, -⟩ | ⟨cached, hfind, heq⟩
      · simp only [Cache.perform, heq]
        exact ⟨hpruned, hyoung⟩
      · simp only [Cache.perform, heq]
        exact ⟨hpruned.touched hfind, hyoung.touched hfind⟩
  | snapshot time => exact ⟨hlater.settled_prune, hlater.prune_young⟩
  | clear =>
      refine ⟨⟨?_, ?_⟩, ?_⟩
      · exact ⟨rfl, rfl, by simp [Cache.perform, Cache.clear], List.Pairwise.nil,
          by simp [Cache.perform, Cache.clear], by simp [Cache.perform, Cache.clear],
          by simp [Cache.perform, Cache.clear], by simp [Cache.perform, Cache.clear]⟩
      · simp [Cache.perform, Cache.clear, Cache.exceedsCapacity, AssocMap.size, AssocMap.empty]
      · intro key e hfind
        simp [Cache.perform, Cache.clear] at hfind

theorem perform_rejected {e : CacheEvent} (h : e.rejected = true) : c.perform e = c := by
  cases e with
  | remember packet time =>
      have hreject : Cache.rejects packet = true := h
      simp [Cache.perform, Cache.remember, hreject]
  | lookupForRetransmission ssrc seq time => cases h
  | snapshot time => cases h
  | clear => cases h

theorem Accounted.capacityLoops (h : Accounted now c) {e : CacheEvent} (hnow : now ≤ e.at now) :
    ∀ before ∈ c.capacityLoops e, CapsOldest before := by
  have hlater := h.later hnow
  intro before hmem
  cases e with
  | remember packet time =>
      simp only [Cache.capacityLoops] at hmem
      split_ifs at hmem with hreject
      · cases hmem
      · have hstored : Accounted time ((c.prune time).store packet time) :=
          Accounted.store (Accounted.prune hlater) packet
        rw [List.mem_cons, List.mem_singleton] at hmem
        rcases hmem with rfl | rfl
        · exact (hlater.pruneSteps (aged_steps time c)).capsOldest
        · exact (hstored.pruneSteps (aged_steps time _)).capsOldest
  | lookupForRetransmission ssrc seq time =>
      rw [Cache.capacityLoops, List.mem_singleton] at hmem
      subst hmem
      exact (hlater.pruneSteps (aged_steps time c)).capsOldest
  | snapshot time =>
      rw [Cache.capacityLoops, List.mem_singleton] at hmem
      subst hmem
      exact (hlater.pruneSteps (aged_steps time c)).capsOldest
  | clear => cases hmem

end

/-! ## Hits -/

namespace Recalls
variable {events : List CacheEvent} {now : ℤ} {c c' : Cache}

theorem prune (h : Recalls events c) (haccounted : Accounted now c) :
    Recalls events (c.prune now) :=
  h.of_kept (OldestEvicted.of_pruneSteps haccounted (prune_steps now c)).kept

theorem touched {key : UInt64} {cached : CacheEntry} (h : Recalls events c)
    (hfind : c.entries.find? key = some cached) : Recalls events (c.touched key cached now) := by
  intro key' e hfind'
  obtain ⟨old, hold, hpacket⟩ := find?_touched hfind now hfind'
  rw [hpacket]
  exact h key' old hold

theorem store (h : Recalls events c) (haccounted : Accounted now c) {packet : CachePacket}
    (htaken : Cache.rejects packet = false) :
    Recalls (events ++ [.remember packet now]) (c.store packet now) := by
  have hremembered : (CacheEvent.remember packet now).remembered =
      some { packet with storedAt := now } := by
    simp [CacheEvent.remembered, htaken]
  intro key e hfind
  rw [lastRemembered_snoc, hremembered]
  rw [find?_store] at hfind
  split_ifs at hfind with hkey
  · cases hfind
    exact if_pos ⟨rfl, rfl⟩
  · have hother : ¬(packet.targetSsrc = e.packet.targetSsrc ∧
        packet.targetSequenceNumber = e.packet.targetSequenceNumber) := by
      rintro ⟨hssrc, hseq⟩
      apply hkey
      rw [haccounted.keyed key e hfind, packetKey, hssrc, hseq]
    dsimp only
    rw [if_neg hother]
    exact h key e hfind

theorem perform (h : Recalls events c) (haccounted : Accounted now c) {e : CacheEvent}
    (hnow : now ≤ e.at now) : Recalls (events ++ [e]) (c.perform e) := by
  have hlater := haccounted.later hnow
  cases e with
  | remember packet time =>
      by_cases hreject : Cache.rejects packet = true
      · rw [perform_rejected (e := .remember packet time) hreject]
        apply h.snoc_none
        simp [CacheEvent.remembered, hreject]
      · rw [Bool.not_eq_true] at hreject
        have hstored := (h.prune hlater).store (Accounted.prune hlater) hreject
        simp only [Cache.perform, Cache.remember, hreject, Bool.false_eq_true, if_false]
        exact hstored.prune (Accounted.store (Accounted.prune hlater) packet)
  | lookupForRetransmission ssrc seq time =>
      have hpruned : Recalls events (c.prune time) := h.prune hlater
      apply Recalls.snoc_none _ rfl
      rcases lookup_cases c ssrc seq time with ⟨heq, -⟩ | ⟨cached, hfind, heq⟩
      · simpa only [Cache.perform, heq] using hpruned
      · simpa only [Cache.perform, heq] using hpruned.touched hfind
  | snapshot time => exact (h.prune hlater).snoc_none rfl
  | clear =>
      intro key e hfind
      simp [Cache.perform, Cache.clear] at hfind

/-- A packet which is found is the last one remembered under what was asked for. -/
theorem hit (h : Recalls events c) (haccounted : Accounted now c) {ssrc : UInt32} {seq : UInt16}
    (hhit : (c.lookupForRetransmission ssrc seq now).2.state = .hit) :
    ∃ packet, (c.lookupForRetransmission ssrc seq now).2.packet = some packet ∧
      lastRemembered events ssrc seq = some packet := by
  rcases lookup_cases c ssrc seq now with ⟨-, hmiss⟩ | ⟨cached, hfind, heq⟩
  · exact absurd hhit hmiss
  · have hkeyed := haccounted.prune.keyed _ _ hfind
    obtain ⟨hssrc, hseq⟩ := makeKey_injective hkeyed
    have hlast := h.prune haccounted _ _ hfind
    rw [← hssrc, ← hseq] at hlast
    rw [heq]
    exact ⟨cached.packet, rfl, hlast⟩

end Recalls

/-! ## Runs -/

theorem perform_config (c : Cache) (e : CacheEvent) : (c.perform e).config = c.config := by
  have hprune : ∀ now (c : Cache), (c.prune now).config = c.config :=
    fun now c => pruneSteps_config (prune_steps now c)
  cases e with
  | remember packet now =>
      simp only [Cache.perform, Cache.remember]
      split_ifs with hreject
      · rfl
      · rw [hprune, (store_spec _ packet now).2.2.2, hprune]
  | lookupForRetransmission ssrc seq now =>
      rcases lookup_cases c ssrc seq now with ⟨heq, -⟩ | ⟨cached, hfind, heq⟩
      · simpa only [Cache.perform, heq] using hprune now c
      · simpa only [Cache.perform, heq, Cache.touched] using hprune now c
  | snapshot now => exact hprune now c
  | clear => rfl

theorem create_settled (config : CacheConfig) (now : ℤ) : Settled now (create config) :=
  ⟨create_accounted config now, by
    simp [create, Cache.exceedsCapacity, AssocMap.size, AssocMap.empty]⟩

theorem run_settled {config : CacheConfig} {events : List CacheEvent} {s : CacheState}
    (h : (cacheSystem config).Run events s) :
    Settled s.now s.cache ∧ s.cache.config = config.normalized ∧ Recalls events s.cache := by
  induction h with
  | @start s hinit =>
      have hcache : s.cache = create config := hinit
      rw [hcache]
      refine ⟨create_settled config s.now, rfl, ?_⟩
      intro key e hfind
      simp [create] at hfind
  | @step events s s' e _ hstep ih =>
      obtain ⟨hnow, rfl⟩ := hstep
      obtain ⟨hsettled, hconfig, hrecalls⟩ := ih
      refine ⟨?_, (perform_config _ e).trans hconfig, hrecalls.perform hsettled.accounted hnow⟩
      cases hreject : e.rejected with
      | true =>
          rw [perform_rejected hreject]
          exact ⟨hsettled.accounted.later hnow, hsettled.within⟩
      | false => exact (hsettled.accounted.perform hnow hreject).1

/-- The cache is accounted for and bounded after every operation, no operation but a rejected
`remember` leaves a packet past its age, and a hit is the packet remembered last. -/
theorem run_accounted {config : CacheConfig} {events : List CacheEvent} {s : CacheState}
    (h : (cacheSystem config).Run events s) :
    s.cache.config = config.normalized ∧
      s.cache.entries.size ≤ config.normalized.maxPackets ∧
      s.cache.byteCount = s.cache.entries.total CacheEntry.bytes ∧
      s.cache.byteCount ≤ config.normalized.maxBytes ∧
      (∀ key e, s.cache.entries.find? key = some e →
        (⟨key, e.serial⟩ : OrderEntry) ∈ s.cache.order) ∧
      s.cache.order.Pairwise (fun a b => a.serial < b.serial) ∧
      (s.cache.inserted : ℤ) - s.cache.evictedAge - s.cache.evictedCapacity =
        s.cache.entries.size ∧
      (∀ e s', (cacheSystem config).step s e s' →
        (if e.rejected then s'.cache = s.cache else Young s'.now s'.cache) ∧
          ∀ before ∈ s.cache.capacityLoops e, CapsOldest before) ∧
      ∀ ssrc seq now, s.now ≤ now →
        (s.cache.lookupForRetransmission ssrc seq now).2.state = .hit →
        ∃ packet, (s.cache.lookupForRetransmission ssrc seq now).2.packet = some packet ∧
          lastRemembered events ssrc seq = some packet := by
  obtain ⟨⟨haccounted, hwithin⟩, hconfig, hrecalls⟩ := run_settled h
  simp only [Cache.exceedsCapacity, decide_eq_false_iff_not, not_or, not_lt, gt_iff_lt,
    hconfig] at hwithin
  refine ⟨hconfig, hwithin.1, haccounted.counted, hwithin.2, haccounted.listed,
    haccounted.increasing, ?_, ?_, ?_⟩
  · have hbalanced := haccounted.balanced
    omega
  · rintro e s' ⟨hnow, rfl⟩
    refine ⟨?_, haccounted.capacityLoops hnow⟩
    cases hreject : e.rejected with
    | true => exact perform_rejected hreject
    | false => exact (haccounted.perform hnow hreject).2
  · intro ssrc seq now hnow hhit
    exact hrecalls.hit (haccounted.later hnow) hhit

def lostPacket : CachePacket where
  packet := [0x80, 96, 0, 7]
  targetSsrc := 17
  targetSequenceNumber := 7

def exec (config : CacheConfig) (events : List CacheEvent) : CacheState :=
  events.foldl (fun s e => { cache := s.cache.perform e, now := e.at s.now })
    { cache := create config, now := 0 }

theorem run_lost : (cacheSystem {}).Run [.remember lostPacket 0]
    (exec {} [.remember lostPacket 0]) :=
  .step (.start rfl) ⟨le_refl _, rfl⟩

theorem run_lost_rejected :
    (cacheSystem {}).Run [.remember lostPacket 0, .remember { packet := [] } 10000000000]
      (exec {} [.remember lostPacket 0, .remember { packet := [] } 10000000000]) :=
  .step run_lost ⟨by decide, rfl⟩

theorem run_accounted_lost :
    (exec {} [.remember lostPacket 0]).cache.entries.size ≤ 4096 ∧
      ∃ packet, ((exec {} [.remember lostPacket 0]).cache.lookupForRetransmission 17 7
          1000).2.packet = some packet ∧
        lastRemembered [.remember lostPacket 0] 17 7 = some packet := by
  have hrun := run_accounted run_lost
  obtain ⟨-, hsize, -, -, -, -, -, -, hhit⟩ := hrun
  exact ⟨hsize, hhit 17 7 1000 (by decide) (by decide +kernel)⟩

/-- A rejected packet returns before `prune`: a packet of ten seconds ago stays cached. -/
theorem rejected_keeps_old :
    ¬∀ config events s, (cacheSystem config).Run events s → Young s.now s.cache := by
  intro hclaim
  have hyoung := hclaim {} _ _ run_lost_rejected
  have hage := hyoung (makeKey 17 7) { packet := lostPacket, serial := 1 } (by decide +kernel)
  revert hage
  decide +kernel

end SimpleWebrtc.RtpRetransmissionCache
