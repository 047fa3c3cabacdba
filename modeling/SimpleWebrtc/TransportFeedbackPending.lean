import SimpleWebrtc.TransportFeedbackRuns
import Mathlib.Data.Int.Range

/-!
# Pending feedback and the arrivals which can carry it

A packet reports a window of at most 4096 numbers and needs an arrival in it
for its reference time. Pending feedback can be encoded exactly when the window
holds an arrival. A run keeps that as long as every pending number has an
arrival among the 4096 numbers which start at it: commits preserve it, and the
steps which evict records are the only ones to check.
-/
namespace SimpleWebrtc.TransportFeedbackGenerator
open Library TransportFeedbackCodec

namespace Generator
variable {g : Generator}

section Loop

theorem encodedPacketSize_single {size : ℕ} (h : size ≤ 2) : encodedPacketSize [size] = 24 := by
  obtain rfl | rfl | rfl : size = 0 ∨ size = 1 ∨ size = 2 := by omega
  all_goals decide

/-- The first status always fits the packet and the delta field. -/
theorem previewStatus_first {base : ℤ} {maximumPacketSize : ℕ} {first : ℤ × ArrivalRecord}
    (hmax : headerSize + 4 ≤ maximumPacketSize) (hfirst : g.arrivals.lowerBound base = some first) :
    ∃ p, g.previewStatus base maximumPacketSize base
        (.start (floorReferenceTime (arrivalTimeMicroseconds first.2.arrivalTime)) base) = .ok (some p) ∧
      p.actualEnd = base ∧ ∃ delta, p.deltaSizes = [statusDeltaSize delta] ∧
        (delta.isSome ↔ base ∈ g.arrivals) := by
  have happend : ∀ (p : Preview) (delta : Option ℤ), p.deltaSizes = [] →
      ∃ p', p.append maximumPacketSize base delta = some p' ∧ p'.actualEnd = base ∧
        p'.deltaSizes = [statusDeltaSize delta] := by
    intro p delta hempty
    have hsize : ¬ encodedPacketSize (p.deltaSizes ++ [statusDeltaSize delta]) >
        maximumPacketSize := by
      rw [hempty, List.nil_append, encodedPacketSize_single (statusDeltaSize_le delta)]
      simp only [headerSize] at hmax
      omega
    rw [Preview.append]
    simp only [if_neg hsize]
    exact ⟨_, rfl, rfl, by rw [hempty]; rfl⟩
  rw [previewStatus]
  rcases hfind : g.arrivals.find? base with _ | arrival
  · obtain ⟨p, hp, hend, hsizes⟩ := happend
      (.start (floorReferenceTime (arrivalTimeMicroseconds first.2.arrivalTime)) base) none rfl
    refine ⟨p, by rw [← hp], hend, none, hsizes, ?_⟩
    simpa using OrderedMap.find?_eq_none.mp hfind
  · have hmem := OrderedMap.find?_eq_some.mp hfind
    have hbase : first.1 = base := le_antisymm
      (OrderedMap.lowerBound_le hfirst hmem (le_refl _)) (OrderedMap.le_lowerBound hfirst)
    have hrecord : first.2 = arrival := by
      apply OrderedMap.entry_unique (OrderedMap.lowerBound_mem hfirst)
      rw [hbase]
      exact hmem
    have hreference := floorReferenceTime_near (arrivalTimeMicroseconds arrival.arrivalTime)
    have hround := roundDeltaTicks_near (arrivalTimeMicroseconds arrival.arrivalTime -
      floorReferenceTime (arrivalTimeMicroseconds arrival.arrivalTime) * referenceTimeMicroseconds)
    rw [abs_le] at hround
    simp only [referenceTimeMicroseconds] at hround
    simp only [hrecord, Preview.start, referenceTimeMicroseconds]
    rw [if_neg (by omega)]
    obtain ⟨p, hp, hend, hsizes⟩ := happend
      (.start (floorReferenceTime (arrivalTimeMicroseconds arrival.arrivalTime)) base) (some _) rfl
    refine ⟨p, congrArg Except.ok hp, hend, some _, hsizes, ?_⟩
    simpa using OrderedMap.mem_of_entry hmem

/-- Past the first status the loop cannot fail, and it keeps what it has. -/
theorem previewStatuses_total (g : Generator) (maximumPacketSize remaining : ℕ)
    {base sequence : ℤ} {p : Preview} (hbase : base < sequence) (hend : base ≤ p.actualEnd) (hsizes : p.deltaSizes ≠ []) :
    ∃ p', g.previewStatuses base maximumPacketSize remaining sequence p = .ok p' ∧
      base ≤ p'.actualEnd ∧ p'.deltaSizes ≠ [] := by
  induction remaining generalizing sequence p with
  | zero => exact ⟨p, rfl, hend, hsizes⟩
  | succ remaining ih =>
      rw [previewStatuses]
      split
      · next message herror =>
        rw [previewStatus] at herror
        split at herror
        · simp at herror
        · simp only at herror
          split_ifs at herror with hrange hfirst
          omega
      · exact ⟨p, rfl, hend, hsizes⟩
      · next p' hstep =>
        obtain ⟨delta, happend, -⟩ := previewStatus_eq_some hstep
        obtain ⟨hsizes', -, -, hend', -⟩ := append_eq_some happend
        exact ih (by omega) (by omega) (by simp [hsizes'])

end Loop

section Preview
variable {senderSsrc : UInt32} {maximumPacketSize : ℕ} {base newest : ℤ}

theorem previewFeedback_of_loop {first : ℤ × ArrivalRecord} {p : Preview}
    (hsender : senderSsrc ≠ 0) (hmax : headerSize + 4 ≤ maximumPacketSize)
    (hrange : g.pendingRange = some (base, newest))
    (hfirst : g.arrivals.lowerBound base = some first)
    (hle : first.1 ≤ min newest (base + 4095))
    (hloop : g.previewStatuses base maximumPacketSize
      (min newest (base + 4095) - base + 1).toNat base
      (.start (floorReferenceTime (arrivalTimeMicroseconds first.2.arrivalTime)) base) = .ok p)
    (hsizes : p.deltaSizes ≠ []) (hend : base ≤ p.actualEnd) :
    ∃ feedback, g.previewFeedback senderSsrc maximumPacketSize = .ok (some feedback) ∧
      feedback.beginExtendedSequence = base ∧ feedback.endExtendedSequence = p.actualEnd ∧
      feedback.feedbackPacketCount = g.feedbackPacketCount := by
  have hlit : ((maximumStatusesPerFeedback : ℤ) - 1) = 4095 := rfl
  rw [previewFeedback, if_neg hsender, if_neg (by omega), hrange]
  simp only [hfirst, hlit]
  rw [if_neg (by omega), hloop]
  simp only [bind, Except.bind]
  rw [if_neg (by simp [hsizes]; omega)]
  exact ⟨_, rfl, rfl, rfl, rfl⟩

/-- A window with an arrival is encoded, with at least one status. -/
theorem previewFeedback_of_arrival {k : ℤ} (hsender : senderSsrc ≠ 0)
    (hmax : headerSize + 4 ≤ maximumPacketSize) (hrange : g.pendingRange = some (base, newest))
    (hk : k ∈ g.arrivals) (hlo : base ≤ k) (hhi : k ≤ min newest (base + 4095)) :
    ∃ feedback, g.previewFeedback senderSsrc maximumPacketSize = .ok (some feedback) ∧
      0 < feedback.packetStatusCount.toNat := by
  obtain ⟨record, hrecord⟩ := hk
  rcases hfirst : g.arrivals.lowerBound base with _ | first
  · have := OrderedMap.lowerBound_eq_none.mp hfirst _ hrecord
    simp only at this
    omega
  have hle : first.1 ≤ k := OrderedMap.lowerBound_le hfirst hrecord hlo
  obtain ⟨p, hstep, hend, delta, hsizes, -⟩ := previewStatus_first hmax hfirst
  obtain ⟨count, hcount⟩ : ∃ count, (min newest (base + 4095) - base + 1).toNat = count + 1 :=
    ⟨(min newest (base + 4095) - base).toNat, by omega⟩
  obtain ⟨p', hloop, hend', hsizes'⟩ := previewStatuses_total g maximumPacketSize count
    (show base < base + 1 by omega) (le_of_eq hend.symm) (by simp [hsizes])
  have hrun : g.previewStatuses base maximumPacketSize
      (min newest (base + 4095) - base + 1).toNat base
      (.start (floorReferenceTime (arrivalTimeMicroseconds first.2.arrivalTime)) base) = .ok p' := by
    rw [hcount, previewStatuses, hstep]
    exact hloop
  obtain ⟨feedback, hfeedback, -⟩ := previewFeedback_of_loop hsender hmax hrange hfirst
    (by omega) hrun hsizes' hend'
  obtain ⟨_, _, _, ticks, -, -, -, hsome, hle, -, -, -, hstatuses, -⟩ :=
    previewFeedback_eq_some hfeedback
  refine ⟨feedback, hfeedback, ?_⟩
  rw [hstatuses, UInt16.toNat_ofNat']
  omega

/-- A window without an arrival is an error. -/
theorem previewFeedback_of_no_arrival (hsender : senderSsrc ≠ 0)
    (hmax : headerSize + 4 ≤ maximumPacketSize) (hrange : g.pendingRange = some (base, newest))
    (hnone : ∀ k ∈ g.arrivals, base ≤ k → min newest (base + 4095) < k) :
    g.previewFeedback senderSsrc maximumPacketSize =
      .error "rtcp transport feedback pending range has no received packet" := by
  have hlit : ((maximumStatusesPerFeedback : ℤ) - 1) = 4095 := rfl
  rw [previewFeedback, if_neg hsender, if_neg (by omega), hrange]
  simp only [hlit]
  rcases hfirst : g.arrivals.lowerBound base with _ | first
  · rfl
  · simp only
    rw [if_pos]
    exact hnone first.1 (OrderedMap.mem_of_entry (OrderedMap.lowerBound_mem hfirst))
      (OrderedMap.le_lowerBound hfirst)

end Preview

/-- Pending feedback yields a packet of the default size with at least one status. -/
def Encodable (g : Generator) : Prop :=
  g.hasPendingFeedback = true → ∀ senderSsrc ≠ 0,
    ∃ feedback, g.previewFeedback senderSsrc defaultPacketSize = .ok (some feedback) ∧
      0 < feedback.packetStatusCount.toNat

/-- The window of the next packet holds an arrival. -/
def WindowHasArrival (g : Generator) : Prop :=
  ∀ base newest, g.pendingRange = some (base, newest) →
    ∃ k ∈ g.arrivals, base ≤ k ∧ k ≤ min newest (base + 4095)

theorem encodable_iff_windowHasArrival (g : Generator) : g.Encodable ↔ g.WindowHasArrival := by
  have hmax : headerSize + 4 ≤ defaultPacketSize := by decide
  constructor
  · intro h base newest hrange
    obtain ⟨feedback, hfeedback, -⟩ := h (by rw [hasPendingFeedback, hrange]; rfl) 1 (by decide)
    by_contra hnone
    rw [previewFeedback_of_no_arrival (by decide) hmax hrange] at hfeedback
    · simp at hfeedback
    · intro k hk hlo
      by_contra hhi
      exact hnone ⟨k, hk, hlo, not_lt.mp hhi⟩
  · intro h hpending senderSsrc hsender
    obtain ⟨⟨base, newest⟩, hrange⟩ := Option.isSome_iff_exists.mp hpending
    obtain ⟨k, hk, hlo, hhi⟩ := h base newest hrange
    exact previewFeedback_of_arrival hsender hmax hrange hk hlo hhi

/-- Every pending number has an arrival among the 4096 numbers which start at it. -/
def PendingCovered (g : Generator) : Prop :=
  ∀ base newest, g.pendingRange = some (base, newest) → ∀ x, base ≤ x → x ≤ newest →
    ∃ k ∈ g.arrivals, x ≤ k ∧ k ≤ x + 4095

def ArrivalsUpToNewest (g : Generator) : Prop :=
  ∀ k ∈ g.arrivals, ∃ newest, g.newestExtendedSequence = some newest ∧ k ≤ newest

/-- When records survive eviction, every number which stays pending keeps one of them in reach. -/
def EvictionCovers (g : Generator) (now : ℤ) : Prop :=
  ∀ earliest ∈ (g.survivingArrivals now).first?, ∀ start ∈ g.feedbackWindowStart,
    ∀ newest ∈ g.newestExtendedSequence,
      ∀ x, max start (earliest.1 - 4095) ≤ x → x ≤ newest →
        ∃ record ∈ (g.survivingArrivals now).entries, x ≤ record.1 ∧ record.1 ≤ x + 4095

instance (g : Generator) (now : ℤ) : Decidable (g.EvictionCovers now) :=
  inferInstanceAs (Decidable (∀ earliest ∈ (g.survivingArrivals now).first?,
    ∀ start ∈ g.feedbackWindowStart, ∀ newest ∈ g.newestExtendedSequence,
      ∀ x, max start (earliest.1 - 4095) ≤ x → x ≤ newest →
        ∃ record ∈ (g.survivingArrivals now).entries, x ≤ record.1 ∧ record.1 ≤ x + 4095))

theorem EvictionCovers.evictOld {now : ℤ} (h : g.EvictionCovers now) :
    (g.evictOld now).PendingCovered := by
  intro base newest hrange x hlo hhi
  obtain ⟨hstart, hnewest, -⟩ := pendingRange_eq_some.mp hrange
  rw [evictOld_newest] at hnewest
  rw [evictOld_arrivals]
  rcases hwindow : g.feedbackWindowStart with _ | start
  · rw [evictOld_window_none g now hwindow] at hstart
    simp at hstart
  rw [evictOld_window g now hwindow] at hstart
  rcases hfirst : (g.survivingArrivals now).first? with _ | earliest
  · rw [hfirst, hnewest] at hstart
    have hnext : newest + 1 = base := Option.some.inj hstart
    omega
  · rw [hfirst] at hstart
    obtain rfl := Option.some.inj hstart
    obtain ⟨record, hrecord, hreach⟩ := h earliest hfirst start hwindow newest hnewest x hlo hhi
    exact ⟨record.1, ⟨record.2, hrecord⟩, hreach⟩

/-- Dropping records below all survivors, as the capacity limit does, never uncovers a number. -/
theorem PendingCovered.evictionCovers {now : ℤ} (h : g.PendingCovered)
    (hfront : ∀ k ∈ g.arrivals, k ∉ g.survivingArrivals now →
      ∀ earliest ∈ (g.survivingArrivals now).first?, k < earliest.1) : g.EvictionCovers now := by
  intro earliest hearliest start hstart newest hnewest x hlo hhi
  by_cases hx : x ≤ earliest.1
  · exact ⟨earliest, OrderedMap.first?_mem hearliest, hx, by omega⟩
  have hrange : g.pendingRange = some (start, newest) :=
    pendingRange_eq_some.mpr ⟨hstart, hnewest, by omega⟩
  obtain ⟨k, hk, hreach⟩ := h start newest hrange x (by omega) hhi
  by_cases hsurvives : k ∈ g.survivingArrivals now
  · obtain ⟨record, hrecord⟩ := hsurvives
    exact ⟨(k, record), hrecord, hreach⟩
  · have := hfront k hk hsurvives earliest hearliest
    omega

theorem PendingCovered.commitFeedback (h : g.PendingCovered)
    (feedback : BuiltRtcpTransportFeedback) : (g.commitFeedback feedback).PendingCovered := by
  intro base newest hrange x hlo hhi
  obtain ⟨hstart, hnewest, -⟩ := pendingRange_eq_some.mp hrange
  rw [commitFeedback_newest] at hnewest
  rw [commitFeedback_arrivals]
  rcases g.commitFeedback_window feedback with heq | ⟨start, hbefore, hend, heq⟩
  · rw [heq] at hstart
    exact h base newest (pendingRange_eq_some.mpr ⟨hstart, hnewest, by omega⟩) x hlo hhi
  · obtain rfl := Option.some.inj (heq.symm.trans hstart)
    exact h start newest (pendingRange_eq_some.mpr ⟨hbefore, hnewest, by omega⟩) x (by omega) hhi

theorem PendingCovered.windowHasArrival (h : g.PendingCovered) (hnewest : g.ArrivalsUpToNewest) :
    g.WindowHasArrival := by
  intro base newest hrange
  obtain ⟨-, hsome, hle⟩ := pendingRange_eq_some.mp hrange
  obtain ⟨k, hk, hlo, hhi⟩ := h base newest hrange base (le_refl _) hle
  obtain ⟨newest', hsome', hknewest⟩ := hnewest k hk
  obtain rfl := Option.some.inj (hsome.symm.trans hsome')
  exact ⟨k, hk, hlo, le_min hknewest hhi⟩

theorem ArrivalsUpToNewest.evictOld {now : ℤ} (h : g.ArrivalsUpToNewest) :
    (g.evictOld now).ArrivalsUpToNewest := by
  intro k hk
  rw [evictOld_arrivals] at hk
  rw [evictOld_newest]
  exact h k (mem_of_surviving g hk)

theorem ArrivalsUpToNewest.recordArrival (h : g.ArrivalsUpToNewest) (sequenceNumber : UInt16)
    (arrivalTime : ℤ) (mediaSsrc : UInt32) :
    (g.recordArrival sequenceNumber arrivalTime mediaSsrc).1.ArrivalsUpToNewest := by
  intro k hk
  rw [recordArrival_newest]
  rw [mem_recordArrival, extendedNumber] at hk
  rcases g.unwrapSequence_cases sequenceNumber with
    ⟨hnone, heq⟩ | ⟨newest, candidate, -, -, heq⟩ | ⟨newest, candidate, hnewest, -, heq⟩
  · rw [heq] at hk ⊢
    refine ⟨_, rfl, ?_⟩
    rcases hk with hk | rfl
    · obtain ⟨newest, hnewest, -⟩ := h k hk
      simp [hnone] at hnewest
    · exact le_refl _
  · rw [heq] at hk ⊢
    refine ⟨_, rfl, ?_⟩
    rcases hk with hk | rfl
    · exact absurd hk (OrderedMap.not_mem_empty k)
    · exact le_refl _
  · rw [heq] at hk ⊢
    refine ⟨_, rfl, ?_⟩
    rcases hk with hk | rfl
    · obtain ⟨newest', hnewest', hle⟩ := h k hk
      obtain rfl := Option.some.inj (hnewest.symm.trans hnewest')
      exact le_trans hle (le_max_left _ _)
    · exact le_max_right _ _

end Generator

namespace GeneratorRun

/-- The records which eviction leaves cover the numbers which stay pending. -/
def KeepsPendingCovered (r : GeneratorRun) : GeneratorEvent → Prop
  | .observe sequenceNumber arrivalTime mediaSsrc =>
      (r.generator.recordArrival sequenceNumber arrivalTime mediaSsrc).1.EvictionCovers arrivalTime
  | .expire now => r.generator.EvictionCovers now
  | _ => True

instance (r : GeneratorRun) : (event : GeneratorEvent) → Decidable (r.KeepsPendingCovered event)
  | .observe sequenceNumber arrivalTime mediaSsrc =>
      inferInstanceAs (Decidable ((r.generator.recordArrival sequenceNumber arrivalTime
        mediaSsrc).1.EvictionCovers arrivalTime))
  | .expire now => inferInstanceAs (Decidable (r.generator.EvictionCovers now))
  | .preview .. | .commit _ => inferInstanceAs (Decidable True)

structure PendingInvariant (r : GeneratorRun) : Prop where
  covered : r.generator.PendingCovered
  upToNewest : r.generator.ArrivalsUpToNewest

theorem PendingInvariant.step {r r' : GeneratorRun} {event : GeneratorEvent}
    (hr : PendingInvariant r) (hkeeps : r.KeepsPendingCovered event)
    (h : r.step event = some r') : PendingInvariant r' := by
  rcases step_cases h with ⟨sequenceNumber, arrivalTime, mediaSsrc, rfl, rfl⟩ |
    ⟨senderSsrc, maximumPacketSize, rfl, hgenerator, -⟩ | ⟨feedback, rfl, rfl⟩ | ⟨now, rfl, rfl⟩
  · exact ⟨Generator.EvictionCovers.evictOld hkeeps,
      (hr.upToNewest.recordArrival sequenceNumber arrivalTime mediaSsrc).evictOld⟩
  · exact ⟨by rw [hgenerator]; exact hr.covered, by rw [hgenerator]; exact hr.upToNewest⟩
  · refine ⟨hr.covered.commitFeedback feedback, fun k hk => ?_⟩
    rw [Generator.commitFeedback_arrivals] at hk
    simpa using hr.upToNewest k hk
  · exact ⟨Generator.EvictionCovers.evictOld hkeeps, hr.upToNewest.evictOld⟩

theorem PendingInvariant.run {events : List GeneratorEvent} {r : GeneratorRun}
    (h : (system.restrict KeepsPendingCovered).Run events r) : PendingInvariant r := by
  refine h.invariant ?_ ?_
  · rintro s ⟨age, packets, rfl⟩
    refine ⟨fun base newest hrange => ?_, fun k hk => ?_⟩
    · simp [Generator.pendingRange] at hrange
    · exact absurd hk (OrderedMap.not_mem_empty k)
  · rintro s event s' hs ⟨hkeeps, hstep⟩
    exact hs.step hkeeps hstep

/-- In every run whose evictions leave the pending numbers covered, pending feedback is encodable
in the state reached; and in any state it is encodable exactly when the window holds an arrival. -/
theorem run_pending_encodable {events : List GeneratorEvent} {r : GeneratorRun}
    (h : (system.restrict KeepsPendingCovered).Run events r) :
    r.generator.Encodable ∧ ∀ g : Generator, g.Encodable ↔ g.WindowHasArrival := by
  have hr := PendingInvariant.run h
  have hwindow := hr.covered.windowHasArrival hr.upToNewest
  exact ⟨(Generator.encodable_iff_windowHasArrival _).mpr hwindow,
    Generator.encodable_iff_windowHasArrival⟩

def reorderedEvents : List GeneratorEvent :=
  [.observe 1 125500 7, .observe 0 250000 7, .expire 500000]

theorem run_pending_encodable_reordered :
    ((reorderedEvents.foldlM step {}).getD {}).generator.Encodable := by
  have hrun : (system.restrict KeepsPendingCovered).Run reorderedEvents
      ((reorderedEvents.foldlM step {}).getD {}) :=
    EventSystem.run_of_exec_restrict initial_default (by decide +kernel)
  exact (run_pending_encodable hrun).1

end GeneratorRun

section LongLoss

theorem encodeStatusChunksFrom_zeros (fuel : ℕ) {count : ℕ} (h : count ≤ 8000) :
    (encodeStatusChunksFrom fuel (List.replicate count 0)).length ≤ 1 := by
  rcases fuel with _ | fuel
  · simp [encodeStatusChunksFrom]
  rcases count with _ | count
  · simp [encodeStatusChunksFrom]
  have hrun : runLength 0 (List.replicate count 0) = count + 1 := by
    simp only [runLength, List.takeWhile_replicate, beq_self_eq_true, if_true,
      List.length_replicate]
    omega
  have hnil : ∀ n, count + 1 ≤ n → encodeStatusChunksFrom fuel
      ((0 :: List.replicate count 0).drop n) = [] := by
    intro n hn
    rw [List.drop_eq_nil_of_le (by simpa using hn)]
    cases fuel <;> rfl
  rw [List.replicate_succ]
  simp only [encodeStatusChunksFrom, hrun]
  split_ifs with hlong
  · rw [List.length_cons, hnil _ (le_refl _)]
    simp
  all_goals
    simp only [statusesPerTwoBitChunk] at hlong ⊢
    rw [List.length_cons, hnil _ (by omega)]
    simp

/-- One small delta followed by losses takes two chunks at most. -/
theorem encodedPacketSize_losses {count : ℕ} (h : count ≤ 8000) :
    encodedPacketSize (1 :: List.replicate count 0) ≤ 28 := by
  have hrun : runLength 1 (List.replicate count 0) = 1 := by
    simp [runLength]
  have hall : ((1 :: List.replicate count 0).take 14).all (· ≤ 1) = true := by
    rw [List.all_eq_true]
    intro x hx
    have hx' := List.mem_of_mem_take hx
    simp only [List.mem_cons, List.mem_replicate] at hx'
    simp only [decide_eq_true_eq]
    omega
  have hchunks : (encodeStatusChunks (1 :: List.replicate count 0)).length ≤ 2 := by
    simp only [encodeStatusChunks, List.length_cons, encodeStatusChunksFrom, hrun]
    rw [if_neg (by decide), if_pos hall, List.length_cons]
    have hzeros := encodeStatusChunksFrom_zeros (List.replicate count 0).length
      (show count - 13 ≤ 8000 by omega)
    simp only [List.drop_succ_cons, List.drop_replicate]
    omega
  have hsum : (1 :: List.replicate count 0).sum = 1 := by simp
  simp only [encodedPacketSize, unpaddedPacketSize, hsum, headerSize]
  omega

/-- A stretch of numbers without arrivals is appended to the end. -/
theorem previewStatuses_losses (g : Generator) (base : ℤ) {sequence : ℤ} {remaining count : ℕ}
    {p : Generator.Preview} (hsizes : p.deltaSizes = 1 :: List.replicate count 0)
    (hend : p.actualEnd = sequence - 1) (hcount : count + remaining ≤ 8000)
    (hnone : ∀ x, sequence ≤ x → x ∉ g.arrivals) :
    ∃ p', g.previewStatuses base defaultPacketSize remaining sequence p = .ok p' ∧
      p'.deltaSizes ≠ [] ∧ p'.actualEnd = sequence + remaining - 1 := by
  induction remaining generalizing sequence p count with
  | zero => exact ⟨p, rfl, by simp [hsizes], by simpa using hend⟩
  | succ remaining ih =>
      have hfind := OrderedMap.find?_eq_none.mpr (hnone sequence (le_refl _))
      have hnext : p.deltaSizes ++ [statusDeltaSize none] = 1 :: List.replicate (count + 1) 0 := by
        rw [hsizes, List.replicate_succ', List.cons_append]
        rfl
      have hsize := encodedPacketSize_losses (show count + 1 ≤ 8000 by omega)
      have hfits : ¬ encodedPacketSize (1 :: List.replicate (count + 1) 0) > defaultPacketSize := by
        simp only [defaultPacketSize]
        omega
      obtain ⟨q, happend⟩ : ∃ q, p.append defaultPacketSize sequence none = some q := by
        rw [Generator.Preview.append, hnext]
        simp only [if_neg hfits]
        exact ⟨_, rfl⟩
      obtain ⟨hq, -, -, hqend, -⟩ := Generator.append_eq_some happend
      obtain ⟨p', hloop, hsizes', hend'⟩ := ih (hq.trans hnext)
        (show q.actualEnd = sequence + 1 - 1 by omega) (by omega) (fun x hx => hnone x (by omega))
      refine ⟨p', ?_, hsizes', by push_cast; omega⟩
      rw [Generator.previewStatuses, Generator.previewStatus, hfind]
      simp only [happend]
      exact hloop

/-- Packet 5000 is evicted, then packet 904 comes late, the oldest which is no discontinuity. -/
def lateAfterEviction : GeneratorRun :=
  ([.observe 5000 0 7, .expire 3000000000, .observe 904 3000000000 7] : List GeneratorEvent).foldlM
    GeneratorRun.step {} |>.getD {}

theorem lateAfterEviction_arrivals {x : ℤ} (h : x ∈ lateAfterEviction.generator.arrivals) :
    x = 904 := by
  obtain ⟨record, hrecord⟩ := h
  rw [show lateAfterEviction.generator.arrivals.entries = [(904, ⟨3000000000⟩)] by
    decide +kernel] at hrecord
  simp only [List.mem_singleton, Prod.mk.injEq] at hrecord
  exact hrecord.1

/-- The packet for the window of the late packet ends just before packet 5000. -/
theorem lateAfterEviction_preview :
    ∃ feedback, lateAfterEviction.generator.previewFeedback 9 defaultPacketSize =
        .ok (some feedback) ∧ feedback.beginExtendedSequence = 904 ∧
      feedback.endExtendedSequence = 4999 ∧ feedback.feedbackPacketCount = 0 := by
  have hrange : lateAfterEviction.generator.pendingRange = some (904, 5000) := by decide +kernel
  have hfirst : lateAfterEviction.generator.arrivals.lowerBound 904 = some (904, ⟨3000000000⟩) := by
    decide +kernel
  have hnone : ∀ x, (905 : ℤ) ≤ x → x ∉ lateAfterEviction.generator.arrivals := by
    intro x hx hmem
    have := lateAfterEviction_arrivals hmem
    omega
  have hstep : lateAfterEviction.generator.previewStatus 904 defaultPacketSize 904 (.start 46 904) =
      .ok (some ⟨[1], [224], 3000000, 1, 0, 904⟩) := by decide +kernel
  obtain ⟨p, hloop, hsizes, hend⟩ := previewStatuses_losses lateAfterEviction.generator 904
    (show (⟨[1], [224], 3000000, 1, 0, 904⟩ : Generator.Preview).deltaSizes =
      1 :: List.replicate 0 0 from rfl) (show (904 : ℤ) = 905 - 1 by decide)
    (show 0 + 4095 ≤ 8000 by decide) hnone
  have hrun : lateAfterEviction.generator.previewStatuses 904 defaultPacketSize
      (min 5000 (904 + 4095) - 904 + 1 : ℤ).toNat 904 (.start 46 904) = .ok p := by
    rw [show (min 5000 (904 + 4095) - 904 + 1 : ℤ).toNat = 4095 + 1 by decide,
      Generator.previewStatuses, hstep]
    exact hloop
  obtain ⟨feedback, hfeedback, hbegin, hlast, hcount⟩ := Generator.previewFeedback_of_loop
    (show (9 : UInt32) ≠ 0 by decide) (by decide) hrange hfirst (by decide) hrun hsizes (by omega)
  exact ⟨feedback, hfeedback, hbegin, by omega, hcount.trans (by decide +kernel)⟩

/-- After that packet is committed, packet 5000 is pending and nothing can report it. -/
theorem run_pending_not_encodable :
    ∃ events r, GeneratorRun.system.Run events r ∧ r.generator.hasPendingFeedback = true ∧
      r.generator.previewFeedback 9 defaultPacketSize =
        .error "rtcp transport feedback pending range has no received packet" := by
  obtain ⟨feedback, hfeedback, hbegin, hend, hcount⟩ := lateAfterEviction_preview
  have hinit : GeneratorRun.system.Run [] {} := .start GeneratorRun.initial_default
  have hstart : GeneratorRun.system.Run
      [.observe 5000 0 7, .expire 3000000000, .observe 904 3000000000 7] lateAfterEviction :=
    EventSystem.Run.exec hinit (by decide +kernel)
  have hpreview : lateAfterEviction.step (.preview 9 defaultPacketSize) =
      some { lateAfterEviction with previewed := feedback :: lateAfterEviction.previewed } := by
    rw [GeneratorRun.step, hfeedback]
  have hcommit : ({ lateAfterEviction with
      previewed := feedback :: lateAfterEviction.previewed } : GeneratorRun).step
        (.commit feedback) = some { lateAfterEviction with
      previewed := feedback :: lateAfterEviction.previewed
      generator := lateAfterEviction.generator.commitFeedback feedback } := by
    rw [GeneratorRun.step, if_pos (List.mem_cons_self ..)]
  have hwindow : (lateAfterEviction.generator.commitFeedback feedback).feedbackWindowStart =
      some 5000 := by
    rw [Generator.commitFeedback, show lateAfterEviction.generator.feedbackWindowStart = some 904 by
      decide +kernel]
    simp only [hbegin, hend, hcount]
    rw [if_neg (by decide +kernel)]
    rfl
  have hrange : (lateAfterEviction.generator.commitFeedback feedback).pendingRange =
      some (5000, 5000) := by
    rw [Generator.pendingRange_eq_some]
    exact ⟨hwindow, by rw [Generator.commitFeedback_newest]; decide +kernel, le_refl _⟩
  refine ⟨_, _, (hstart.step hpreview).step hcommit, by
    rw [Generator.hasPendingFeedback, hrange]; rfl, ?_⟩
  refine Generator.previewFeedback_of_no_arrival (by decide) (by decide) hrange ?_
  intro k hk hle
  rw [Generator.commitFeedback_arrivals] at hk
  have := lateAfterEviction_arrivals hk
  omega

end LongLoss

end SimpleWebrtc.TransportFeedbackGenerator
