import SimpleWebrtc.TransportFeedbackPreview
import SimpleWebrtc.Library.Runs

/-!
# Runs of the feedback generator

A run remembers, next to the generator, what the claims about a history speak
of: the last arrival time, the extended numbers which were observed and the
packets which were previewed. Arrival times never decrease and only previewed
packets are committed, in any order and as late as one likes.
-/
namespace SimpleWebrtc.TransportFeedbackGenerator
open Library TransportFeedbackCodec

inductive GeneratorEvent where
  | observe (sequenceNumber : UInt16) (arrivalTime : ℤ) (mediaSsrc : UInt32)
  | preview (senderSsrc : UInt32) (maximumPacketSize : ℕ)
  | commit (feedback : BuiltRtcpTransportFeedback)
  | expire (now : ℤ)
deriving Repr, DecidableEq

structure GeneratorRun where
  generator : Generator := {}
  clock : Option ℤ := none
  observed : List ℤ := []
  previewed : List BuiltRtcpTransportFeedback := []
deriving DecidableEq

namespace GeneratorRun

def step (r : GeneratorRun) : GeneratorEvent → Option GeneratorRun
  | .observe sequenceNumber arrivalTime mediaSsrc =>
      if r.clock.all (· ≤ arrivalTime) then
        let (generator, result) := r.generator.observe sequenceNumber arrivalTime mediaSsrc
        some { r with
          generator
          clock := some arrivalTime
          observed := result.extendedSequenceNumber :: r.observed }
      else none
  | .preview senderSsrc maximumPacketSize =>
      match r.generator.previewFeedback senderSsrc maximumPacketSize with
      | .ok (some feedback) => some { r with previewed := feedback :: r.previewed }
      | _ => some r
  | .commit feedback =>
      if feedback ∈ r.previewed then
        some { r with generator := r.generator.commitFeedback feedback }
      else none
  | .expire now => some { r with generator := r.generator.expire now }

/-- A run starts with any constructor arguments. -/
def initial (r : GeneratorRun) : Prop :=
  ∃ maximumHistoryAge maximumHistoryPackets,
    r = { generator := { maximumHistoryAge, maximumHistoryPackets } }

theorem initial_default : initial {} := ⟨_, _, rfl⟩

def system : EventSystem GeneratorRun GeneratorEvent := .ofStep initial step

end GeneratorRun

namespace Generator
variable {g : Generator}

@[simp] theorem refreshCounts_arrivals : g.refreshCounts.arrivals = g.arrivals := rfl
@[simp] theorem refreshCounts_window :
    g.refreshCounts.feedbackWindowStart = g.feedbackWindowStart := rfl
@[simp] theorem refreshCounts_newest :
    g.refreshCounts.newestExtendedSequence = g.newestExtendedSequence := rfl

/-- What unwrapping can do: take the first number, start over after a jump, or move the newest
number forward. -/
theorem unwrapSequence_cases (g : Generator) (sequenceNumber : UInt16) :
    (g.newestExtendedSequence = none ∧ g.unwrapSequence sequenceNumber =
      ({ g with newestExtendedSequence := some sequenceNumber.toNat },
        (sequenceNumber.toNat : ℤ), false)) ∨
    (∃ newest candidate, g.newestExtendedSequence = some newest ∧
      maximumSequenceJump < |candidate - newest| ∧ g.unwrapSequence sequenceNumber =
        ({ g with
            arrivals := .empty
            feedbackWindowStart := some candidate
            newestExtendedSequence := some candidate }, candidate, true)) ∨
    ∃ newest candidate, g.newestExtendedSequence = some newest ∧
      |candidate - newest| ≤ maximumSequenceJump ∧ g.unwrapSequence sequenceNumber =
        ({ g with newestExtendedSequence := some (max newest candidate) }, candidate, false) := by
  rw [unwrapSequence]
  rcases hnewest : g.newestExtendedSequence with _ | newest
  · exact Or.inl ⟨rfl, rfl⟩
  right
  simp only
  generalize SequenceSpace.unwrap sequenceHalfRange newest sequenceNumber.toNat = candidate
  have hdistance : (if candidate ≥ newest then candidate - newest else newest - candidate) =
      |candidate - newest| := by
    split_ifs with h
    · rw [abs_of_nonneg (by omega)]
    · rw [abs_of_neg (by omega)]
      omega
  rw [hdistance]
  by_cases hjump : |candidate - newest| > maximumSequenceJump
  · exact Or.inl ⟨newest, candidate, rfl, hjump, if_pos hjump⟩
  · refine Or.inr ⟨newest, candidate, rfl, not_lt.mp hjump, ?_⟩
    rw [if_neg hjump]
    split_ifs with hlt
    · rw [max_eq_right (le_of_lt hlt)]
    · rw [max_eq_left (not_lt.mp hlt), ← hnewest]

/-- Without a discontinuity only the newest number moves, and only forward. -/
theorem unwrapSequence_continuous {sequenceNumber : UInt16}
    (h : (g.unwrapSequence sequenceNumber).2.2 = false) :
    ∃ newest, (g.unwrapSequence sequenceNumber).1 =
        { g with newestExtendedSequence := some newest } ∧
      (g.unwrapSequence sequenceNumber).2.1 ≤ newest ∧
      ∀ before, g.newestExtendedSequence = some before → before ≤ newest := by
  rcases g.unwrapSequence_cases sequenceNumber with
    ⟨hnone, heq⟩ | ⟨newest, candidate, -, -, heq⟩ | ⟨newest, candidate, hnewest, -, heq⟩
  · rw [heq]
    exact ⟨_, rfl, le_refl _, fun before hb => by simp [hnone] at hb⟩
  · simp [heq] at h
  · rw [heq]
    refine ⟨_, rfl, le_max_right _ _, fun before hb => ?_⟩
    obtain rfl := Option.some.inj (hnewest.symm.trans hb)
    exact le_max_left _ _

section RecordArrival
variable (g) (sequenceNumber : UInt16) (arrivalTime : ℤ) (mediaSsrc : UInt32)

/-- The extended number of the observed packet. -/
def extendedNumber : ℤ := (g.unwrapSequence sequenceNumber).2.1

theorem recordArrival_result :
    (g.recordArrival sequenceNumber arrivalTime mediaSsrc).2.extendedSequenceNumber =
        g.extendedNumber sequenceNumber ∧
      (g.recordArrival sequenceNumber arrivalTime mediaSsrc).2.sequenceDiscontinuity =
        (g.unwrapSequence sequenceNumber).2.2 := by
  by_cases h : (g.unwrapSequence sequenceNumber).2.1 ∈ (g.unwrapSequence sequenceNumber).1.arrivals
  all_goals simp [recordArrival, extendedNumber, h]

theorem recordArrival_arrivals :
    (g.recordArrival sequenceNumber arrivalTime mediaSsrc).1.arrivals =
      ((g.unwrapSequence sequenceNumber).1.arrivals.tryEmplace
        (g.extendedNumber sequenceNumber) ⟨arrivalTime⟩).1 := by
  by_cases h : (g.unwrapSequence sequenceNumber).2.1 ∈ (g.unwrapSequence sequenceNumber).1.arrivals
  all_goals simp [recordArrival, extendedNumber, h]

theorem mem_recordArrival {x : ℤ} :
    x ∈ (g.recordArrival sequenceNumber arrivalTime mediaSsrc).1.arrivals ↔
      x ∈ (g.unwrapSequence sequenceNumber).1.arrivals ∨ x = g.extendedNumber sequenceNumber := by
  rw [recordArrival_arrivals, OrderedMap.mem_tryEmplace]

theorem recordArrival_newest :
    (g.recordArrival sequenceNumber arrivalTime mediaSsrc).1.newestExtendedSequence =
      (g.unwrapSequence sequenceNumber).1.newestExtendedSequence := by
  by_cases h : (g.unwrapSequence sequenceNumber).2.1 ∈ (g.unwrapSequence sequenceNumber).1.arrivals
  all_goals simp [recordArrival, h]

/-- A number which was not recorded yet moves the window start down to it. -/
theorem recordArrival_window :
    (g.recordArrival sequenceNumber arrivalTime mediaSsrc).1.feedbackWindowStart =
      if g.extendedNumber sequenceNumber ∈ (g.unwrapSequence sequenceNumber).1.arrivals then
        (g.unwrapSequence sequenceNumber).1.feedbackWindowStart
      else
        some (match (g.unwrapSequence sequenceNumber).1.feedbackWindowStart with
          | none => g.extendedNumber sequenceNumber
          | some start => min (g.extendedNumber sequenceNumber) start) := by
  by_cases h : g.extendedNumber sequenceNumber ∈ (g.unwrapSequence sequenceNumber).1.arrivals
  · rw [if_pos h]
    rw [extendedNumber] at h
    simp [recordArrival, h]
  · rw [if_neg h]
    rw [extendedNumber] at h ⊢
    simp only [recordArrival, OrderedMap.tryEmplace_snd, decide_eq_true_eq, if_pos h]
    rcases (g.unwrapSequence sequenceNumber).1.feedbackWindowStart with _ | start
    · rfl
    · simp only [Option.some.injEq]
      split_ifs with hlt
      · rw [min_eq_left (le_of_lt hlt)]
      · rw [min_eq_right (not_lt.mp hlt)]

end RecordArrival

section EvictOld
variable (g) (now : ℤ)

@[simp] theorem evictOld_arrivals : (g.evictOld now).arrivals = g.survivingArrivals now := by
  simp only [evictOld]
  split <;> rfl

@[simp] theorem evictOld_newest :
    (g.evictOld now).newestExtendedSequence = g.newestExtendedSequence := by
  simp only [evictOld]
  split <;> rfl

theorem mem_of_surviving {now} {x : ℤ} (h : x ∈ g.survivingArrivals now) : x ∈ g.arrivals := by
  obtain ⟨record, hrecord⟩ := h
  exact ⟨record, (OrderedMap.entry_mem_filter.mp
    (OrderedMap.entry_mem_of_mem_eraseFrontTo hrecord)).1⟩

/-- The start of the window after eviction. -/
theorem evictOld_window {start : ℤ} (h : g.feedbackWindowStart = some start) :
    (g.evictOld now).feedbackWindowStart =
      match (g.survivingArrivals now).first? with
      | none => g.newestExtendedSequence.map (· + 1)
      | some earliest => some (max start (earliest.1 - 4095)) := by
  simp only [evictOld, h]
  rcases (g.survivingArrivals now).first? with _ | earliest
  · rfl
  · have hlit : ((maximumStatusesPerFeedback : ℤ) - 1) = 4095 := rfl
    simp only [hlit, Option.some.injEq]
    split_ifs with hlt
    · rw [max_eq_right (le_of_lt hlt)]
    · rw [max_eq_left (not_lt.mp hlt)]

theorem evictOld_window_none (h : g.feedbackWindowStart = none) :
    (g.evictOld now).feedbackWindowStart = none := by
  simp only [evictOld, h]

end EvictOld

section Commit
variable (g) (feedback : BuiltRtcpTransportFeedback)

@[simp] theorem commitFeedback_arrivals : (g.commitFeedback feedback).arrivals = g.arrivals := by
  rw [commitFeedback]
  split
  · rfl
  · split_ifs <;> rfl

@[simp] theorem commitFeedback_newest :
    (g.commitFeedback feedback).newestExtendedSequence = g.newestExtendedSequence := by
  rw [commitFeedback]
  split
  · rfl
  · split_ifs <;> rfl

/-- A commit leaves the window alone or moves its start forward. -/
theorem commitFeedback_window :
    (g.commitFeedback feedback).feedbackWindowStart = g.feedbackWindowStart ∨
      ∃ start, g.feedbackWindowStart = some start ∧ start ≤ feedback.endExtendedSequence ∧
        (g.commitFeedback feedback).feedbackWindowStart =
          some (feedback.endExtendedSequence + 1) := by
  rw [commitFeedback]
  split
  · next hnone => exact Or.inl rfl
  · next start hstart =>
    split_ifs with hskip
    · exact Or.inl rfl
    · exact Or.inr ⟨start, hstart, by omega, rfl⟩

end Commit

end Generator

namespace GeneratorRun

/-- What a step of a run can do. -/
theorem step_cases {r r' : GeneratorRun} {event : GeneratorEvent} (h : r.step event = some r') :
    (∃ sequenceNumber arrivalTime mediaSsrc,
      event = .observe sequenceNumber arrivalTime mediaSsrc ∧
      r' = { r with
        generator := (r.generator.observe sequenceNumber arrivalTime mediaSsrc).1
        clock := some arrivalTime
        observed := r.generator.extendedNumber sequenceNumber :: r.observed }) ∨
    (∃ senderSsrc maximumPacketSize, event = .preview senderSsrc maximumPacketSize ∧
      r'.generator = r.generator ∧ r'.observed = r.observed) ∨
    (∃ feedback, event = .commit feedback ∧
      r' = { r with generator := r.generator.commitFeedback feedback }) ∨
    ∃ now, event = .expire now ∧ r' = { r with generator := r.generator.expire now } := by
  cases event with
  | observe sequenceNumber arrivalTime mediaSsrc =>
      simp only [step] at h
      split_ifs at h
      refine Or.inl ⟨_, _, _, rfl, ?_⟩
      rw [← Option.some.inj h]
      simp only [Generator.observe, Generator.recordArrival_result]
  | preview senderSsrc maximumPacketSize =>
      refine Or.inr (Or.inl ⟨_, _, rfl, ?_⟩)
      simp only [step] at h
      split at h <;> obtain rfl := Option.some.inj h <;> exact ⟨rfl, rfl⟩
  | commit feedback =>
      simp only [step] at h
      split_ifs at h
      exact Or.inr (Or.inr (Or.inl ⟨_, rfl, (Option.some.inj h).symm⟩))
  | expire now => exact Or.inr (Or.inr (Or.inr ⟨_, rfl, (Option.some.inj h).symm⟩))

end GeneratorRun
end SimpleWebrtc.TransportFeedbackGenerator
