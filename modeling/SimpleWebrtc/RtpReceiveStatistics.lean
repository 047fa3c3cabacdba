import Mathlib.Data.Int.Basic
import Mathlib.Tactic.SplitIfs

/-!
# Receive statistics of an RTP source

Which packets of a source arrived, counted for its receiver reports. The
highest sequence number is kept in sixteen bits with a count of its cycles; a
jump is believed once the next number confirms it, and starts the count anew.
The jitter estimate takes no part in the counts.
-/
namespace SimpleWebrtc.RtpReceiveStatistics

def kSequenceNumberModulus : UInt32 := 65536
def kMaximumDropout : UInt16 := 3000
def kMaximumMisorder : UInt16 := 100
def kMinimumCumulativeLost : ℤ := -8388608
def kMaximumCumulativeLost : ℤ := 8388607

structure ReceiveReportSnapshot where
  fractionLost : UInt8 := 0
  cumulativeLost : ℤ := 0
  extendedHighestSequenceNumber : UInt32 := 0
  expectedPacketCount : UInt64 := 0
  receivedPacketCount : UInt64 := 0
deriving Repr, DecidableEq

structure ReceiveStatistics where
  sequenceInitialized : Bool := false
  baseSequenceNumber : UInt16 := 0
  maximumSequenceNumber : UInt16 := 0
  badSequenceNumber : UInt32 := 0
  sequenceCycles : UInt32 := 0
  receivedPacketCount : UInt64 := 0
  expectedPacketCountPrior : UInt64 := 0
  receivedPacketCountPrior : UInt64 := 0
deriving Repr, DecidableEq

/-- A word as the signed number of its width. -/
def signed (word : UInt64) : ℤ :=
  if word.toNat < 9223372036854775808 then word.toNat
  else (word.toNat : ℤ) - 18446744073709551616

def clampCumulativeLost (value : ℤ) : ℤ :=
  max kMinimumCumulativeLost (min value kMaximumCumulativeLost)

namespace ReceiveStatistics

def reset (_ : ReceiveStatistics) : ReceiveStatistics :=
  { badSequenceNumber := kSequenceNumberModulus + 1 }

def initializeSequence (_ : ReceiveStatistics) (sequenceNumber : UInt16) : ReceiveStatistics where
  sequenceInitialized := true
  baseSequenceNumber := sequenceNumber
  maximumSequenceNumber := sequenceNumber
  badSequenceNumber := kSequenceNumberModulus + 1

/-- The distance of a number ahead of the highest one, around the circle. -/
def delta (s : ReceiveStatistics) (sequenceNumber : UInt16) : UInt16 :=
  sequenceNumber - s.maximumSequenceNumber

def received (s : ReceiveStatistics) : ReceiveStatistics :=
  { s with receivedPacketCount := s.receivedPacketCount + 1 }

def updateSequence (s : ReceiveStatistics) (sequenceNumber : UInt16) : Bool × ReceiveStatistics :=
  if s.sequenceInitialized = false then
    (true, { s.initializeSequence sequenceNumber with receivedPacketCount := 1 })
  else if s.delta sequenceNumber < kMaximumDropout then
    let sequenceCycles :=
      if sequenceNumber < s.maximumSequenceNumber then s.sequenceCycles + kSequenceNumberModulus
      else s.sequenceCycles
    (true, { s with sequenceCycles, maximumSequenceNumber := sequenceNumber }.received)
  else if s.delta sequenceNumber ≤ 0 - kMaximumMisorder then
    if sequenceNumber.toUInt32 = s.badSequenceNumber then
      (true, (s.initializeSequence sequenceNumber).received)
    else (false, { s with badSequenceNumber := (sequenceNumber + 1).toUInt32 })
  else (true, s.received)

def observe (s : ReceiveStatistics) (sequenceNumber : UInt16) (clockRate : UInt32) :
    Bool × ReceiveStatistics :=
  if clockRate = 0 then (false, s) else s.updateSequence sequenceNumber

def expectedPacketCount (s : ReceiveStatistics) : UInt64 :=
  if s.sequenceInitialized = false then 0
  else s.sequenceCycles.toUInt64 + s.maximumSequenceNumber.toUInt64 -
    s.baseSequenceNumber.toUInt64 + 1

def expectedInterval (s : ReceiveStatistics) : UInt64 :=
  s.expectedPacketCount - s.expectedPacketCountPrior

def receivedInterval (s : ReceiveStatistics) : UInt64 :=
  s.receivedPacketCount - s.receivedPacketCountPrior

def fractionLost (s : ReceiveStatistics) : UInt8 :=
  let lostInterval := signed s.expectedInterval - signed s.receivedInterval
  if s.expectedInterval ≠ 0 ∧ 0 < lostInterval then
    let fraction := (UInt64.ofNat lostInterval.toNat <<< 8) / s.expectedInterval
    UInt8.ofNat (min fraction.toNat 255)
  else 0

def previewReport (s : ReceiveStatistics) : ReceiveReportSnapshot :=
  if s.sequenceInitialized = false then {}
  else
    { fractionLost := s.fractionLost
      cumulativeLost :=
        clampCumulativeLost (signed s.expectedPacketCount - signed s.receivedPacketCount)
      extendedHighestSequenceNumber := s.sequenceCycles + s.maximumSequenceNumber.toUInt32
      expectedPacketCount := s.expectedPacketCount
      receivedPacketCount := s.receivedPacketCount }

def commitReport (s : ReceiveStatistics) : ReceiveStatistics :=
  { s with
    expectedPacketCountPrior := s.expectedPacketCount
    receivedPacketCountPrior := s.receivedPacketCount }

/-- What the statistics take an observed packet for. -/
inductive Arrival where
  | ignored
  | first
  | ahead
  | suspicious
  | restart
  | late
deriving Repr, DecidableEq

def arrival (s : ReceiveStatistics) (sequenceNumber : UInt16) (clockRate : UInt32) : Arrival :=
  if clockRate = 0 then .ignored
  else if s.sequenceInitialized = false then .first
  else if s.delta sequenceNumber < kMaximumDropout then .ahead
  else if s.delta sequenceNumber ≤ 0 - kMaximumMisorder then
    if sequenceNumber.toUInt32 = s.badSequenceNumber then .restart else .suspicious
  else .late

def cyclesAfter (s : ReceiveStatistics) (sequenceNumber : UInt16) : UInt32 :=
  if sequenceNumber < s.maximumSequenceNumber then s.sequenceCycles + kSequenceNumberModulus
  else s.sequenceCycles

/-- Everything an observed packet can do to the statistics. -/
theorem observe_arrival (s : ReceiveStatistics) (sequenceNumber : UInt16) (clockRate : UInt32) :
    (s.observe sequenceNumber clockRate).2 =
      match s.arrival sequenceNumber clockRate with
      | .ignored => s
      | .first | .restart => (s.initializeSequence sequenceNumber).received
      | .ahead =>
          { s with
            sequenceCycles := s.cyclesAfter sequenceNumber
            maximumSequenceNumber := sequenceNumber }.received
      | .suspicious => { s with badSequenceNumber := (sequenceNumber + 1).toUInt32 }
      | .late => s.received := by
  unfold observe updateSequence arrival
  by_cases hclock : clockRate = 0
  · rw [if_pos hclock, if_pos hclock]
  by_cases hinit : s.sequenceInitialized = false
  · simp only [if_neg hclock, if_pos hinit]
    rfl
  simp only [if_neg hclock, if_neg hinit]
  by_cases hdropout : s.delta sequenceNumber < kMaximumDropout
  · simp only [if_pos hdropout, cyclesAfter]
  by_cases hmisorder : s.delta sequenceNumber ≤ 0 - kMaximumMisorder
  · simp only [if_neg hdropout, if_pos hmisorder]
    by_cases hbad : sequenceNumber.toUInt32 = s.badSequenceNumber
    · simp only [if_pos hbad]
    · simp only [if_neg hbad]
  · simp only [if_neg hdropout, if_neg hmisorder]

theorem arrival_ahead {s : ReceiveStatistics} {sequenceNumber : UInt16} {clockRate : UInt32}
    (h : s.arrival sequenceNumber clockRate = .ahead) :
    s.sequenceInitialized = true ∧ s.delta sequenceNumber < kMaximumDropout := by
  unfold arrival at h
  split_ifs at h with hclock hinit hdropout
  exact ⟨by simpa using hinit, hdropout⟩

theorem arrival_late {s : ReceiveStatistics} {sequenceNumber : UInt16} {clockRate : UInt32}
    (h : s.arrival sequenceNumber clockRate = .late) : s.sequenceInitialized = true := by
  unfold arrival at h
  split_ifs at h with hclock hinit
  simpa using hinit

end ReceiveStatistics

end SimpleWebrtc.RtpReceiveStatistics
