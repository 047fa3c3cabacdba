import Mathlib.Tactic.NormNum
import Mathlib.Tactic.SplitIfs
import SimpleWebrtc.Library.Runs
import SimpleWebrtc.RtpReceiveStatistics

/-!
# Reported loss

Receiver reports against the packets of a source counted without a width. The
statistics keep the cycles of the sequence number in thirty-two bits, and only
the wrap of that word sets a report apart from the true counts.
-/
namespace SimpleWebrtc.ReportedLoss
open Library RtpReceiveStatistics

/-- The packets of a source since it was first heard or heard anew, and since the last commit. -/
structure PacketCounts where
  base : ℕ := 0
  highest : ℕ := 0
  received : ℕ := 0
  expectedSince : ℕ := 0
  receivedSince : ℕ := 0
deriving Repr, DecidableEq

namespace PacketCounts

def start (sequenceNumber : ℕ) : PacketCounts where
  base := sequenceNumber
  highest := sequenceNumber
  received := 1
  expectedSince := 1
  receivedSince := 1

def advance (t : PacketCounts) (distance : ℕ) : PacketCounts where
  base := t.base
  highest := t.highest + distance
  received := t.received + 1
  expectedSince := t.expectedSince + distance
  receivedSince := t.receivedSince + 1

def commit (t : PacketCounts) : PacketCounts :=
  { t with
    expectedSince := 0
    receivedSince := 0 }

/-- The highest number less the first one, plus one, once a packet was received. -/
def expected (t : PacketCounts) : ℕ :=
  if t.received = 0 then 0 else t.highest - t.base + 1

end PacketCounts

structure Receiver where
  statistics : ReceiveStatistics := {}
  counts : PacketCounts := {}
deriving Repr, DecidableEq

inductive ReceiverEvent where
  | observe (sequenceNumber : UInt16) (clockRate : UInt32)
  | commitReport
  | reset
deriving Repr, DecidableEq

namespace Receiver

/-- The counts follow what the statistics take a packet for, and nothing else of their state. -/
def countArrival (r : Receiver) (sequenceNumber : UInt16) (clockRate : UInt32) : PacketCounts :=
  match r.statistics.arrival sequenceNumber clockRate with
  | .ignored | .suspicious => r.counts
  | .first | .restart => .start sequenceNumber.toNat
  | .ahead => r.counts.advance (r.statistics.delta sequenceNumber).toNat
  | .late => r.counts.advance 0

def step (r : Receiver) : ReceiverEvent → Receiver
  | .observe sequenceNumber clockRate =>
      { statistics := (r.statistics.observe sequenceNumber clockRate).2
        counts := r.countArrival sequenceNumber clockRate }
  | .commitReport =>
      { statistics := r.statistics.commitReport
        counts := r.counts.commit }
  | .reset =>
      { statistics := r.statistics.reset
        counts := {} }

def Initial (r : Receiver) : Prop :=
  r = {}

/-- The cycle word is at its last value and the packet starts one more cycle. -/
def WrapsCycles (r : Receiver) (sequenceNumber : UInt16) : Prop :=
  sequenceNumber < r.statistics.maximumSequenceNumber ∧ r.statistics.sequenceCycles = 4294901760

/-- The step keeps the cycle word and the packet count, read as a signed word, from wrapping. -/
def Fits (r : Receiver) : ReceiverEvent → Prop
  | .observe sequenceNumber clockRate =>
      (r.statistics.arrival sequenceNumber clockRate = .ahead → ¬r.WrapsCycles sequenceNumber) ∧
        (r.statistics.arrival sequenceNumber clockRate = .ahead ∨
            r.statistics.arrival sequenceNumber clockRate = .late →
          r.statistics.receivedPacketCount.toNat + 1 < 9223372036854775808)
  | _ => True

instance (r : Receiver) (sequenceNumber : UInt16) : Decidable (r.WrapsCycles sequenceNumber) :=
  inferInstanceAs (Decidable (_ ∧ _))

instance (r : Receiver) : ∀ e, Decidable (r.Fits e)
  | .observe _ _ => inferInstanceAs (Decidable ((_ → ¬_) ∧ (_ ∨ _ → _)))
  | .commitReport | .reset => inferInstanceAs (Decidable True)

end Receiver

def receiver : EventSystem Receiver ReceiverEvent :=
  .ofStep Receiver.Initial fun r e => some (r.step e)

/-- What a report previewed now has to say. -/
structure TrueReport (s : ReceiveStatistics) (t : PacketCounts) : Prop where
  expected : s.previewReport.expectedPacketCount.toNat = t.expected
  received : s.previewReport.receivedPacketCount.toNat = t.received
  expectedPrior : s.expectedPacketCountPrior.toNat ≤ s.expectedPacketCount.toNat
  receivedPrior : s.receivedPacketCountPrior.toNat ≤ s.receivedPacketCount.toNat
  expectedInterval : s.expectedInterval.toNat = t.expectedSince
  receivedInterval : s.receivedInterval.toNat = t.receivedSince
  fractionLost : s.previewReport.fractionLost.toNat =
    min 255 (256 * (t.expectedSince - t.receivedSince) / t.expectedSince)
  cumulativeLost : s.previewReport.cumulativeLost =
    clampCumulativeLost ((t.expected : ℤ) - t.received)

/-- The base, the highest number and the cycles of a source that was heard. -/
structure Heard (s : ReceiveStatistics) (t : PacketCounts) : Prop where
  received : t.received ≠ 0
  base : t.base = s.baseSequenceNumber.toNat
  highest : t.highest = s.sequenceCycles.toNat + s.maximumSequenceNumber.toNat
  base_le : t.base ≤ t.highest
  cycles : s.sequenceCycles.toNat % 65536 = 0

structure Counted (s : ReceiveStatistics) (t : PacketCounts) : Prop where
  received : s.receivedPacketCount.toNat = t.received
  received_lt : t.received < 9223372036854775808
  receivedPrior : s.receivedPacketCountPrior.toNat + t.receivedSince = t.received
  expectedPrior : s.expectedPacketCountPrior.toNat + t.expectedSince = t.expected
  silent : s.sequenceInitialized = false → t.received = 0
  heard : s.sequenceInitialized = true → Heard s t

namespace PacketCounts

theorem expected_start (n : ℕ) : (start n).expected = 1 := by
  simp [expected, start]

theorem expected_of_received {t : PacketCounts} (h : t.received ≠ 0) :
    t.expected = t.highest - t.base + 1 :=
  if_neg h

theorem expected_advance {t : PacketCounts} (distance : ℕ) (h : t.received ≠ 0)
    (hbase : t.base ≤ t.highest) : (t.advance distance).expected = t.expected + distance := by
  have hadvance : (t.advance distance).received ≠ 0 := Nat.succ_ne_zero _
  rw [expected_of_received h, expected_of_received hadvance]
  simp only [advance]
  omega

theorem expected_commit (t : PacketCounts) : t.commit.expected = t.expected :=
  rfl

end PacketCounts

theorem signed_of_lt {word : UInt64} (h : word.toNat < 9223372036854775808) :
    signed word = word.toNat :=
  if_pos h

namespace Counted
variable {s : ReceiveStatistics} {t : PacketCounts}

theorem initial : Counted {} {} where
  received := rfl
  received_lt := by decide
  receivedPrior := rfl
  expectedPrior := rfl
  silent _ := rfl
  heard h := Bool.noConfusion h

/-- The expected count is exact as long as the cycle word did not wrap. -/
theorem expected_eq (h : Counted s t) :
    s.expectedPacketCount.toNat = t.expected ∧ t.expected ≤ 4294967296 := by
  unfold ReceiveStatistics.expectedPacketCount
  by_cases hinit : s.sequenceInitialized = false
  · rw [if_pos hinit, PacketCounts.expected, if_pos (h.silent hinit)]
    exact ⟨rfl, by omega⟩
  have hheard := h.heard (by simpa using hinit)
  have hbase := hheard.base
  have hhighest := hheard.highest
  have hle := hheard.base_le
  have hcycles := hheard.cycles
  have hcyclesLt := s.sequenceCycles.toNat_lt
  have hmaximumLt := s.maximumSequenceNumber.toNat_lt
  have hbaseLt := s.baseSequenceNumber.toNat_lt
  rw [if_neg hinit, PacketCounts.expected_of_received hheard.received]
  have hvalue : (s.sequenceCycles.toUInt64 + s.maximumSequenceNumber.toUInt64 -
      s.baseSequenceNumber.toUInt64 + 1).toNat = t.highest - t.base + 1 := by
    simp only [UInt64.toNat_add, UInt64.toNat_sub, UInt32.toNat_toUInt64, UInt16.toNat_toUInt64,
      UInt64.toNat_one]
    omega
  exact ⟨hvalue, by omega⟩

theorem expectedInterval_eq (h : Counted s t) : s.expectedInterval.toNat = t.expectedSince := by
  have hexpected := h.expected_eq
  have hprior := h.expectedPrior
  have hlt := s.expectedPacketCountPrior.toNat_lt
  rw [ReceiveStatistics.expectedInterval, UInt64.toNat_sub]
  omega

theorem receivedInterval_eq (h : Counted s t) : s.receivedInterval.toNat = t.receivedSince := by
  have hreceived := h.received
  have hprior := h.receivedPrior
  have hlt := s.receivedPacketCount.toNat_lt
  rw [ReceiveStatistics.receivedInterval, UInt64.toNat_sub]
  omega

theorem fractionLost_eq (h : Counted s t) :
    s.fractionLost.toNat =
      min 255 (256 * (t.expectedSince - t.receivedSince) / t.expectedSince) := by
  have hexpected := h.expectedInterval_eq
  have hreceived := h.receivedInterval_eq
  have hexpectedLe : t.expectedSince ≤ 4294967296 := by
    have hprior := h.expectedPrior
    have hle := h.expected_eq.2
    omega
  have hreceivedLt : t.receivedSince < 9223372036854775808 := by
    have hprior := h.receivedPrior
    have hlt := h.received_lt
    omega
  have hlost : signed s.expectedInterval - signed s.receivedInterval =
      (t.expectedSince : ℤ) - t.receivedSince := by
    rw [signed_of_lt (by omega), signed_of_lt (by omega), hexpected, hreceived]
  have hzero : s.expectedInterval ≠ 0 ↔ t.expectedSince ≠ 0 := by
    rw [← hexpected, ne_eq, ← UInt64.toNat_inj, UInt64.toNat_zero]
  unfold ReceiveStatistics.fractionLost
  simp only [hlost, hzero]
  by_cases hpositive : t.expectedSince ≠ 0 ∧ 0 < (t.expectedSince : ℤ) - t.receivedSince
  · rw [if_pos hpositive]
    have hshift : ((UInt64.ofNat ((t.expectedSince : ℤ) - t.receivedSince).toNat <<< 8) /
        s.expectedInterval).toNat =
          256 * (t.expectedSince - t.receivedSince) / t.expectedSince := by
      have hnat : ((t.expectedSince : ℤ) - t.receivedSince).toNat =
          t.expectedSince - t.receivedSince := by omega
      rw [hnat, UInt64.toNat_div, UInt64.toNat_shiftLeft, UInt64.toNat_ofNat', hexpected]
      have hword : UInt64.toNat 8 % 64 = 8 := rfl
      rw [hword, Nat.shiftLeft_eq]
      congr 1
      omega
    rw [hshift, UInt8.toNat_ofNat', Nat.mod_eq_of_lt (by omega), Nat.min_comm]
  · rw [if_neg hpositive]
    have hnone : t.expectedSince - t.receivedSince = 0 := by omega
    rw [hnone]
    simp

theorem trueReport (h : Counted s t) : TrueReport s t := by
  have hexpected := h.expected_eq
  have hreceived := h.received
  have hreceivedLt := h.received_lt
  have hexpectedPrior := h.expectedPrior
  have hreceivedPrior := h.receivedPrior
  by_cases hinit : s.sequenceInitialized = false
  · have hsilent := h.silent hinit
    have hnone : t.expected = 0 := if_pos hsilent
    have hreport : s.previewReport = {} := if_pos hinit
    refine ⟨?_, ?_, by omega, by omega, h.expectedInterval_eq, h.receivedInterval_eq, ?_, ?_⟩
    · rw [hreport, hnone]
      rfl
    · rw [hreport, hsilent]
      rfl
    · rw [hreport]
      have hsince : t.expectedSince = 0 := by omega
      simp [hsince]
    · rw [hreport, hnone, hsilent]
      rfl
  · have hreport : s.previewReport = _ := if_neg hinit
    refine ⟨?_, ?_, by omega, by omega, h.expectedInterval_eq, h.receivedInterval_eq, ?_, ?_⟩
    · rw [hreport]
      exact hexpected.1
    · rw [hreport]
      exact hreceived
    · rw [hreport]
      exact h.fractionLost_eq
    · rw [hreport]
      simp only
      rw [signed_of_lt (by omega), signed_of_lt (by omega), hexpected.1, hreceived]

end Counted

theorem counted_start (s : ReceiveStatistics) (sequenceNumber : UInt16) :
    Counted (s.initializeSequence sequenceNumber).received (.start sequenceNumber.toNat) where
  received := rfl
  received_lt := by
    simp only [PacketCounts.start]
    omega
  receivedPrior := rfl
  expectedPrior := by
    rw [PacketCounts.expected_start]
    rfl
  silent h := Bool.noConfusion h
  heard _ :=
    { received := Nat.one_ne_zero
      base := rfl
      highest := (Nat.zero_add _).symm
      base_le := Nat.le_refl _
      cycles := rfl }

/-- One more packet is received at a highest number that moved with the true one. -/
theorem counted_received {s s' : ReceiveStatistics} {t : PacketCounts} (distance : ℕ)
    (h : Counted s t) (hinit : s.sequenceInitialized = true)
    (hfits : s.receivedPacketCount.toNat + 1 < 9223372036854775808)
    (hcounts : s'.receivedPacketCount = s.receivedPacketCount ∧
      s'.receivedPacketCountPrior = s.receivedPacketCountPrior ∧
      s'.expectedPacketCountPrior = s.expectedPacketCountPrior ∧
      s'.baseSequenceNumber = s.baseSequenceNumber ∧
      s'.sequenceInitialized = s.sequenceInitialized)
    (hhighest : s'.sequenceCycles.toNat + s'.maximumSequenceNumber.toNat =
      s.sequenceCycles.toNat + s.maximumSequenceNumber.toNat + distance)
    (hcycles : s'.sequenceCycles.toNat % 65536 = 0) :
    Counted s'.received (t.advance distance) := by
  obtain ⟨hcount, hcountPrior, hexpectedPrior, hbase, hinitialized⟩ := hcounts
  have hheard := h.heard hinit
  have hreceived := h.received
  have hprior := h.receivedPrior
  have hnext : (s.receivedPacketCount + 1).toNat = t.received + 1 := by
    rw [UInt64.toNat_add, UInt64.toNat_one]
    omega
  constructor
  case received =>
    simp only [ReceiveStatistics.received, PacketCounts.advance, hcount]
    exact hnext
  case received_lt =>
    simp only [PacketCounts.advance]
    omega
  case receivedPrior =>
    simp only [ReceiveStatistics.received, PacketCounts.advance, hcountPrior]
    omega
  case expectedPrior =>
    rw [PacketCounts.expected_advance distance hheard.received hheard.base_le]
    have hold := h.expectedPrior
    simp only [ReceiveStatistics.received, PacketCounts.advance, hexpectedPrior]
    omega
  case silent =>
    intro hsilent
    simp [ReceiveStatistics.received, hinitialized, hinit] at hsilent
  case heard =>
    intro _
    have hwas := hheard.highest
    have hle := hheard.base_le
    constructor
    case received => exact Nat.succ_ne_zero _
    case base =>
      simp only [ReceiveStatistics.received, PacketCounts.advance, hbase]
      exact hheard.base
    case highest =>
      simp only [ReceiveStatistics.received, PacketCounts.advance]
      omega
    case base_le =>
      simp only [PacketCounts.advance]
      omega
    case cycles => exact hcycles

theorem counted_ahead {s : ReceiveStatistics} {t : PacketCounts} {sequenceNumber : UInt16}
    (h : Counted s t) (hinit : s.sequenceInitialized = true)
    (hfits : s.receivedPacketCount.toNat + 1 < 9223372036854775808)
    (hwrap : ¬(sequenceNumber < s.maximumSequenceNumber ∧ s.sequenceCycles = 4294901760)) :
    Counted
      { s with
        sequenceCycles := s.cyclesAfter sequenceNumber
        maximumSequenceNumber := sequenceNumber }.received
      (t.advance (s.delta sequenceNumber).toNat) := by
  have hcycles := (h.heard hinit).cycles
  have hcyclesLt := s.sequenceCycles.toNat_lt
  have hmaximumLt := s.maximumSequenceNumber.toNat_lt
  have hnumberLt := sequenceNumber.toNat_lt
  have hdelta : (s.delta sequenceNumber).toNat =
      (65536 - s.maximumSequenceNumber.toNat + sequenceNumber.toNat) % 65536 :=
    UInt16.toNat_sub _ _
  have hmoved : (s.cyclesAfter sequenceNumber).toNat + sequenceNumber.toNat =
        s.sequenceCycles.toNat + s.maximumSequenceNumber.toNat + (s.delta sequenceNumber).toNat ∧
      (s.cyclesAfter sequenceNumber).toNat % 65536 = 0 := by
    unfold ReceiveStatistics.cyclesAfter
    by_cases hbelow : sequenceNumber < s.maximumSequenceNumber
    · have hlast : s.sequenceCycles.toNat ≠ 4294901760 := by
        intro hlast
        apply hwrap
        exact ⟨hbelow, UInt32.toNat_inj.mp hlast⟩
      have hnext : (s.sequenceCycles + kSequenceNumberModulus).toNat =
          s.sequenceCycles.toNat + 65536 := by
        have hmodulus : kSequenceNumberModulus.toNat = 65536 := rfl
        rw [UInt32.toNat_add, hmodulus]
        omega
      have hlt := UInt16.lt_iff_toNat_lt.mp hbelow
      rw [if_pos hbelow, hnext]
      omega
    · have hle := UInt16.lt_iff_toNat_lt.not.mp hbelow
      rw [if_neg hbelow]
      omega
  apply counted_received _ h hinit hfits
  · exact ⟨rfl, rfl, rfl, rfl, rfl⟩
  · exact hmoved.1
  · exact hmoved.2

theorem counted_commit {s : ReceiveStatistics} {t : PacketCounts} (h : Counted s t) :
    Counted s.commitReport t.commit where
  received := h.received
  received_lt := h.received_lt
  receivedPrior := h.received
  expectedPrior := by
    rw [PacketCounts.expected_commit]
    exact h.expected_eq.1
  silent := h.silent
  heard hinit :=
    { received := (h.heard hinit).received
      base := (h.heard hinit).base
      highest := (h.heard hinit).highest
      base_le := (h.heard hinit).base_le
      cycles := (h.heard hinit).cycles }

theorem counted_suspicious {s : ReceiveStatistics} {t : PacketCounts} (bad : UInt32)
    (h : Counted s t) : Counted { s with badSequenceNumber := bad } t where
  received := h.received
  received_lt := h.received_lt
  receivedPrior := h.receivedPrior
  expectedPrior := h.expectedPrior
  silent := h.silent
  heard hinit :=
    { received := (h.heard hinit).received
      base := (h.heard hinit).base
      highest := (h.heard hinit).highest
      base_le := (h.heard hinit).base_le
      cycles := (h.heard hinit).cycles }

theorem counted_reset (s : ReceiveStatistics) : Counted s.reset {} where
  received := rfl
  received_lt := by decide
  receivedPrior := rfl
  expectedPrior := rfl
  silent _ := rfl
  heard h := Bool.noConfusion h

/-- What one event keeps, as long as it fits. -/
theorem counted_step {r : Receiver} {e : ReceiverEvent} (h : Counted r.statistics r.counts)
    (hfits : r.Fits e) : Counted (r.step e).statistics (r.step e).counts := by
  cases e with
  | commitReport => exact counted_commit h
  | reset => exact counted_reset r.statistics
  | observe sequenceNumber clockRate =>
      simp only [Receiver.step, ReceiveStatistics.observe_arrival, Receiver.countArrival]
      obtain ⟨hwrap, hcount⟩ := hfits
      cases harrival : r.statistics.arrival sequenceNumber clockRate with
      | ignored => exact h
      | first => exact counted_start _ _
      | restart => exact counted_start _ _
      | suspicious => exact counted_suspicious _ h
      | ahead =>
          apply counted_ahead h (ReceiveStatistics.arrival_ahead harrival).1
          · exact hcount (.inl harrival)
          · exact hwrap harrival
      | late =>
          have hinit := ReceiveStatistics.arrival_late harrival
          apply counted_received 0 h hinit (hcount (.inr harrival))
          · exact ⟨rfl, rfl, rfl, rfl, rfl⟩
          · rfl
          · exact (h.heard hinit).cycles

theorem counted_run {events : List ReceiverEvent} {r : Receiver}
    (hrun : (receiver.restrict Receiver.Fits).Run events r) :
    Counted r.statistics r.counts := by
  refine @EventSystem.Run.invariant _ _ _ (fun r => Counted r.statistics r.counts)
    ?_ ?_ _ _ hrun
  · rintro r rfl
    exact Counted.initial
  · rintro r e r' h ⟨hfits, hstep⟩
    obtain rfl := Option.some.inj hstep
    exact counted_step h hfits

/-- In a run whose steps fit their words every report agrees with the unbounded counts. -/
theorem reports_are_true {events : List ReceiverEvent} {r : Receiver}
    (hrun : (receiver.restrict Receiver.Fits).Run events r) :
    TrueReport r.statistics r.counts :=
  (counted_run hrun).trueReport

/-- A jump confirmed by the next number, a cycle, a commit and a late packet all fit. -/
def shortRun : List ReceiverEvent :=
  [.observe 7 90000, .observe 40000 90000, .observe 40001 90000, .observe 42000 90000,
    .commitReport, .observe 44000 90000, .observe 43950 90000, .observe 43951 0]

def shortRunEnd : Receiver := shortRun.foldl Receiver.step {}

theorem shortRun_fits : (receiver.restrict Receiver.Fits).Run shortRun shortRunEnd := by
  have hinit : Receiver.Initial {} := rfl
  apply EventSystem.run_of_exec_restrict hinit
  decide +kernel

theorem reports_are_true_short_run :
    (receiver.restrict Receiver.Fits).Run shortRun shortRunEnd ∧
      TrueReport shortRunEnd.statistics shortRunEnd.counts ∧
      shortRunEnd.statistics.previewReport.fractionLost = 255 ∧
      shortRunEnd.statistics.previewReport.expectedPacketCount = 4000 :=
  ⟨shortRun_fits, reports_are_true shortRun_fits, by decide +kernel, by decide +kernel⟩

/-! ## The wrap of the cycle word -/

/-- The state after packets that each skip almost as many numbers as are believed at once. -/
def skipping (n : ℕ) : Receiver where
  statistics :=
    { sequenceInitialized := true
      baseSequenceNumber := 0
      maximumSequenceNumber := UInt16.ofNat (2999 * n)
      badSequenceNumber := kSequenceNumberModulus + 1
      sequenceCycles := UInt32.ofNat (2999 * n / 65536 * 65536)
      receivedPacketCount := UInt64.ofNat (n + 1) }
  counts :=
    { base := 0
      highest := 2999 * n
      received := n + 1
      expectedSince := 2999 * n + 1
      receivedSince := n + 1 }

def skips (n : ℕ) : List ReceiverEvent :=
  (List.range (n + 1)).map fun k => .observe (UInt16.ofNat (2999 * k)) 90000

theorem skipping_step (n : ℕ) :
    (skipping n).step (.observe (UInt16.ofNat (2999 * (n + 1))) 90000) = skipping (n + 1) := by
  have hdelta : (skipping n).statistics.delta (UInt16.ofNat (2999 * (n + 1))) = 2999 := by
    apply UInt16.toNat_inj.mp
    simp only [ReceiveStatistics.delta, skipping, UInt16.toNat_sub, UInt16.toNat_ofNat']
    have hword : UInt16.toNat 2999 = 2999 := rfl
    omega
  have harrival : (skipping n).statistics.arrival (UInt16.ofNat (2999 * (n + 1))) 90000 =
      .ahead := by
    have hinit : ¬(skipping n).statistics.sequenceInitialized = false := Bool.noConfusion
    unfold ReceiveStatistics.arrival
    rw [if_neg (by decide), if_neg hinit, hdelta, if_pos (by decide)]
  have hcycles : (skipping n).statistics.cyclesAfter (UInt16.ofNat (2999 * (n + 1))) =
      UInt32.ofNat (2999 * (n + 1) / 65536 * 65536) := by
    apply UInt32.toNat_inj.mp
    have hmodulus : kSequenceNumberModulus.toNat = 65536 := rfl
    unfold ReceiveStatistics.cyclesAfter
    simp only [skipping, UInt16.lt_iff_toNat_lt, UInt16.toNat_ofNat']
    split_ifs with hbelow
    · have hcycle : 2999 * (n + 1) / 65536 = 2999 * n / 65536 + 1 := by omega
      simp only [UInt32.toNat_add, UInt32.toNat_ofNat', hmodulus, hcycle]
      omega
    · have hcycle : 2999 * (n + 1) / 65536 = 2999 * n / 65536 := by omega
      rw [hcycle]
  have hcount : UInt64.ofNat (n + 1) + 1 = UInt64.ofNat (n + 1 + 1) := by
    rw [UInt64.ofNat_add (n + 1) 1]
    rfl
  simp only [Receiver.step, ReceiveStatistics.observe_arrival, Receiver.countArrival, harrival,
    hcycles, hdelta, ReceiveStatistics.received]
  simp only [skipping, PacketCounts.advance, hcount]
  rfl

theorem skips_run (n : ℕ) : receiver.Run (skips n) (skipping n) := by
  induction n with
  | zero =>
      have hstart : receiver.Run [] {} := .start rfl
      have hfirst : receiver.Run ([] ++ [.observe 0 90000]) (skipping 0) := .step hstart rfl
      exact hfirst
  | succ n ih =>
      have hnext : receiver.Run (skips n ++ [.observe (UInt16.ofNat (2999 * (n + 1))) 90000])
          (skipping (n + 1)) := .step ih (congrArg some (skipping_step n))
      rw [skips, List.range_succ, List.map_append]
      exact hnext

/-- The reports of a run can disagree with the unbounded counts. -/
theorem wrapped_report_untrue :
    ¬∀ events r, receiver.Run events r → TrueReport r.statistics r.counts := by
  intro h
  have hreport := (h _ _ (skips_run 1432134)).expected
  have hshort : (skipping 1432134).statistics.previewReport.expectedPacketCount.toNat = 2571 := by
    decide +kernel
  have htrue : (skipping 1432134).counts.expected = 4294969867 := by
    decide +kernel
  omega

end SimpleWebrtc.ReportedLoss
