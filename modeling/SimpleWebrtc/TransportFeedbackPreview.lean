import SimpleWebrtc.TransportFeedbackRoundTrip
import SimpleWebrtc.TransportFeedbackGenerator

/-!
# What a previewed packet reports

The status loop of `preview_feedback` is described by the list of optional
receive deltas it has appended. Each pass keeps the running clock within half
a tick of the arrival it reports, because the next delta is taken against the
quantised clock and not against the previous arrival.
-/
namespace SimpleWebrtc.TransportFeedbackGenerator
open Library TransportFeedbackCodec

/-- Truncated division leaves a remainder on the side of its dividend. -/
theorem tdiv_remainder (a : ℤ) {b : ℤ} (hb : 0 < b) :
    (0 ≤ a → 0 ≤ a - b * a.tdiv b ∧ a - b * a.tdiv b < b) ∧
      (a ≤ 0 → -b < a - b * a.tdiv b ∧ a - b * a.tdiv b ≤ 0) := by
  have hneg : (-a).tdiv b = -a.tdiv b := Int.neg_tdiv a b
  constructor
  · intro ha
    rw [Int.tdiv_eq_ediv_of_nonneg ha]
    have hmod := Int.mul_ediv_add_emod a b
    have hlo := Int.emod_nonneg a (ne_of_gt hb)
    have hhi := Int.emod_lt_of_pos a hb
    omega
  · intro ha
    rw [Int.tdiv_eq_ediv_of_nonneg (by omega : 0 ≤ -a)] at hneg
    have hmod := Int.mul_ediv_add_emod (-a) b
    have hlo := Int.emod_nonneg (-a) (ne_of_gt hb)
    have hhi := Int.emod_lt_of_pos (-a) hb
    rw [hneg, mul_neg] at hmod
    omega

theorem roundDeltaTicks_near (delta : ℤ) : |250 * roundDeltaTicks delta - delta| ≤ 125 := by
  have hhalf : (250 : ℤ).tdiv 2 = 125 := rfl
  have hup := (tdiv_remainder (delta + 125) (show (0 : ℤ) < 250 by decide)).1
  have hdown := (tdiv_remainder (delta - 125) (show (0 : ℤ) < 250 by decide)).2
  simp only [roundDeltaTicks, deltaTickMicroseconds, hhalf, abs_le]
  split_ifs <;> omega

theorem floorReferenceTime_near (arrival : ℤ) :
    0 ≤ arrival - 64000 * floorReferenceTime arrival ∧
      arrival - 64000 * floorReferenceTime arrival < 64000 := by
  have hup := (tdiv_remainder arrival (show (0 : ℤ) < 64000 by decide)).1
  have hdown := (tdiv_remainder (-arrival + 64000 - 1) (show (0 : ℤ) < 64000 by decide)).1
  simp only [floorReferenceTime, referenceTimeMicroseconds]
  split_ifs <;> omega

/-- Whole microseconds lose less than one microsecond. -/
theorem arrivalTimeMicroseconds_near (time : ℤ) :
    |1000 * arrivalTimeMicroseconds time - time| < 1000 := by
  obtain ⟨hup, hdown⟩ := tdiv_remainder time (show (0 : ℤ) < 1000 by decide)
  simp only [arrivalTimeMicroseconds, abs_lt]
  omega

namespace Generator
variable {g : Generator}

/-- The state of the status loop after the statuses with these receive deltas. -/
structure Previewed (g : Generator) (base referenceUs : ℤ) (maximumPacketSize : ℕ)
    (p : Preview) (ticks : List (Option ℤ)) : Prop where
  deltaSizes : p.deltaSizes = ticks.map statusDeltaSize
  deltas : p.deltas = ticks.filterMap id
  actualEnd : p.actualEnd = base + ticks.length - 1
  fits : ∀ delta, some delta ∈ ticks → FitsI16 delta
  size : ticks = [] ∨ encodedPacketSize p.deltaSizes ≤ maximumPacketSize
  clock : p.lastArrivalUs = referenceUs + 250 * (ticks.filterMap id).sum
  reported : ∀ i < ticks.length, (ticks.getD i none).isSome ↔ base + i ∈ g.arrivals
  near : ∀ i < ticks.length, ∀ record, g.arrivals.find? (base + i) = some record →
    |referenceUs + 250 * ((ticks.take (i + 1)).filterMap id).sum -
      arrivalTimeMicroseconds record.arrivalTime| ≤ 125

theorem previewed_start (referenceTime base : ℤ) (maximumPacketSize : ℕ) :
    Previewed g base (referenceTime * 64000) maximumPacketSize (.start referenceTime base) [] where
  deltaSizes := rfl
  deltas := rfl
  actualEnd := by simp [Preview.start]
  fits := by simp
  size := Or.inl rfl
  clock := by simp [Preview.start, referenceTimeMicroseconds]
  reported := by simp
  near := by simp

theorem append_eq_some {p p' : Preview} {maximumPacketSize : ℕ} {sequence : ℤ}
    {delta : Option ℤ} (h : p.append maximumPacketSize sequence delta = some p') :
    p'.deltaSizes = p.deltaSizes ++ [statusDeltaSize delta] ∧
      p'.deltas = p.deltas ++ delta.toList ∧
      p'.lastArrivalUs = p.lastArrivalUs + delta.getD 0 * 250 ∧ p'.actualEnd = sequence ∧
      encodedPacketSize p'.deltaSizes ≤ maximumPacketSize := by
  rw [Preview.append] at h
  by_cases hsize : encodedPacketSize (p.deltaSizes ++ [statusDeltaSize delta]) > maximumPacketSize
  · simp [hsize] at h
  · simp only [if_neg hsize] at h
    obtain rfl := Option.some.inj h
    exact ⟨rfl, rfl, rfl, rfl, not_lt.mp hsize⟩

/-- The delta a pass appends: none exactly when the number has no arrival. -/
theorem previewStatus_eq_some {base sequence : ℤ} {maximumPacketSize : ℕ} {p p' : Preview}
    (h : g.previewStatus base maximumPacketSize sequence p = .ok (some p')) :
    ∃ delta, p.append maximumPacketSize sequence delta = some p' ∧
      (delta.isSome ↔ sequence ∈ g.arrivals) ∧ (∀ d, delta = some d → FitsI16 d) ∧
      ∀ record, g.arrivals.find? sequence = some record →
        |p.lastArrivalUs + 250 * delta.getD 0 - arrivalTimeMicroseconds record.arrivalTime| ≤ 125 := by
  rw [previewStatus] at h
  rcases hfind : g.arrivals.find? sequence with _ | arrival
  · rw [hfind] at h
    refine ⟨none, Except.ok.inj h, ?_, by simp, by simp⟩
    simpa using OrderedMap.find?_eq_none.mp hfind
  · rw [hfind] at h
    simp only at h
    split_ifs at h with hrange
    · simp at h
    · refine ⟨_, Except.ok.inj h, ?_, ?_, ?_⟩
      · simpa using OrderedMap.isSome_find?.mp (by rw [hfind]; rfl)
      · intro d hd
        obtain rfl := Option.some.inj hd
        simp only [FitsI16]
        omega
      · intro record hrecord
        obtain rfl := Option.some.inj hrecord
        have hnear := roundDeltaTicks_near
          (arrivalTimeMicroseconds arrival.arrivalTime - p.lastArrivalUs)
        rw [abs_le] at hnear ⊢
        simp only [Option.getD_some]
        omega

/-- One pass of the status loop appends one status. -/
theorem Previewed.step {base referenceUs : ℤ} {maximumPacketSize : ℕ} {p p' : Preview}
    {ticks : List (Option ℤ)} (hp : Previewed g base referenceUs maximumPacketSize p ticks)
    (h : g.previewStatus base maximumPacketSize (base + ticks.length) p = .ok (some p')) :
    ∃ delta, Previewed g base referenceUs maximumPacketSize p' (ticks ++ [delta]) := by
  obtain ⟨delta, happend, hreported, hfits, hnear⟩ := previewStatus_eq_some h
  obtain ⟨hsizes, hdeltas, hclock, hend, hsize⟩ := append_eq_some happend
  have hsum : ((ticks ++ [delta]).filterMap id).sum = (ticks.filterMap id).sum + delta.getD 0 := by
    cases delta <;> simp
  refine ⟨delta, ?_, ?_, ?_, ?_, Or.inr hsize, ?_, ?_, ?_⟩
  · rw [hsizes, hp.deltaSizes, List.map_append]
    rfl
  · rw [hdeltas, hp.deltas]
    cases delta <;> simp
  · rw [hend, List.length_append, List.length_singleton]
    omega
  · intro d hd
    rcases List.mem_append.mp hd with hmem | hmem
    · exact hp.fits d hmem
    · exact hfits d (List.mem_singleton.mp hmem).symm
  · rw [hclock, hp.clock, hsum]
    omega
  · intro i hi
    rw [List.length_append, List.length_singleton] at hi
    rcases Nat.lt_succ_iff_lt_or_eq.mp hi with hlt | rfl
    · rw [List.getD_append _ _ _ _ hlt]
      exact hp.reported i hlt
    · rw [List.getD_append_right _ _ _ _ (le_refl _), Nat.sub_self]
      exact hreported
  · intro i hi record hrecord
    rw [List.length_append, List.length_singleton] at hi
    rcases Nat.lt_succ_iff_lt_or_eq.mp hi with hlt | rfl
    · rw [List.take_append_of_le_length (by omega)]
      exact hp.near i hlt record hrecord
    · rw [List.take_of_length_le (by simp), hsum]
      have h := hnear record hrecord
      rw [hp.clock] at h
      rw [abs_le] at h ⊢
      omega

/-- The whole status loop. -/
theorem Previewed.run {base sequence referenceUs : ℤ} {maximumPacketSize remaining : ℕ}
    {p p' : Preview} {ticks : List (Option ℤ)}
    (hp : Previewed g base referenceUs maximumPacketSize p ticks)
    (hsequence : sequence = base + ticks.length)
    (h : g.previewStatuses base maximumPacketSize remaining sequence p = .ok p') :
    ∃ ticks', Previewed g base referenceUs maximumPacketSize p' ticks' ∧
      ticks'.length ≤ ticks.length + remaining := by
  induction remaining generalizing p ticks sequence with
  | zero =>
      obtain rfl := Except.ok.inj h
      exact ⟨ticks, hp, le_refl _⟩
  | succ remaining ih =>
      rw [previewStatuses] at h
      split at h
      · simp at h
      · obtain rfl := Except.ok.inj h
        exact ⟨ticks, hp, by omega⟩
      · next hstep =>
        rw [hsequence] at hstep
        obtain ⟨delta, hnext⟩ := hp.step hstep
        have hlength : (ticks ++ [delta]).length = ticks.length + 1 := by simp
        obtain ⟨ticks', hticks, hle⟩ := ih hnext (by rw [hlength]; omega) h
        exact ⟨ticks', hticks, by omega⟩

theorem pendingRange_eq_some {base newest : ℤ} :
    g.pendingRange = some (base, newest) ↔
      g.feedbackWindowStart = some base ∧ g.newestExtendedSequence = some newest ∧
        base ≤ newest := by
  rw [pendingRange]
  split
  · next start newest' hstart hnewest =>
    split_ifs with hle
    · simp only [Option.some.injEq, Prod.mk.injEq, hstart, hnewest]
      constructor
      · rintro ⟨rfl, rfl⟩
        exact ⟨rfl, rfl, hle⟩
      · rintro ⟨rfl, rfl, -⟩
        exact ⟨rfl, rfl⟩
    · simp only [hstart, hnewest, Option.some.injEq, false_iff]
      rintro ⟨rfl, rfl, h⟩
      exact hle h
  · next hnone =>
    simp only [reduceCtorEq, false_iff]
    rintro ⟨hstart, hnewest, -⟩
    exact hnone base newest hstart hnewest

/-- A returned packet is the written form of some list of receive deltas, which describes the
arrivals from the start of the window on. -/
theorem previewFeedback_eq_some {senderSsrc : UInt32} {maximumPacketSize : ℕ}
    {feedback : BuiltRtcpTransportFeedback}
    (h : g.previewFeedback senderSsrc maximumPacketSize = .ok (some feedback)) :
    ∃ newest first p ticks,
      g.pendingRange = some (feedback.beginExtendedSequence, newest) ∧
      g.arrivals.lowerBound feedback.beginExtendedSequence = some first ∧
      Previewed g feedback.beginExtendedSequence
        (floorReferenceTime (arrivalTimeMicroseconds first.2.arrivalTime) * 64000)
        maximumPacketSize p ticks ∧
      0 < ticks.length ∧ ticks.length ≤ 4096 ∧
      feedback.beginExtendedSequence + ticks.length - 1 ≤ newest ∧
      feedback.endExtendedSequence = feedback.beginExtendedSequence + ticks.length - 1 ∧
      feedback.baseSequenceNumber =
        UInt16.ofNat (feedback.beginExtendedSequence % 65536).toNat ∧
      feedback.packetStatusCount = UInt16.ofNat ticks.length ∧
      feedback.mediaSsrc = g.mediaSsrc ∧
      feedback.feedbackPacketCount = g.feedbackPacketCount ∧
      feedback.packet = feedbackPacketOf senderSsrc g.mediaSsrc feedback.baseSequenceNumber
        (UInt32.ofNat (floorReferenceTime (arrivalTimeMicroseconds first.2.arrivalTime) %
          4294967296).toNat &&& 0x00FFFFFF) g.feedbackPacketCount ticks := by
  rw [previewFeedback] at h
  split_ifs at h with hsender hmax
  split at h
  · simp at h
  next base newest hrange =>
  split at h
  · simp at h
  next first hfirst =>
  simp only at h
  split_ifs at h with hlate
  rcases hloop : g.previewStatuses base maximumPacketSize
      (min newest (base + (maximumStatusesPerFeedback - 1)) - base + 1).toNat base
      (.start (floorReferenceTime (arrivalTimeMicroseconds first.2.arrivalTime)) base)
      with message | p
  · simp [hloop, bind, Except.bind] at h
  simp only [hloop, bind, Except.bind] at h
  split_ifs at h with hempty
  obtain rfl := Option.some.inj (Except.ok.inj h)
  obtain ⟨ticks, hp, hle⟩ := (previewed_start _ base maximumPacketSize).run (by simp) hloop
  simp only [List.length_nil, zero_add] at hle
  have hend := hp.actualEnd
  have hsizes : p.deltaSizes.length = ticks.length := by rw [hp.deltaSizes, List.length_map]
  simp only [maximumStatusesPerFeedback] at hle
  have hlast : base + (ticks.length : ℤ) - 1 ≤ newest := by omega
  refine ⟨newest, first, p, ticks, hrange, hfirst, hp, by omega, by omega, hlast, hend, rfl, ?_,
    rfl, rfl, ?_⟩
  · simp only [hsizes]
  · simp only [feedbackPacketOf, hp.deltaSizes, hp.deltas]

end Generator
end SimpleWebrtc.TransportFeedbackGenerator
