import SimpleWebrtc.TransportFeedbackPreview

/-!
# A previewed packet against the arrivals of the generator

The packet which `preview_feedback` returns is parsed again and compared with
the generator state: fields, sequence numbers, received flags and the times
which a receiver of the report reconstructs. The clock of the report counts
whole microseconds, so the reconstructed times are compared with the arrival
times as `arrival_time_microseconds` reads them; the steady clock itself counts
nanoseconds.
-/
namespace SimpleWebrtc.TransportFeedbackGenerator
open Library TransportFeedbackCodec

section Statuses
variable (sequence : UInt16) (ticks : List (Option ℤ))

@[simp] theorem statusesFrom_length : (statusesFrom sequence ticks).length = ticks.length := by
  induction ticks generalizing sequence with
  | nil => rfl
  | cons delta ticks ih => simp [statusesFrom, ih]

theorem statusesFrom_getElem {i : ℕ} (h : i < (statusesFrom sequence ticks).length) :
    (statusesFrom sequence ticks)[i] =
      ⟨sequence + UInt16.ofNat i, (ticks.getD i none).isSome, ticks.getD i none⟩ := by
  induction ticks generalizing sequence i with
  | nil => simp [statusesFrom] at h
  | cons delta ticks ih =>
      rcases i with _ | i
      · simp [statusesFrom]
      · simp only [statusesFrom, List.getElem_cons_succ, List.getD_cons_succ]
        rw [ih, UInt16.add_assoc, UInt16.add_comm 1 (UInt16.ofNat i), UInt16.ofNat_add]
        rfl

theorem statusesFrom_take (n : ℕ) :
    (statusesFrom sequence ticks).take n = statusesFrom sequence (ticks.take n) := by
  induction ticks generalizing sequence n with
  | nil => simp [statusesFrom]
  | cons delta ticks ih =>
      rcases n with _ | n
      · rfl
      · simp [statusesFrom, ih]

theorem statusesFrom_deltas :
    (statusesFrom sequence ticks).filterMap (·.deltaTicks) = ticks.filterMap id := by
  induction ticks generalizing sequence with
  | nil => rfl
  | cons delta ticks ih => cases delta <;> simp [statusesFrom, ih]

end Statuses

/-- The receive deltas of the statuses, as a receiver adds them up. -/
def deltaSum (statuses : List RtcpTransportFeedbackStatus) : ℤ :=
  (statuses.filterMap (·.deltaTicks)).sum

theorem sequence_word (base : ℤ) (i : ℕ) :
    ((UInt16.ofNat (base % 65536).toNat + UInt16.ofNat i).toNat : ℤ) = (base + i) % 65536 := by
  rw [UInt16.toNat_add, UInt16.toNat_ofNat', UInt16.toNat_ofNat']
  omega

theorem reference_word (reference : ℤ) :
    (((UInt32.ofNat (reference % 4294967296).toNat &&& 0x00FFFFFF) &&& 0x00FFFFFF).toNat : ℤ) =
      reference % 16777216 := by
  have hmask : ∀ n : ℕ, n &&& 16777215 = n % 16777216 := fun n => Nat.and_two_pow_sub_one_eq_mod n 24
  have hlit : (0x00FFFFFF : UInt32).toNat = 16777215 := rfl
  rw [UInt32.toNat_and, UInt32.toNat_and, UInt32.toNat_ofNat', hlit, hmask, hmask]
  omega

/-- Status by status, a returned packet names the numbers of the window and flags exactly those
which have an arrival. -/
theorem preview_statuses (g : Generator) {senderSsrc : UInt32} {maximumPacketSize : ℕ}
    {feedback : BuiltRtcpTransportFeedback}
    (h : g.previewFeedback senderSsrc maximumPacketSize = .ok (some feedback)) :
    ∃ parsed, parseRtcpTransportFeedback feedback.packet = .ok parsed ∧
      ∀ i (hi : i < parsed.statuses.length),
        ((parsed.statuses[i].sequenceNumber.toNat : ℤ) =
          (feedback.beginExtendedSequence + i) % 65536) ∧
        (parsed.statuses[i].received = true ↔
          feedback.beginExtendedSequence + i ∈ g.arrivals) := by
  obtain ⟨newest, first, p, ticks, -, -, hp, -, hcount, -, -, hbase, -, -, -, hpacket⟩ :=
    Generator.previewFeedback_eq_some h
  refine ⟨_, hpacket ▸ parse_feedbackPacketOf _ _ _ _ _ ticks hp.fits
    (by simp only [maximumParsedStatusesPerFeedback]; omega), ?_⟩
  intro i hi
  rw [statusesFrom_getElem _ _ hi]
  rw [statusesFrom_length] at hi
  exact ⟨by rw [hbase]; exact sequence_word _ i, hp.reported i hi⟩

/-- The packet fits, parses, carries the fields of the returned record, names each number of the
window with its received flag, and dates each received packet within half a tick. -/
theorem preview_packet_agrees (g : Generator) {senderSsrc : UInt32} {maximumPacketSize : ℕ}
    {feedback : BuiltRtcpTransportFeedback}
    (h : g.previewFeedback senderSsrc maximumPacketSize = .ok (some feedback)) :
    feedback.packet.length ≤ maximumPacketSize ∧
    ∃ parsed, parseRtcpTransportFeedback feedback.packet = .ok parsed ∧
      parsed.senderSsrc = senderSsrc ∧
      parsed.mediaSsrc = feedback.mediaSsrc ∧
      parsed.baseSequenceNumber = feedback.baseSequenceNumber ∧
      parsed.packetStatusCount = feedback.packetStatusCount ∧
      parsed.feedbackPacketCount = feedback.feedbackPacketCount ∧
      parsed.statuses.length = feedback.packetStatusCount.toNat ∧
      (∀ i (hi : i < parsed.statuses.length),
        ((parsed.statuses[i].sequenceNumber.toNat : ℤ) =
          (feedback.beginExtendedSequence + i) % 65536) ∧
        (parsed.statuses[i].received = true ↔
          feedback.beginExtendedSequence + i ∈ g.arrivals)) ∧
      ∃ first reference,
        g.arrivals.lowerBound feedback.beginExtendedSequence = some first ∧
        reference = floorReferenceTime (arrivalTimeMicroseconds first.2.arrivalTime) ∧
        (parsed.referenceTime.toNat : ℤ) = reference % 16777216 ∧
        ∀ i < parsed.statuses.length, ∀ record,
          g.arrivals.find? (feedback.beginExtendedSequence + i) = some record →
          |64000 * reference + 250 * deltaSum (parsed.statuses.take (i + 1)) -
            arrivalTimeMicroseconds record.arrivalTime| ≤ 125 ∧
          |1000 * (64000 * reference + 250 * deltaSum (parsed.statuses.take (i + 1))) -
            record.arrivalTime| < 126000 := by
  obtain ⟨parsed, hparsed, hstatus⟩ := preview_statuses g h
  obtain ⟨newest, first, p, ticks, -, hfirst, hp, hsome, hcount, -, -, hbase, hstatuses, hmedia,
    hfeedback, hpacket⟩ := Generator.previewFeedback_eq_some h
  have hparse := hpacket ▸ parse_feedbackPacketOf senderSsrc g.mediaSsrc
    feedback.baseSequenceNumber (UInt32.ofNat (floorReferenceTime
      (arrivalTimeMicroseconds first.2.arrivalTime) % 4294967296).toNat &&& 0x00FFFFFF)
    g.feedbackPacketCount ticks hp.fits (by simp only [maximumParsedStatusesPerFeedback]; omega)
  have hsize : encodedPacketSize (ticks.map statusDeltaSize) ≤ maximumPacketSize := by
    rcases hp.size with rfl | hle
    · simp at hsome
    · rwa [hp.deltaSizes] at hle
  obtain rfl := Except.ok.inj (hparsed.symm.trans hparse)
  refine ⟨?_, _, hparsed, rfl, hmedia.symm, rfl, hstatuses.symm, hfeedback.symm, ?_, hstatus,
    first, _, hfirst, rfl, reference_word _, ?_⟩
  · rw [hpacket, feedbackPacketOf_length]
    exact hsize
  · simp only [statusesFrom_length, hstatuses, UInt16.toNat_ofNat']
    omega
  · intro i hi record hrecord
    simp only [statusesFrom_length] at hi
    have hnear := hp.near i hi record hrecord
    have hmicro := arrivalTimeMicroseconds_near record.arrivalTime
    simp only [deltaSum, statusesFrom_take, statusesFrom_deltas]
    rw [abs_le] at hnear
    rw [abs_lt] at hmicro
    rw [abs_le, abs_lt]
    omega

/-- Two packets of one burst, the second sent arriving first, between two ticks of the
microsecond clock. -/
def reorderedBurst : Generator :=
  ((({} : Generator).observe 1 125500 7).1.observe 0 250000 7).1

def reorderedBurstFeedback : BuiltRtcpTransportFeedback where
  packet := [175, 205, 0, 6, 0, 0, 0, 9, 0, 0, 0, 7, 0, 0, 0, 2, 0, 0, 0, 0,
    216, 0, 1, 255, 255, 0, 0, 3]
  baseSequenceNumber := 0
  packetStatusCount := 2
  mediaSsrc := 7
  feedbackPacketCount := 0
  receivedPacketCount := 2
  lostPacketCount := 0
  beginExtendedSequence := 0
  endExtendedSequence := 1

theorem preview_packet_agrees_reorderedBurst :
    reorderedBurst.previewFeedback 9 defaultPacketSize = .ok (some reorderedBurstFeedback) ∧
      reorderedBurstFeedback.packet.length ≤ defaultPacketSize := by
  have h : reorderedBurst.previewFeedback 9 defaultPacketSize =
      .ok (some reorderedBurstFeedback) := by decide +kernel
  exact ⟨h, (preview_packet_agrees reorderedBurst h).1⟩

/-- Against the nanosecond clock a received packet can be dated more than half a tick away. -/
theorem preview_not_within_half_tick_of_clock :
    ∃ parsed record,
      reorderedBurst.previewFeedback 9 defaultPacketSize = .ok (some reorderedBurstFeedback) ∧
      parseRtcpTransportFeedback reorderedBurstFeedback.packet = .ok parsed ∧
      parsed.referenceTime = 0 ∧ reorderedBurst.arrivals.find? 1 = some record ∧
      ¬ |1000 * (64000 * 0 + 250 * deltaSum (parsed.statuses.take 2)) - record.arrivalTime| ≤
        125000 :=
  ⟨⟨9, 7, 0, 2, 0, 0, [⟨0, true, some 1⟩, ⟨1, true, some (-1)⟩]⟩, ⟨125500⟩,
    by decide +kernel, by decide +kernel, rfl, by decide, by decide⟩

end SimpleWebrtc.TransportFeedbackGenerator
