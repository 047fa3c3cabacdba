import SimpleWebrtc.TransportFeedbackCodec
import SimpleWebrtc.Library.SequenceSpace
import SimpleWebrtc.Library.Runs

/-!
# The send history of the feedback receiver

`transport_feedback_send_history` keeps the packets which were sent with
transport-wide sequence numbers until they are too old or too many. Extended
numbers count up from zero, so the history is a contiguous piece of them, and
a sixteen-bit number names at most one record while the history is no longer
than half the sequence space.
-/
namespace SimpleWebrtc.TransportFeedbackHistory
open Library Library.SequenceSpace TransportFeedbackCodec

structure SentPacket where
  packetSize : ℕ
  retransmission : Bool
  sentAt : ℤ
deriving Repr, DecidableEq, Inhabited

structure SentRecord where
  extendedSequenceNumber : ℕ
  packet : SentPacket
deriving Repr, DecidableEq, Inhabited

structure SendObservation where
  packetStatusCount : ℕ := 0
  lookupHit : ℕ := 0
  lookupMiss : ℕ := 0
  received : ℕ := 0
  notReceived : ℕ := 0
  receivedBytes : ℕ := 0
  notReceivedBytes : ℕ := 0
  receivedRetransmissions : ℕ := 0
  notReceivedRetransmissions : ℕ := 0
  maximumFeedbackDelayMs : ℕ := 0
deriving Repr, DecidableEq

structure SendHistorySnapshot where
  sentPackets : ℕ := 0
  sentBytes : ℕ := 0
  sentRetransmissions : ℕ := 0
  sentRetransmissionBytes : ℕ := 0
  feedbackPackets : ℕ := 0
  feedbackStatuses : ℕ := 0
  lookupHit : ℕ := 0
  lookupMiss : ℕ := 0
  received : ℕ := 0
  notReceived : ℕ := 0
  receivedBytes : ℕ := 0
  notReceivedBytes : ℕ := 0
  receivedRetransmissions : ℕ := 0
  notReceivedRetransmissions : ℕ := 0
  feedbackDuplicates : ℕ := 0
  feedbackGaps : ℕ := 0
  feedbackReordered : ℕ := 0
  evictedAge : ℕ := 0
  evictedCapacity : ℕ := 0
  maximumFeedbackDelayMs : ℕ := 0
deriving Repr, DecidableEq

def sequenceHalfRange : ℤ := 32768

structure SendHistory where
  maximumHistoryAge : ℤ
  maximumHistoryPackets : ℕ
  nextExtendedSequence : ℕ := 0
  history : List SentRecord := []
  lastFeedbackPacketCount : Option UInt8 := none
  stats : SendHistorySnapshot := {}
deriving Repr, DecidableEq

namespace SendHistory
variable (h : SendHistory)

/-- The age loop stops at the first record which is young enough, then the capacity loop drops
the excess. -/
def evictOld (now : ℤ) : SendHistory :=
  let young := h.history.dropWhile fun record =>
    decide (now - record.packet.sentAt > h.maximumHistoryAge * 1000000)
  let excess := young.length - h.maximumHistoryPackets
  { h with
    history := young.drop excess
    stats := { h.stats with
      evictedAge := h.stats.evictedAge + (h.history.length - young.length)
      evictedCapacity := h.stats.evictedCapacity + excess } }

def nextSequenceNumber : UInt16 := UInt16.ofNat h.nextExtendedSequence

def rememberSent (packet : SentPacket) : SendHistory :=
  evictOld { h with
    history := h.history ++ [⟨h.nextExtendedSequence, packet⟩]
    nextExtendedSequence := h.nextExtendedSequence + 1
    stats := { h.stats with
      sentPackets := h.stats.sentPackets + 1
      sentBytes := h.stats.sentBytes + packet.packetSize
      sentRetransmissions := h.stats.sentRetransmissions + (if packet.retransmission then 1 else 0)
      sentRetransmissionBytes := h.stats.sentRetransmissionBytes +
        (if packet.retransmission then packet.packetSize else 0) } } packet.sentAt

def frontExtendedSequence : ℕ := (h.history.head?.getD default).extendedSequenceNumber

def findExtendedSequence (sequenceNumber : UInt16) : Option ℕ :=
  match h.history.getLast? with
  | none => none
  | some back =>
      let newest : ℤ := back.extendedSequenceNumber
      let candidate := unwrap sequenceHalfRange newest sequenceNumber.toNat
      if candidate < 0 ∨ candidate < h.frontExtendedSequence ∨ candidate > newest then none
      else some candidate.toNat

def observeFeedbackPacketCount (feedbackPacketCount : UInt8) : SendHistory :=
  match h.lastFeedbackPacketCount with
  | none => { h with lastFeedbackPacketCount := some feedbackPacketCount }
  | some last =>
      let difference := (feedbackPacketCount - last).toNat
      if difference = 0 then
        { h with stats := { h.stats with
            feedbackDuplicates := h.stats.feedbackDuplicates + 1 } }
      else if difference < 128 then
        { h with
          lastFeedbackPacketCount := some feedbackPacketCount
          stats := { h.stats with feedbackGaps := h.stats.feedbackGaps + (difference - 1) } }
      else
        { h with stats := { h.stats with
            feedbackReordered := h.stats.feedbackReordered + 1 } }

/-- One status of a feedback packet against the history. -/
def observeStatus (now : ℤ) (observation : SendObservation)
    (status : RtcpTransportFeedbackStatus) : SendObservation :=
  match h.findExtendedSequence status.sequenceNumber with
  | none => { observation with lookupMiss := observation.lookupMiss + 1 }
  | some extended =>
      let packet := (h.history.getD (extended - h.frontExtendedSequence) default).packet
      let delayMs := if now ≥ packet.sentAt then ((now - packet.sentAt).tdiv 1000000).toNat else 0
      let retransmissions := if packet.retransmission then 1 else 0
      let observation := { observation with
        lookupHit := observation.lookupHit + 1
        maximumFeedbackDelayMs := max observation.maximumFeedbackDelayMs delayMs }
      if status.received then
        { observation with
          received := observation.received + 1
          receivedBytes := observation.receivedBytes + packet.packetSize
          receivedRetransmissions := observation.receivedRetransmissions + retransmissions }
      else
        { observation with
          notReceived := observation.notReceived + 1
          notReceivedBytes := observation.notReceivedBytes + packet.packetSize
          notReceivedRetransmissions :=
            observation.notReceivedRetransmissions + retransmissions }

def observe (feedback : ParsedRtcpTransportFeedback) (now : ℤ) : SendHistory × SendObservation :=
  let h := (h.evictOld now).observeFeedbackPacketCount feedback.feedbackPacketCount
  let o := feedback.statuses.foldl (h.observeStatus now)
    { packetStatusCount := feedback.statuses.length }
  ({ h with stats := { h.stats with
      feedbackPackets := h.stats.feedbackPackets + 1
      feedbackStatuses := h.stats.feedbackStatuses + feedback.statuses.length
      lookupHit := h.stats.lookupHit + o.lookupHit
      lookupMiss := h.stats.lookupMiss + o.lookupMiss
      received := h.stats.received + o.received
      notReceived := h.stats.notReceived + o.notReceived
      receivedBytes := h.stats.receivedBytes + o.receivedBytes
      notReceivedBytes := h.stats.notReceivedBytes + o.notReceivedBytes
      receivedRetransmissions := h.stats.receivedRetransmissions + o.receivedRetransmissions
      notReceivedRetransmissions :=
        h.stats.notReceivedRetransmissions + o.notReceivedRetransmissions
      maximumFeedbackDelayMs := max h.stats.maximumFeedbackDelayMs o.maximumFeedbackDelayMs } }, o)

def expire (now : ℤ) : SendHistory := h.evictOld now

end SendHistory

inductive HistoryEvent where
  | rememberSent (packet : SentPacket)
  | observe (feedback : ParsedRtcpTransportFeedback) (now : ℤ)
  | expire (now : ℤ)
deriving Repr, DecidableEq

namespace SendHistory

def step (h : SendHistory) : HistoryEvent → Option SendHistory
  | .rememberSent packet => some (h.rememberSent packet)
  | .observe feedback now => some (h.observe feedback now).1
  | .expire now => some (h.expire now)

/-- A new history which holds at most half the sequence space. -/
def initial (h : SendHistory) : Prop :=
  ∃ maximumHistoryAge maximumHistoryPackets, maximumHistoryPackets ≤ 32768 ∧
    h = { maximumHistoryAge, maximumHistoryPackets }

def system : EventSystem SendHistory HistoryEvent := .ofStep initial step

section Contiguous

/-- The records carry consecutive numbers which end just below the next one. -/
def Contiguous (h : SendHistory) : Prop :=
  ∀ i (hi : i < h.history.length),
    h.history[i].extendedSequenceNumber + h.history.length = h.nextExtendedSequence + i

variable {h : SendHistory}

/-- Eviction drops records from the front, counts each of them once and leaves the limit. -/
theorem evictOld_drop (h : SendHistory) (now : ℤ) :
    ∃ dropped ≤ h.history.length, (h.evictOld now).history = h.history.drop dropped ∧
      (h.evictOld now).stats.evictedAge + (h.evictOld now).stats.evictedCapacity =
        h.stats.evictedAge + h.stats.evictedCapacity + dropped ∧
      (h.evictOld now).history.length ≤ h.maximumHistoryPackets := by
  have hyoung : ∀ old : SentRecord → Bool,
      h.history.dropWhile old = h.history.drop (h.history.takeWhile old).length := by
    intro old
    have hsplit := @List.takeWhile_append_dropWhile _ old h.history
    have hdrop := congrArg (List.drop (h.history.takeWhile old).length) hsplit
    rwa [List.drop_left] at hdrop
  have hle : ∀ old : SentRecord → Bool, (h.history.takeWhile old).length ≤ h.history.length :=
    fun old => (List.takeWhile_sublist old).length_le
  simp only [evictOld, hyoung, List.drop_drop, List.length_drop]
  refine ⟨_, ?_, rfl, ?_, ?_⟩
  · have := hle fun record => decide (now - record.packet.sentAt > h.maximumHistoryAge * 1000000)
    omega
  · have := hle fun record => decide (now - record.packet.sentAt > h.maximumHistoryAge * 1000000)
    omega
  · omega

theorem Contiguous.drop (hc : h.Contiguous) {h' : SendHistory} {dropped : ℕ}
    (hhistory : h'.history = h.history.drop dropped)
    (hnext : h'.nextExtendedSequence = h.nextExtendedSequence) : h'.Contiguous := by
  intro i hi
  have hlen : h'.history.length = h.history.length - dropped := by rw [hhistory, List.length_drop]
  have hbound : dropped + i < h.history.length := by omega
  have hget : h'.history[i] = h.history[dropped + i] := by
    simp only [hhistory, List.getElem_drop]
  have := hc (dropped + i) hbound
  rw [hget, hnext, hlen]
  omega

theorem Contiguous.front (hc : h.Contiguous) (hpos : 0 < h.history.length) :
    h.frontExtendedSequence + h.history.length = h.nextExtendedSequence := by
  have hfront : h.frontExtendedSequence = h.history[0].extendedSequenceNumber := by
    rw [frontExtendedSequence, List.head?_eq_getElem?, List.getElem?_eq_getElem hpos]
    rfl
  rw [hfront, hc 0 hpos, Nat.add_zero]

/-- The record of a number of the history is where `observe` indexes. -/
theorem Contiguous.getElem?_sub_front (hc : h.Contiguous) {extended : ℕ}
    (hlo : h.frontExtendedSequence ≤ extended) (hhi : extended < h.nextExtendedSequence)
    (hpos : 0 < h.history.length) :
    ∃ record, h.history[extended - h.frontExtendedSequence]? = some record ∧
      record.extendedSequenceNumber = extended := by
  have hfront := hc.front hpos
  have hbound : extended - h.frontExtendedSequence < h.history.length := by omega
  refine ⟨_, List.getElem?_eq_getElem hbound, ?_⟩
  have := hc _ hbound
  omega

theorem Contiguous.mem_bounds (hc : h.Contiguous) {record : SentRecord} (hr : record ∈ h.history) :
    h.frontExtendedSequence ≤ record.extendedSequenceNumber ∧
      record.extendedSequenceNumber < h.nextExtendedSequence := by
  obtain ⟨i, hi, rfl⟩ := List.getElem_of_mem hr
  have hfront := hc.front (by omega)
  have := hc i hi
  omega

/-- A record is determined by its number. -/
theorem Contiguous.record_eq (hc : h.Contiguous) {r₁ r₂ : SentRecord} (h₁ : r₁ ∈ h.history)
    (h₂ : r₂ ∈ h.history) (heq : r₁.extendedSequenceNumber = r₂.extendedSequenceNumber) :
    r₁ = r₂ := by
  obtain ⟨i, hi, rfl⟩ := List.getElem_of_mem h₁
  obtain ⟨j, hj, rfl⟩ := List.getElem_of_mem h₂
  have hleft := hc i hi
  have hright := hc j hj
  obtain rfl : i = j := by omega
  rfl

end Contiguous

section Lookup
variable {h : SendHistory}

/-- With at most half the sequence space in the history, a lookup finds exactly the record whose
number ends in the given sixteen bits. -/
theorem findExtendedSequence_eq_some (hc : h.Contiguous) (hlen : h.history.length ≤ 32768)
    {sequenceNumber : UInt16} {extended : ℕ} :
    h.findExtendedSequence sequenceNumber = some extended ↔
      ∃ record ∈ h.history, record.extendedSequenceNumber = extended ∧
        extended % 65536 = sequenceNumber.toNat := by
  have hword := sequenceNumber.toNat_lt
  rw [findExtendedSequence]
  rcases hback : h.history.getLast? with _ | back
  · simp [List.getLast?_eq_none_iff.mp hback]
  have hpos : 0 < h.history.length := List.length_pos_of_mem (List.mem_of_getLast? hback)
  have hfront := hc.front hpos
  have hnewest : back.extendedSequenceNumber + 1 = h.nextExtendedSequence := by
    have hlast : h.history.length - 1 < h.history.length := by omega
    have hget : h.history[h.history.length - 1] = back := by
      rw [List.getLast?_eq_getElem?, List.getElem?_eq_getElem hlast] at hback
      exact Option.some.inj hback
    have := hc _ hlast
    rw [hget] at this
    omega
  have hmod : unwrap sequenceHalfRange back.extendedSequenceNumber sequenceNumber.toNat %
      (2 * 32768) = sequenceNumber.toNat :=
    unwrap_emod (by omega) (by omega : (sequenceNumber.toNat : ℤ) < 2 * 32768)
  have hnear : ∀ record ∈ h.history, record.extendedSequenceNumber % 65536 = sequenceNumber.toNat →
      unwrap sequenceHalfRange back.extendedSequenceNumber sequenceNumber.toNat =
        record.extendedSequenceNumber := by
    intro record hrecord hlow
    have hbounds := hc.mem_bounds hrecord
    apply unwrap_eq_of_near (by omega) (by omega : (sequenceNumber.toNat : ℤ) < 2 * 32768) (by omega)
    rw [abs_lt]
    omega
  simp only
  generalize unwrap sequenceHalfRange back.extendedSequenceNumber sequenceNumber.toNat = candidate
    at hmod hnear ⊢
  by_cases hout : candidate < 0 ∨ candidate < h.frontExtendedSequence ∨
      candidate > back.extendedSequenceNumber
  · rw [if_pos hout]
    simp only [reduceCtorEq, false_iff]
    rintro ⟨record, hrecord, rfl, hlow⟩
    have hbounds := hc.mem_bounds hrecord
    have := hnear record hrecord hlow
    omega
  · rw [if_neg hout, Option.some.injEq]
    constructor
    · rintro rfl
      have hlo : h.frontExtendedSequence ≤ candidate.toNat := by omega
      obtain ⟨record, hrecord, hextended⟩ := hc.getElem?_sub_front hlo (by omega) hpos
      exact ⟨record, List.mem_of_getElem? hrecord, hextended, by omega⟩
    · rintro ⟨record, hrecord, rfl, hlow⟩
      rw [hnear record hrecord hlow]
      rfl

end Lookup

section Conservation
variable {h : SendHistory}

/-- Every sent packet is in the history or counted as evicted, every status is a hit or a miss,
and every hit is received or not. -/
structure Conserved (h : SendHistory) : Prop where
  sent : h.stats.sentPackets =
    h.history.length + h.stats.evictedAge + h.stats.evictedCapacity
  statuses : h.stats.feedbackStatuses = h.stats.lookupHit + h.stats.lookupMiss
  hits : h.stats.lookupHit = h.stats.received + h.stats.notReceived

theorem observeStatus_counts (h : SendHistory) (now : ℤ) (o : SendObservation)
    (status : RtcpTransportFeedbackStatus) :
    (h.observeStatus now o status).lookupHit + (h.observeStatus now o status).lookupMiss =
        o.lookupHit + o.lookupMiss + 1 ∧
      (h.observeStatus now o status).lookupHit + (o.received + o.notReceived) =
        o.lookupHit + ((h.observeStatus now o status).received +
          (h.observeStatus now o status).notReceived) := by
  simp only [observeStatus]
  split
  · exact ⟨rfl, rfl⟩
  · split_ifs <;> simp only <;> omega

theorem foldl_observeStatus_counts (h : SendHistory) (now : ℤ)
    (statuses : List RtcpTransportFeedbackStatus) (o : SendObservation) :
    (statuses.foldl (h.observeStatus now) o).lookupHit +
        (statuses.foldl (h.observeStatus now) o).lookupMiss =
        o.lookupHit + o.lookupMiss + statuses.length ∧
      (statuses.foldl (h.observeStatus now) o).lookupHit + (o.received + o.notReceived) =
        o.lookupHit + ((statuses.foldl (h.observeStatus now) o).received +
          (statuses.foldl (h.observeStatus now) o).notReceived) := by
  induction statuses generalizing o with
  | nil => exact ⟨rfl, rfl⟩
  | cons status statuses ih =>
      obtain ⟨hstep, hhits⟩ := h.observeStatus_counts now o status
      obtain ⟨hrest, hresthits⟩ := ih (h.observeStatus now o status)
      rw [List.foldl_cons, List.length_cons]
      omega

theorem Conserved.evictOld (hc : h.Conserved) (now : ℤ) : (h.evictOld now).Conserved := by
  obtain ⟨dropped, hle, hhistory, hcounts, -⟩ := h.evictOld_drop now
  refine ⟨?_, hc.statuses, hc.hits⟩
  have hsent : (h.evictOld now).stats.sentPackets = h.stats.sentPackets := rfl
  have hbefore := hc.sent
  rw [hsent, hhistory, List.length_drop]
  omega

/-- The feedback counter only touches its own statistics. -/
theorem observeFeedbackPacketCount_frame (h : SendHistory) (count : UInt8) :
    (h.observeFeedbackPacketCount count).history = h.history ∧
      (h.observeFeedbackPacketCount count).nextExtendedSequence = h.nextExtendedSequence ∧
      (h.observeFeedbackPacketCount count).maximumHistoryPackets = h.maximumHistoryPackets ∧
      (h.Conserved → (h.observeFeedbackPacketCount count).Conserved) := by
  rw [observeFeedbackPacketCount]
  split
  · exact ⟨rfl, rfl, rfl, fun hc => ⟨hc.sent, hc.statuses, hc.hits⟩⟩
  · simp only
    split_ifs <;> exact ⟨rfl, rfl, rfl, fun hc => ⟨hc.sent, hc.statuses, hc.hits⟩⟩

end Conservation

section Runs
variable {h : SendHistory}

structure HistoryInvariant (h : SendHistory) : Prop where
  limit : h.maximumHistoryPackets ≤ 32768
  length : h.history.length ≤ h.maximumHistoryPackets
  contiguous : h.Contiguous
  conserved : h.Conserved

theorem HistoryInvariant.expire (hi : HistoryInvariant h) (now : ℤ) :
    HistoryInvariant (h.evictOld now) := by
  obtain ⟨dropped, hle, hhistory, -, hlimit⟩ := h.evictOld_drop now
  exact ⟨hi.limit, hlimit, hi.contiguous.drop hhistory rfl, hi.conserved.evictOld now⟩

theorem HistoryInvariant.rememberSent (hi : HistoryInvariant h) (packet : SentPacket) :
    HistoryInvariant (h.rememberSent packet) := by
  rw [SendHistory.rememberSent]
  generalize hpushed : ({ h with
    history := h.history ++ [⟨h.nextExtendedSequence, packet⟩]
    nextExtendedSequence := h.nextExtendedSequence + 1
    stats := { h.stats with
      sentPackets := h.stats.sentPackets + 1
      sentBytes := h.stats.sentBytes + packet.packetSize
      sentRetransmissions := h.stats.sentRetransmissions + (if packet.retransmission then 1 else 0)
      sentRetransmissionBytes := h.stats.sentRetransmissionBytes +
        (if packet.retransmission then packet.packetSize else 0) } } : SendHistory) = pushed
  have hhistory : pushed.history = h.history ++ [⟨h.nextExtendedSequence, packet⟩] := by
    rw [← hpushed]
  have hcontiguous : pushed.Contiguous := by
    have hnext : pushed.nextExtendedSequence = h.nextExtendedSequence + 1 := by rw [← hpushed]
    have hlength : pushed.history.length = h.history.length + 1 := by rw [hhistory]; simp
    intro i hbound
    rcases Nat.lt_or_ge i h.history.length with hold | hnew
    · have hget : pushed.history[i] = h.history[i] := by
        simp only [hhistory, List.getElem_append_left hold]
      have := hi.contiguous i hold
      rw [hget, hlength, hnext]
      omega
    · obtain rfl : i = h.history.length := by omega
      have hget : pushed.history[h.history.length] = ⟨h.nextExtendedSequence, packet⟩ := by
        simp [hhistory]
      rw [hget, hlength, hnext]
      simp only
      omega
  have hconserved : pushed.Conserved := by
    have hsent := hi.conserved.sent
    rw [← hpushed]
    refine ⟨?_, hi.conserved.statuses, hi.conserved.hits⟩
    simp only [List.length_append, List.length_singleton]
    omega
  have hmax : pushed.maximumHistoryPackets = h.maximumHistoryPackets := by rw [← hpushed]
  obtain ⟨dropped, hle, hdrop, -, hlimit⟩ := pushed.evictOld_drop packet.sentAt
  exact ⟨by rw [evictOld, hmax]; exact hi.limit, by rw [evictOld] at hlimit ⊢; exact hlimit,
    hcontiguous.drop hdrop rfl, hconserved.evictOld packet.sentAt⟩

theorem HistoryInvariant.observe (hi : HistoryInvariant h)
    (feedback : ParsedRtcpTransportFeedback) (now : ℤ) :
    HistoryInvariant (h.observe feedback now).1 := by
  have hevicted := hi.expire now
  obtain ⟨hhistory, hnext, hmax, hconserved⟩ :=
    (h.evictOld now).observeFeedbackPacketCount_frame feedback.feedbackPacketCount
  have hc := hconserved hevicted.conserved
  obtain ⟨hstatuses, hhits⟩ := foldl_observeStatus_counts
    ((h.evictOld now).observeFeedbackPacketCount feedback.feedbackPacketCount) now
    feedback.statuses { packetStatusCount := feedback.statuses.length }
  simp only [SendHistory.observe]
  refine ⟨?_, ?_, ?_, ⟨hc.sent, ?_, ?_⟩⟩
  · rw [hmax]
    exact hevicted.limit
  · rw [hhistory, hmax]
    exact hevicted.length
  · exact hevicted.contiguous.drop (hhistory.trans (List.drop_zero).symm) hnext
  · have := hc.statuses
    simp only at hstatuses ⊢
    omega
  · have := hc.hits
    simp only at hhits ⊢
    omega

theorem HistoryInvariant.run {events : List HistoryEvent} (hrun : system.Run events h) :
    HistoryInvariant h := by
  refine hrun.invariant ?_ ?_
  · rintro s ⟨age, packets, hpackets, rfl⟩
    exact ⟨hpackets, Nat.zero_le _, fun i hi => absurd hi (Nat.not_lt_zero i), ⟨rfl, rfl, rfl⟩⟩
  · intro s event s' hs hstep
    cases event with
    | rememberSent packet =>
        obtain rfl := Option.some.inj hstep
        exact hs.rememberSent packet
    | observe feedback now =>
        obtain rfl := Option.some.inj hstep
        exact hs.observe feedback now
    | expire now =>
        obtain rfl := Option.some.inj hstep
        exact hs.expire now

/-- A packet is sent, reported lost and evicted. -/
def sentReportedEvicted : List HistoryEvent :=
  [.rememberSent ⟨100, false, 0⟩, .observe ⟨1, 2, 0, 1, 0, 0, [⟨0, false, none⟩]⟩ 5,
    .expire 3000000]

end Runs

end SendHistory
end SimpleWebrtc.TransportFeedbackHistory
