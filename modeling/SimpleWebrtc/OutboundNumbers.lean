import SimpleWebrtc.OutboundTraces

/-!
# The numbers of a transport

Packets of the publisher and packets which are sent again share one row of
transport-wide numbers. The history is the log of everything that was numbered,
without a piece at its front, so that feedback is counted for the packets which
carried the numbers it names.
-/
namespace SimpleWebrtc.TransportFeedbackHistory
open TransportFeedbackCodec

namespace SendHistory
variable {now now' : ℤ} {log : List SentPacket} {h : SendHistory}

/-- Too old, or too many packets follow it. -/
def Gone (now : ℤ) (log : List SentPacket) (h : SendHistory) (i : ℕ) (packet : SentPacket) : Prop :=
  h.maximumHistoryAge * 1000000 < now - packet.sentAt ∨ i + h.maximumHistoryPackets < log.length

/-- The history of a log has lost a prefix of it, in which everything is gone. -/
structure Retains (now : ℤ) (log : List SentPacket) (h : SendHistory) : Prop where
  next : h.nextExtendedSequence = log.length
  suffix : ∃ dropped ≤ log.length, h.history = (log.mapIdx SentRecord.mk).drop dropped ∧
    ∀ i packet, log[i]? = some packet → i < dropped → h.Gone now log i packet

/-- What eviction drops is too old, or has too many records behind it. -/
theorem evictOld_gone (h : SendHistory) (now : ℤ) :
    ∃ dropped ≤ h.history.length, (h.evictOld now).history = h.history.drop dropped ∧
      ∀ i record, h.history[i]? = some record → i < dropped →
        h.maximumHistoryAge * 1000000 < now - record.packet.sentAt ∨
          i + h.maximumHistoryPackets < h.history.length := by
  let old (record : SentRecord) : Bool :=
    decide (now - record.packet.sentAt > h.maximumHistoryAge * 1000000)
  have hsplit : h.history.takeWhile old ++ h.history.dropWhile old = h.history :=
    List.takeWhile_append_dropWhile
  have hlength : (h.history.takeWhile old).length + (h.history.dropWhile old).length =
      h.history.length := by
    rw [← List.length_append, hsplit]
  have hyoung : h.history.dropWhile old = h.history.drop (h.history.takeWhile old).length := by
    have hdrop := congrArg (List.drop (h.history.takeWhile old).length) hsplit
    rwa [List.drop_left] at hdrop
  refine ⟨(h.history.takeWhile old).length +
    ((h.history.dropWhile old).length - h.maximumHistoryPackets), by omega, ?_, ?_⟩
  · change (h.history.dropWhile old).drop _ = _
    rw [← List.drop_drop, ← hyoung]
  · intro i record hrecord hlt
    rcases Nat.lt_or_ge i (h.history.takeWhile old).length with hi | hi
    · have hget : (h.history.takeWhile old)[i]? = some record := by
        rw [← hrecord, ← hsplit, List.getElem?_append_left hi, hsplit]
      have hold := List.mem_takeWhile_imp (List.mem_of_getElem? hget)
      exact .inl (of_decide_eq_true hold)
    · exact .inr (by omega)

theorem observe_limits (h : SendHistory) (feedback : ParsedRtcpTransportFeedback) (now : ℤ) :
    (h.observe feedback now).1.maximumHistoryAge = h.maximumHistoryAge ∧
      (h.observe feedback now).1.maximumHistoryPackets = h.maximumHistoryPackets := by
  unfold SendHistory.observe observeFeedbackPacketCount
  split
  · exact ⟨rfl, rfl⟩
  · simp only
    split_ifs <;> exact ⟨rfl, rfl⟩

namespace Retains

theorem later (hr : Retains now log h) (hlater : now ≤ now') : Retains now' log h := by
  obtain ⟨dropped, hle, hhistory, hgone⟩ := hr.suffix
  exact ⟨hr.next, dropped, hle, hhistory, fun i packet hpacket hlt =>
    (hgone i packet hpacket hlt).imp_left fun hold => by omega⟩

theorem evictOld (hr : Retains now log h) : Retains now log (h.evictOld now) := by
  obtain ⟨dropped, hle, hhistory, hgone⟩ := hr.suffix
  obtain ⟨more, hmore, hevicted, hlost⟩ := h.evictOld_gone now
  have hlength : h.history.length = log.length - dropped := by
    rw [hhistory, List.length_drop, List.length_mapIdx]
  refine ⟨hr.next, dropped + more, by omega, ?_, fun i packet hpacket hlt => ?_⟩
  · rw [hevicted, hhistory, List.drop_drop]
  · rcases Nat.lt_or_ge i dropped with hi | hi
    · exact hgone i packet hpacket hi
    · have hrecord : h.history[i - dropped]? = some ⟨i, packet⟩ := by
        rw [hhistory, List.getElem?_drop, Nat.add_sub_cancel' hi, List.getElem?_mapIdx, hpacket]
        rfl
      rcases hlost _ _ hrecord (by omega) with hold | hmany
      · exact .inl hold
      · refine .inr ?_
        change i + h.maximumHistoryPackets < log.length
        omega

theorem rememberSent (hr : Retains now log h) {packet : SentPacket} (hnow : packet.sentAt = now) :
    Retains now (log ++ [packet]) (h.rememberSent packet) := by
  have hpushed : ∀ stats : SendHistorySnapshot, Retains now (log ++ [packet]) { h with
      history := h.history ++ [⟨h.nextExtendedSequence, packet⟩]
      nextExtendedSequence := h.nextExtendedSequence + 1
      stats } := by
    obtain ⟨dropped, hle, hhistory, hgone⟩ := hr.suffix
    intro stats
    refine ⟨?_, dropped, ?_, ?_, fun i sent hsent hlt => ?_⟩
    · simp only [hr.next, List.length_append, List.length_singleton]
    · rw [List.length_append]
      omega
    · have hbound : dropped ≤ (log.mapIdx SentRecord.mk).length := by
        rwa [List.length_mapIdx]
      simp only
      rw [List.mapIdx_concat, List.drop_append_of_le_length hbound, hhistory, hr.next]
    · rw [List.getElem?_append_left (by omega)] at hsent
      refine (hgone i sent hsent hlt).imp_right fun hmany => ?_
      rw [List.length_append]
      exact Nat.lt_add_right _ hmany
  unfold SendHistory.rememberSent
  rw [hnow]
  exact (hpushed _).evictOld

theorem observe (hr : Retains now log h) (feedback : ParsedRtcpTransportFeedback) :
    Retains now log (h.observe feedback now).1 := by
  have hevicted := hr.evictOld
  obtain ⟨hhistory, hnext, -, -⟩ :=
    (h.evictOld now).observeFeedbackPacketCount_frame feedback.feedbackPacketCount
  obtain ⟨hage, hpackets⟩ := h.observe_limits feedback now
  obtain ⟨dropped, hle, hsuffix, hgone⟩ := hevicted.suffix
  refine ⟨hnext.trans hevicted.next, dropped, hle, hhistory.trans hsuffix,
    fun i packet hpacket hlt => ?_⟩
  unfold Gone
  rw [hage, hpackets]
  exact hgone i packet hpacket hlt

/-- The records of the history are entries of the log, under their indexes. -/
theorem getElem?_log (hr : Retains now log h) {record : SentRecord} (hrecord : record ∈ h.history) :
    log[record.extendedSequenceNumber]? = some record.packet := by
  obtain ⟨dropped, -, hhistory, -⟩ := hr.suffix
  rw [hhistory] at hrecord
  obtain ⟨i, hi⟩ := List.getElem?_of_mem (List.mem_of_mem_drop hrecord)
  rw [List.getElem?_mapIdx] at hi
  obtain ⟨packet, hpacket, rfl⟩ := Option.map_eq_some_iff.mp hi
  exact hpacket

/-- What is not gone is in the history. -/
theorem mem_history (hr : Retains now log h) {i : ℕ} {packet : SentPacket}
    (hpacket : log[i]? = some packet) (hgone : ¬h.Gone now log i packet) :
    ⟨i, packet⟩ ∈ h.history := by
  obtain ⟨dropped, -, hhistory, hlost⟩ := hr.suffix
  have hi : dropped ≤ i := Nat.le_of_not_lt fun hlt => hgone (hlost i packet hpacket hlt)
  refine List.mem_of_getElem? (i := i - dropped) ?_
  rw [hhistory, List.getElem?_drop, Nat.add_sub_cancel' hi, List.getElem?_mapIdx, hpacket]
  rfl

end Retains
end SendHistory
end SimpleWebrtc.TransportFeedbackHistory

namespace SimpleWebrtc.WhepOutbound
open Library MediaFanout WhepSession WhepMedia TransportFeedbackHistory

/-- The number a datagram carries, with what the history keeps of it. -/
def SentDatagram.stamp (d : SentDatagram) : Option (UInt16 × SentPacket) :=
  d.content.rtpFields.bind fun fields =>
    fields.transportSequenceNumber.map fun number =>
      (number,
        { packetSize := d.datagram.length
          retransmission := fields.retransmission
          sentAt := d.sentAt })

/-- The datagrams with a transport-wide number, in the order they were sent. -/
def stamped (sent : List SentDatagram) : List (UInt16 × SentPacket) :=
  sent.filterMap SentDatagram.stamp

theorem stamped_concat (sent : List SentDatagram) (d : SentDatagram) :
    stamped (sent ++ [d]) = stamped sent ++ d.stamp.toList :=
  filterMap_concat _ _ _

/-- The numbers count up from zero, and the history is one of what was sent under them. -/
structure Numbered (now : ℤ) (sent : List SentDatagram) (history : SendHistory) : Prop where
  limits : history.maximumHistoryAge = 2000 ∧ history.maximumHistoryPackets = 32768
  invariant : history.HistoryInvariant
  numbers : (stamped sent).map Prod.fst =
    (List.range (stamped sent).length).map fun i => UInt16.ofNat i
  retains : history.Retains now ((stamped sent).map Prod.snd)

namespace Numbered
variable {now now' : ℤ} {sent : List SentDatagram} {history history' : SendHistory}

theorem later (h : Numbered now sent history) (hlater : now ≤ now') : Numbered now' sent history :=
  ⟨h.limits, h.invariant, h.numbers, h.retains.later hlater⟩

theorem keep (h : Numbered now sent history) (hkept : HistoryKept now history history') :
    Numbered now sent history' := by
  cases hkept with
  | same => exact h
  | observes feedback =>
      obtain ⟨hage, hpackets⟩ := history.observe_limits feedback now
      exact ⟨⟨hage.trans h.limits.1, hpackets.trans h.limits.2⟩, h.invariant.observe feedback now,
        h.numbers, h.retains.observe feedback⟩
  | expires => exact ⟨h.limits, h.invariant.expire now, h.numbers, h.retains.evictOld⟩

/-- A datagram without a number. -/
theorem unstamped (h : Numbered now sent history) {d : SentDatagram} (hd : d.stamp = none) :
    Numbered now (sent ++ [d]) history := by
  have hstamped : stamped (sent ++ [d]) = stamped sent := by
    rw [stamped_concat, hd, Option.toList_none, List.append_nil]
  exact ⟨h.limits, h.invariant, by rw [hstamped]; exact h.numbers,
    by rw [hstamped]; exact h.retains⟩

/-- A datagram under the next number. -/
theorem stamps (h : Numbered now sent history) {d : SentDatagram} {packet : SentPacket}
    (hd : d.stamp = some (history.nextSequenceNumber, packet)) (hnow : packet.sentAt = now) :
    Numbered now (sent ++ [d]) (history.rememberSent packet) := by
  have hstamped : stamped (sent ++ [d]) =
      stamped sent ++ [(history.nextSequenceNumber, packet)] := by
    rw [stamped_concat, hd, Option.toList_some]
  have hnext : history.nextSequenceNumber = UInt16.ofNat (stamped sent).length := by
    rw [SendHistory.nextSequenceNumber, h.retains.next, List.length_map]
  refine ⟨h.limits, h.invariant.rememberSent packet, ?_, ?_⟩
  · rw [hstamped, List.map_append, h.numbers, List.length_append, List.length_singleton,
      List.range_succ, List.map_append, hnext]
    rfl
  · rw [hstamped, List.map_append]
    exact h.retains.rememberSent hnow

theorem forwards (h : Numbered now sent history) {d : SentDatagram} {fields : RtpFields}
    {t t' : OutboundTransport} (ht : t.history = history) (hd : Forwards now d fields t t') :
    Numbered now (sent ++ [d]) t'.history := by
  rw [hd.history, ht]
  cases hnumber : fields.transportSequenceNumber with
  | none =>
      refine h.unstamped ?_
      rw [SentDatagram.stamp, hd.said, Option.bind_some, hnumber]
      rfl
  | some number =>
      have hnext : number = history.nextSequenceNumber := ht ▸ hd.number number hnumber
      refine h.stamps ?_ rfl
      rw [SentDatagram.stamp, hd.said, Option.bind_some, hnumber, ← hnext, ← hd.sentAt]
      rfl

theorem number_eq (h : Numbered now sent history) {i : ℕ} {number : UInt16} {packet : SentPacket}
    (hi : (stamped sent)[i]? = some (number, packet)) : number = UInt16.ofNat i := by
  have hlt : i < (stamped sent).length := (List.getElem?_eq_some_iff.mp hi).1
  have hnumber := congrArg (fun numbers => numbers[i]?) h.numbers
  simp only [List.getElem?_map, hi, List.getElem?_range hlt, Option.map_some] at hnumber
  exact Option.some.inj hnumber

theorem toNat_number (h : Numbered now sent history) {i : ℕ} {number : UInt16}
    {packet : SentPacket} (hi : (stamped sent)[i]? = some (number, packet)) :
    number.toNat = i % 65536 := by
  rw [h.number_eq hi]
  exact UInt16.toNat_ofNat'

theorem history_length_le (h : Numbered now sent history) : history.history.length ≤ 32768 :=
  h.invariant.length.trans h.invariant.limit

/-- What a lookup finds is the newest packet which was sent under the number. -/
theorem found (h : Numbered now sent history) {number : UInt16} {extended : ℕ}
    (hfound : history.findExtendedSequence number = some extended) :
    ∃ packet, (stamped sent)[extended]? = some (number, packet) ∧
      history.history[extended - history.frontExtendedSequence]? = some ⟨extended, packet⟩ ∧
      ∀ i packet', (stamped sent)[i]? = some (number, packet') → i ≤ extended := by
  have hc := h.invariant.contiguous
  obtain ⟨record, hrecord, rfl, hmod⟩ :=
    (SendHistory.findExtendedSequence_eq_some hc h.history_length_le).mp hfound
  have hpos := List.length_pos_of_mem hrecord
  have hbounds := hc.mem_bounds hrecord
  have hentry : (stamped sent)[record.extendedSequenceNumber]? = some (number, record.packet) := by
    have hlog := h.retains.getElem?_log hrecord
    rw [List.getElem?_map] at hlog
    obtain ⟨⟨number', packet⟩, hentry, hpacket⟩ := Option.map_eq_some_iff.mp hlog
    have hnumber : number' = number := by
      apply UInt16.toNat_inj.mp
      rw [h.toNat_number hentry, hmod]
    rw [hentry, hnumber, ← hpacket]
  refine ⟨record.packet, hentry, ?_, fun i packet' hi => ?_⟩
  · obtain ⟨record', hindexed, hextended⟩ := hc.getElem?_sub_front hbounds.1 hbounds.2 hpos
    rw [hindexed, hc.record_eq (List.mem_of_getElem? hindexed) hrecord hextended]
  · have hlast : i < (stamped sent).length := (List.getElem?_eq_some_iff.mp hi).1
    have hnumber := h.toNat_number hi
    have hnext : history.nextExtendedSequence = (stamped sent).length := by
      rw [h.retains.next, List.length_map]
    have hfront := hc.front hpos
    have hlength := h.history_length_le
    omega

/-- A young packet among the last ones is found under its number. -/
theorem finds (h : Numbered now sent history) {i : ℕ} {number : UInt16} {packet : SentPacket}
    (hpacket : (stamped sent)[i]? = some (number, packet))
    (hyoung : now - packet.sentAt ≤ 2000 * 1000000) (hfew : (stamped sent).length ≤ i + 32768) :
    history.findExtendedSequence number = some i := by
  have hlog : ((stamped sent).map Prod.snd)[i]? = some packet := by
    rw [List.getElem?_map, hpacket]
    rfl
  have hkept : ¬history.Gone now ((stamped sent).map Prod.snd) i packet := by
    unfold SendHistory.Gone
    rw [h.limits.1, h.limits.2, List.length_map]
    omega
  exact (SendHistory.findExtendedSequence_eq_some h.invariant.contiguous h.history_length_le).mpr
    ⟨_, h.retains.mem_history hlog hkept, rfl, (h.toNat_number hpacket).symm⟩

end Numbered

theorem Numbered.run {events : List OutboundEvent} {w : Outbound}
    (h : Outbound.system.Run events w) : Numbered w.now w.sent w.transport.history := by
  refine @Outbound.run_kept (fun now sent t => Numbered now sent t.history) ?_ ?_ ?_ _ _ h
  · intro now streamId sessionId target
    exact ⟨⟨rfl, rfl⟩,
      ⟨le_rfl, Nat.zero_le _, fun i hi => absurd hi (Nat.not_lt_zero i), ⟨rfl, rfl, rfl⟩⟩, rfl,
      ⟨rfl, 0, le_rfl, rfl, fun _ _ _ hlt => absurd hlt (Nat.not_lt_zero _)⟩⟩
  · intro now now' sent t hlater hnumbered
    exact hnumbered.later hlater
  · intro now t more t' hemits sent hnumbered
    refine @Emits.kept now (fun sent t => Numbered now sent t.history) ?_ ?_ ?_ ?_ _ _ _ hemits _
      hnumbered
    · intro sent t t' _ hkept hnumbered
      exact hnumbered.keep hkept
    · intro sent t t' d fields hd hnumbered
      exact hnumbered.forwards rfl hd
    · intro sent t t' d ssrc sender timing hd hnumbered
      obtain ⟨compound, -, hcontent⟩ := hd.said
      rw [hd.history]
      exact hnumbered.unstamped (by rw [SentDatagram.stamp, hcontent]; rfl)
    · intro sent t t' d ssrc sender timing hd hnumbered
      obtain ⟨reason, compound, -, hcontent⟩ := hd.said
      rw [hd.history]
      exact hnumbered.unstamped (by rw [SentDatagram.stamp, hcontent]; rfl)

end SimpleWebrtc.WhepOutbound
