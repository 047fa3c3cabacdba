import SimpleWebrtc.ReceiverReports
import SimpleWebrtc.TransportFeedbackReports
import SimpleWebrtc.TransportFeedbackRuns

/-!
# Acknowledged packets

Transport feedback over whole runs. A number that is flagged as received belongs
to a packet which came in, and is dated within half a tick of it. The feedback
packets which were sent are counted without a gap.
-/
namespace SimpleWebrtc.TransportFeedbackGenerator
open Library Library.SequenceSpace TransportFeedbackCodec

namespace Generator
variable {g : Generator}

/-- An extended number continues the number of the wire. -/
theorem extendedNumber_word (g : Generator) (sequenceNumber : UInt16) :
    UInt16.ofNat (g.extendedNumber sequenceNumber % 65536).toNat = sequenceNumber := by
  have hlt := sequenceNumber.toNat_lt
  have hword : g.extendedNumber sequenceNumber % 65536 = sequenceNumber.toNat := by
    unfold extendedNumber unwrapSequence
    cases hnewest : g.newestExtendedSequence with
    | none =>
        simp only
        omega
    | some newest =>
        have hunwrap : unwrap sequenceHalfRange newest sequenceNumber.toNat % 65536 =
            sequenceNumber.toNat :=
          @unwrap_emod sequenceHalfRange newest sequenceNumber.toNat (by omega)
            (by rw [sequenceHalfRange]; omega)
        simp only
        split_ifs <;> exact hunwrap
  rw [hword, Int.toNat_natCast, UInt16.ofNat_toNat]

theorem find?_surviving {now number : ℤ} {record : ArrivalRecord}
    (h : (g.survivingArrivals now).find? number = some record) :
    g.arrivals.find? number = some record := by
  rw [OrderedMap.find?_eq_some] at h ⊢
  exact (OrderedMap.entry_mem_filter.mp (OrderedMap.entry_mem_of_mem_eraseFrontTo h)).1

theorem find?_unwrapSequence {sequenceNumber : UInt16} {number : ℤ} {record : ArrivalRecord}
    (h : (g.unwrapSequence sequenceNumber).1.arrivals.find? number = some record) :
    g.arrivals.find? number = some record := by
  rcases g.unwrapSequence_cases sequenceNumber with
    ⟨-, heq⟩ | ⟨newest, candidate, -, -, heq⟩ | ⟨newest, candidate, -, -, heq⟩
  · rwa [heq] at h
  · rw [heq] at h
    cases h
  · rwa [heq] at h

/-- What is kept of the arrivals, and the packet that came in, unless its number was known. -/
theorem find?_observe {sequenceNumber : UInt16} {arrivalTime : ℤ} {mediaSsrc : UInt32}
    {number : ℤ} {record : ArrivalRecord}
    (h : (g.observe sequenceNumber arrivalTime mediaSsrc).1.arrivals.find? number = some record) :
    g.arrivals.find? number = some record ∨
      number = g.extendedNumber sequenceNumber ∧ record = ⟨arrivalTime⟩ := by
  have hsurviving : ((g.recordArrival sequenceNumber arrivalTime mediaSsrc).1.survivingArrivals
      arrivalTime).find? number = some record := by
    simpa [observe] using h
  have hrecorded := find?_surviving hsurviving
  rw [recordArrival_arrivals, OrderedMap.find?_eq_some, OrderedMap.entry_mem_tryEmplace]
    at hrecorded
  rcases hrecorded with hkept | ⟨hentry, -⟩
  · exact .inl (find?_unwrapSequence (OrderedMap.find?_eq_some.mpr hkept))
  · obtain ⟨rfl, rfl⟩ := Prod.mk.inj hentry
    exact .inr ⟨rfl, rfl⟩

theorem evictOld_feedbackPacketCount (g : Generator) (now : ℤ) :
    (g.evictOld now).feedbackPacketCount = g.feedbackPacketCount := by
  unfold evictOld
  simp only
  split <;> rfl

theorem observe_feedbackPacketCount (g : Generator) (sequenceNumber : UInt16) (arrivalTime : ℤ)
    (mediaSsrc : UInt32) :
    (g.observe sequenceNumber arrivalTime mediaSsrc).1.feedbackPacketCount =
      g.feedbackPacketCount := by
  have hunwrapped : (g.unwrapSequence sequenceNumber).1.feedbackPacketCount =
      g.feedbackPacketCount := by
    rcases g.unwrapSequence_cases sequenceNumber with
      ⟨-, heq⟩ | ⟨newest, candidate, -, -, heq⟩ | ⟨newest, candidate, -, -, heq⟩ <;> rw [heq]
  have hrecorded : (g.recordArrival sequenceNumber arrivalTime mediaSsrc).1.feedbackPacketCount =
      g.feedbackPacketCount := by
    unfold recordArrival
    simp only
    split_ifs <;> exact hunwrapped
  exact (evictOld_feedbackPacketCount _ arrivalTime).trans hrecorded

/-- The feedback which was previewed is the one that can be committed. -/
theorem commitFeedback_feedbackPacketCount {senderSsrc : UInt32} {maximumPacketSize : ℕ}
    {feedback : BuiltRtcpTransportFeedback}
    (h : g.previewFeedback senderSsrc maximumPacketSize = .ok (some feedback)) :
    (g.commitFeedback feedback).feedbackPacketCount = g.feedbackPacketCount + 1 := by
  obtain ⟨newest, first, p, ticks, hrange, -, -, hsome, -, -, hend, -, -, -, hcount, -⟩ :=
    previewFeedback_eq_some h
  obtain ⟨hstart, -, -⟩ := pendingRange_eq_some.mp hrange
  unfold commitFeedback
  rw [hstart]
  simp only
  rw [if_neg]
  · rfl
  · rw [not_or, not_or]
    exact ⟨not_not.mpr rfl, by omega, not_not.mpr hcount⟩

end Generator

/-- Each number of a returned packet that is flagged as received has an arrival, and is dated
within half a tick of it. -/
theorem preview_received (g : Generator) {senderSsrc : UInt32} {maximumPacketSize : ℕ}
    {feedback : BuiltRtcpTransportFeedback}
    (h : g.previewFeedback senderSsrc maximumPacketSize = .ok (some feedback)) :
    ∃ parsed reference, parseRtcpTransportFeedback feedback.packet = .ok parsed ∧
      parsed.senderSsrc = senderSsrc ∧
      parsed.feedbackPacketCount = g.feedbackPacketCount ∧
      (parsed.referenceTime.toNat : ℤ) = reference % 16777216 ∧
      ∀ i (hi : i < parsed.statuses.length), parsed.statuses[i].received = true →
        ∃ number record, g.arrivals.find? number = some record ∧
          parsed.statuses[i].sequenceNumber = UInt16.ofNat (number % 65536).toNat ∧
          |64000 * reference + 250 * deltaSum (parsed.statuses.take (i + 1)) -
            arrivalTimeMicroseconds record.arrivalTime| ≤ 125 := by
  obtain ⟨newest, first, p, ticks, -, -, hp, -, hlength, -, -, hbase, -, -, -, hpacket⟩ :=
    Generator.previewFeedback_eq_some h
  refine ⟨_, _, hpacket ▸ parse_feedbackPacketOf _ _ _ _ _ ticks hp.fits
    (by simp only [maximumParsedStatusesPerFeedback]; omega), rfl, rfl, reference_word _, ?_⟩
  intro i hi hreceived
  rw [statusesFrom_getElem _ _ hi] at hreceived ⊢
  rw [statusesFrom_length] at hi
  obtain ⟨record, hrecord⟩ := Option.isSome_iff_exists.mp
    (OrderedMap.isSome_find?.mpr ((hp.reported i hi).mp hreceived))
  have hnear := hp.near i hi record hrecord
  have hword := sequence_word feedback.beginExtendedSequence i
  refine ⟨_, record, hrecord, ?_, ?_⟩
  · rw [← hword, Int.toNat_natCast, UInt16.ofNat_toNat, hbase]
  · rw [mul_comm] at hnear
    simpa only [deltaSum, statusesFrom_take, statusesFrom_deltas] using hnear

end SimpleWebrtc.TransportFeedbackGenerator

namespace SimpleWebrtc.WhipReports
open Library Library.Text RtpPacket RtpHeaderExtension RtcpReport RtcpCompoundPacket
  RtcpPacketBuilder TransportFeedbackCodec TransportFeedbackGenerator WhipPublisher WhipMedia
  WhepMedia

/-! ## The log -/

/-- The transport-wide number of a packet, where its payload type carries one. -/
def transportSequence (context : InboundPayloadTypeContext) (plainPacket : List UInt8) :
    Option UInt16 :=
  if context.transportCcEnabled = false then none
  else
    match findRtpHeaderExtension plainPacket context.transportCcExtensionId with
    | .error _ => none
    | .ok none => none
    | .ok (some span) =>
        if span.size ≠ 2 then none else some (Bytes.readU16 plainPacket span.offset)

/-- The number a packet is acknowledged under, and when it came in. -/
def PublisherEntry.numbered : PublisherEntry → Option (UInt16 × ℤ)
  | .rtp _ context plainPacket arrivedAt =>
      (transportSequence context plainPacket).map fun number => (number, arrivedAt)
  | .senderReport _ _ _ => none
  | .bye _ => none
  | .sent _ => none

def PublisherEntry.feedback : PublisherEntry → Option BuiltRtcpTransportFeedback
  | .rtp _ _ _ _ => none
  | .senderReport _ _ _ => none
  | .bye _ => none
  | .sent d =>
      match d.content with
      | .receiverReport _ _ => none
      | .transportFeedback feedback _ => some feedback
      | .keyframeRequest _ _ => none
      | .bye _ => none

/-- A feedback on the wire continues the count of the ones before it. Each packet it flags as
received came in, at the time it tells to half a tick. -/
def FeedbackTrue (before : List PublisherEntry) (entry : PublisherEntry) : Prop :=
  ∀ d, entry = .sent d → ∀ feedback compound, d.content = .transportFeedback feedback compound →
    feedback.packet <:+ compound ∧
    ∃ parsed reference, parseRtcpTransportFeedback feedback.packet = .ok parsed ∧
      parsed.feedbackPacketCount =
        UInt8.ofNat (before.filterMap PublisherEntry.feedback).length ∧
      (parsed.referenceTime.toNat : ℤ) = reference % 16777216 ∧
      ∀ i (hi : i < parsed.statuses.length), parsed.statuses[i].received = true →
        ∃ heard ∈ before, ∃ arrivedAt,
          heard.numbered = some (parsed.statuses[i].sequenceNumber, arrivedAt) ∧
          |64000 * reference + 250 * deltaSum (parsed.statuses.take (i + 1)) -
            arrivalTimeMicroseconds arrivedAt| ≤ 125

/-- The arrivals of the generator are packets of the log. -/
structure Acknowledged (log : List PublisherEntry) (g : Generator) : Prop where
  arrived : ∀ number record, g.arrivals.find? number = some record → ∃ heard ∈ log,
    heard.numbered = some (UInt16.ofNat (number % 65536).toNat, record.arrivalTime)
  counted : g.feedbackPacketCount = UInt8.ofNat (log.filterMap PublisherEntry.feedback).length
  feedback : EachAfter FeedbackTrue log

/-! ## What comes in -/

theorem recordInboundRtp_generator {t : WhipSessionTransport} {header : RtpPacketHeader}
    {context : InboundPayloadTypeContext}
    (hcontext : t.inboundPayloadTypes.find? header.payloadType = some context) (now : ℤ)
    (packet : List UInt8) :
    (t.recordInboundRtp header now packet).transportFeedbackGenerator =
      match transportSequence context packet with
      | none => t.transportFeedbackGenerator
      | some number => (t.transportFeedbackGenerator.observe number now header.ssrc).1 := by
  have hobserved : (t.observeTransportSequence context header.ssrc now
      packet).transportFeedbackGenerator =
        match transportSequence context packet with
        | none => t.transportFeedbackGenerator
        | some number => (t.transportFeedbackGenerator.observe number now header.ssrc).1 := by
    unfold WhipSessionTransport.observeTransportSequence transportSequence
    cases findRtpHeaderExtension packet context.transportCcExtensionId with
    | error message => split_ifs <;> rfl
    | ok found =>
        cases found with
        | none => split_ifs <;> rfl
        | some span =>
            simp only
            split_ifs <;> rfl
  rw [← hobserved]
  unfold WhipSessionTransport.recordInboundRtp
  rw [hcontext]
  simp only
  split
  · rfl
  · split_ifs <;> rfl

namespace Acknowledged
variable {log : List PublisherEntry} {g : Generator}

/-- Entries which are no feedback, next to a generator which learned nothing else. -/
theorem hears (h : Acknowledged log g) {entries : List PublisherEntry} {g' : Generator}
    (hentries : ∀ entry ∈ entries, entry.feedback = none)
    (hcount : g'.feedbackPacketCount = g.feedbackPacketCount)
    (harrived : ∀ number record, g'.arrivals.find? number = some record →
      ∃ heard ∈ log ++ entries,
        heard.numbered = some (UInt16.ofNat (number % 65536).toNat, record.arrivalTime)) :
    Acknowledged (log ++ entries) g' where
  arrived := harrived
  counted := by
    have hnone : entries.filterMap PublisherEntry.feedback = [] :=
      List.filterMap_eq_nil_iff.mpr hentries
    rw [hcount, h.counted, List.filterMap_append, hnone, List.append_nil]
  feedback := by
    refine h.feedback.append fun entry hentry _ d hd feedback compound hcontent => ?_
    have hnone := hentries entry hentry
    rw [hd, PublisherEntry.feedback, hcontent] at hnone
    cases hnone

/-- Entries which are neither feedback nor packets with a number. -/
theorem passes (h : Acknowledged log g) {entries : List PublisherEntry} {g' : Generator}
    (hentries : ∀ entry ∈ entries, entry.feedback = none)
    (hcount : g'.feedbackPacketCount = g.feedbackPacketCount)
    (hkept : ∀ number record, g'.arrivals.find? number = some record →
      g.arrivals.find? number = some record) : Acknowledged (log ++ entries) g' := by
  refine h.hears hentries hcount fun number record hfind => ?_
  obtain ⟨heard, hmem, hnumbered⟩ := h.arrived number record (hkept number record hfind)
  exact ⟨heard, List.mem_append_left _ hmem, hnumbered⟩

theorem expire (h : Acknowledged log g) (now : ℤ) : Acknowledged log (g.expire now) := by
  have hkept : ∀ number record, (g.expire now).arrivals.find? number = some record →
      g.arrivals.find? number = some record := by
    intro number record hfind
    have hsurviving : (g.survivingArrivals now).find? number = some record := by
      simpa [Generator.expire] using hfind
    exact Generator.find?_surviving hsurviving
  have hpassed := @passes log g h [] (g.expire now) (List.forall_mem_nil _)
    (Generator.evictOld_feedbackPacketCount g now) hkept
  rwa [List.append_nil] at hpassed

/-- A packet with a number joins the arrivals. -/
theorem observe (h : Acknowledged log g) {header : RtpPacketHeader}
    {context : InboundPayloadTypeContext} {packet : List UInt8} {now : ℤ} {number : UInt16}
    (hnumber : transportSequence context packet = some number) (mediaSsrc : UInt32) :
    Acknowledged (log ++ [.rtp header context packet now])
      (g.observe number now mediaSsrc).1 := by
  refine h.hears (fun entry hentry => by rw [List.mem_singleton.mp hentry]; rfl)
    (Generator.observe_feedbackPacketCount g number now mediaSsrc) fun extended record hfind => ?_
  rcases Generator.find?_observe hfind with hkept | ⟨rfl, rfl⟩
  · obtain ⟨heard, hmem, hnumbered⟩ := h.arrived extended record hkept
    exact ⟨heard, List.mem_append_left _ hmem, hnumbered⟩
  · refine ⟨_, List.mem_append_right _ (List.mem_singleton_self _), ?_⟩
    rw [PublisherEntry.numbered, hnumber, Generator.extendedNumber_word]
    rfl

end Acknowledged

/-! ## What goes out -/

/-- The feedback is what its datagram ends with, whether or not a report goes before it. -/
theorem feedback_suffix {packet compound : List UInt8} {senderSsrc : UInt32} {cname : Text}
    {reducedSize : Bool} {maximumSize : ℕ}
    (h : buildRtcpFeedbackDatagram packet senderSsrc cname reducedSize maximumSize =
      .ok compound) : packet <:+ compound := by
  obtain ⟨-, h⟩ := ensure_bind_ok.mp h
  obtain ⟨packetType, -, h⟩ := bind_ok.mp h
  obtain ⟨-, h⟩ := ensure_bind_ok.mp h
  obtain ⟨-, h⟩ := ensure_bind_ok.mp h
  cases reducedSize with
  | true =>
      obtain ⟨-, h⟩ := ensure_bind_ok.mp h
      exact ⟨[], Except.ok.inj h⟩
  | false =>
      obtain ⟨report, -, h⟩ := bind_ok.mp h
      obtain ⟨sdes, -, h⟩ := bind_ok.mp h
      obtain ⟨-, hflat⟩ := RtcpDatagrams.buildRtcpCompoundPacket_ok h
      exact ⟨report ++ sdes, by rw [← hflat]; simp⟩

namespace Acknowledged
variable {log : List PublisherEntry}

/-- A feedback which is sent is true, and committed. -/
theorem sendFeedback {t : PublisherTransport}
    (h : Acknowledged log t.session.transportFeedbackGenerator)
    {feedback : BuiltRtcpTransportFeedback} {maximumPacketSize : ℕ}
    (hpreview : t.session.transportFeedbackGenerator.previewFeedback t.rtcpSenderSsrc
      maximumPacketSize = .ok (some feedback))
    {compound : List UInt8} (hsuffix : feedback.packet <:+ compound) (datagram : List UInt8)
    (now : ℤ) :
    Acknowledged
      (log ++ [.sent { content := .transportFeedback feedback compound, datagram, sentAt := now }])
      (t.commitFeedback feedback).session.transportFeedbackGenerator where
  arrived number record hfind := by
    rw [PublisherTransport.commitFeedback, Generator.commitFeedback_arrivals] at hfind
    obtain ⟨heard, hmem, hnumbered⟩ := h.arrived number record hfind
    exact ⟨heard, List.mem_append_left _ hmem, hnumbered⟩
  counted := by
    rw [filterMap_concat, List.length_append]
    change _ = UInt8.ofNat (_ + 1)
    rw [UInt8.ofNat_add, ← h.counted]
    exact Generator.commitFeedback_feedbackPacketCount hpreview
  feedback := by
    refine h.feedback.concat fun d hd feedback' compound' hcontent => ?_
    obtain rfl := PublisherEntry.sent.inj hd
    obtain ⟨rfl, rfl⟩ := PublisherContent.transportFeedback.inj hcontent
    obtain ⟨parsed, reference, hparsed, -, hcount, hreference, hstatuses⟩ :=
      preview_received _ hpreview
    refine ⟨hsuffix, parsed, reference, hparsed, hcount.trans h.counted, hreference, ?_⟩
    intro i hi hreceived
    obtain ⟨number, record, hfind, hnumber, hdated⟩ := hstatuses i hi hreceived
    obtain ⟨heard, hmem, hnumbered⟩ := h.arrived number record hfind
    exact ⟨heard, hmem, _, by rw [hnumber]; exact hnumbered, hdated⟩

theorem sendFeedbackDatagrams {t : PublisherTransport}
    (h : Acknowledged log t.session.transportFeedbackGenerator) (now : ℤ) (srtp : SrtpAnswers)
    (remaining index : ℕ) :
    Acknowledged
      (log ++ (t.sendFeedbackDatagrams now srtp remaining index).2.map .sent)
      (t.sendFeedbackDatagrams now srtp remaining
        index).1.session.transportFeedbackGenerator := by
  induction remaining generalizing log t index with
  | zero => rwa [PublisherTransport.sendFeedbackDatagrams, List.map_nil, List.append_nil]
  | succ remaining ih =>
      rcases sendFeedbackDatagrams_cases now srtp remaining index t with
        hend | ⟨feedback, compound, datagram, hpreview, hbuilt, hsent⟩
      · rwa [hend, List.map_nil, List.append_nil]
      · rw [hsent, List.map_cons, List.append_cons]
        exact ih (h.sendFeedback hpreview (feedback_suffix hbuilt) datagram now) (index + 1)

end Acknowledged

/-! ## The other events -/

section
variable (now : ℤ)

theorem commitReports_generator (sources : List UInt32) (t : PublisherTransport) :
    (sources.foldl PublisherTransport.commitReport t).session.transportFeedbackGenerator =
      t.session.transportFeedbackGenerator := by
  induction sources generalizing t with
  | nil => rfl
  | cons source sources ih =>
      rw [List.foldl_cons, ih]
      unfold PublisherTransport.commitReport
      split <;> rfl

theorem sendReceiverReport_generator (jitter : UInt32 → UInt32)
    (answer : Except Text Srtp.SrtpPacketProcessResult) (sources : List UInt32)
    (t : PublisherTransport) :
    (t.sendReceiverReport now jitter answer sources).1.session.transportFeedbackGenerator =
        t.session.transportFeedbackGenerator ∧
      ∀ d ∈ (t.sendReceiverReport now jitter answer sources).2,
        (PublisherEntry.sent d).feedback = none := by
  unfold PublisherTransport.sendReceiverReport
  simp only
  split
  · exact ⟨rfl, fun _ hnone => by cases hnone⟩
  · split
    · exact ⟨rfl, fun _ hnone => by cases hnone⟩
    · refine ⟨commitReports_generator sources t, fun d hd => ?_⟩
      rw [← Option.some.inj hd]
      rfl

theorem sendReceiverReports_generator (jitter : UInt32 → UInt32) (srtp : SrtpAnswers) (index : ℕ)
    (parts : List (List UInt32)) (t : PublisherTransport) :
    (PublisherTransport.sendReceiverReports now jitter srtp index parts
        t).1.session.transportFeedbackGenerator = t.session.transportFeedbackGenerator ∧
      ∀ d ∈ (PublisherTransport.sendReceiverReports now jitter srtp index parts t).2,
        (PublisherEntry.sent d).feedback = none := by
  induction parts generalizing t index with
  | nil => exact ⟨rfl, List.forall_mem_nil _⟩
  | cons part parts ih =>
      obtain ⟨hsame, hfirst⟩ :=
        sendReceiverReport_generator now jitter (srtp.protect index) part t
      obtain ⟨hkept, hmore⟩ := ih (index + 1)
        (t.sendReceiverReport now jitter (srtp.protect index) part).1
      rw [PublisherTransport.sendReceiverReports]
      refine ⟨hkept.trans hsame, fun d hd => ?_⟩
      rcases List.mem_append.mp hd with hd | hd
      · exact hfirst d (Option.mem_toList.mp hd)
      · exact hmore d hd

theorem hearReports_generator (reports : List RtcpReportPacket) (t : PublisherTransport) :
    (PublisherTransport.hearReports now reports t).1.session.transportFeedbackGenerator =
        t.session.transportFeedbackGenerator ∧
      ∀ entry ∈ (PublisherTransport.hearReports now reports t).2, entry.feedback = none := by
  induction reports generalizing t with
  | nil => exact ⟨rfl, List.forall_mem_nil _⟩
  | cons report reports ih =>
      have hfirst : (PublisherTransport.hearReport now t
            report).1.session.transportFeedbackGenerator =
          t.session.transportFeedbackGenerator ∧
          ∀ entry ∈ (PublisherTransport.hearReport now t report).2, entry.feedback = none := by
        unfold PublisherTransport.hearReport
        split
        · exact ⟨rfl, fun _ hnone => by cases hnone⟩
        · refine ⟨?_, fun entry hentry => by rw [List.mem_singleton.mp hentry]; rfl⟩
          unfold WhipSessionTransport.updateReceiverSenderReport
          split <;> rfl
      obtain ⟨hkept, hmore⟩ := ih (PublisherTransport.hearReport now t report).1
      rw [PublisherTransport.hearReports]
      refine ⟨hkept.trans hfirst.1, fun entry hentry => ?_⟩
      rcases List.mem_append.mp hentry with hentry | hentry
      · exact hfirst.2 entry hentry
      · exact hmore entry hentry

theorem endSources_generator (named : List EndedSource) (session : WhipSessionTransport) :
    (session.endSources named).1.transportFeedbackGenerator =
      session.transportFeedbackGenerator := by
  induction named generalizing session with
  | nil => rfl
  | cons source named ih =>
      rw [WhipSessionTransport.endSources]
      refine (ih _).trans ?_
      unfold WhipSessionTransport.endSource
      split_ifs <;> rfl

end

namespace Acknowledged
variable {log : List PublisherEntry} {t t' : PublisherTransport}

theorem keeps (h : Acknowledged log t.session.transportFeedbackGenerator)
    {entries : List PublisherEntry} (hentries : ∀ entry ∈ entries, entry.feedback = none)
    (hsame : t'.session.transportFeedbackGenerator = t.session.transportFeedbackGenerator) :
    Acknowledged (log ++ entries) t'.session.transportFeedbackGenerator := by
  rw [hsame]
  exact h.passes hentries rfl fun _ _ hfind => hfind

/-- Datagrams without feedback. -/
theorem sends (h : Acknowledged log t.session.transportFeedbackGenerator)
    {sent : List PublisherDatagram} (hsent : ∀ d ∈ sent, (PublisherEntry.sent d).feedback = none)
    (hsame : t'.session.transportFeedbackGenerator = t.session.transportFeedbackGenerator) :
    Acknowledged (log ++ sent.map .sent) t'.session.transportFeedbackGenerator :=
  h.keeps (List.forall_mem_map.mpr hsent) hsame

theorem hearRtp (h : Acknowledged log t.session.transportFeedbackGenerator) (now : ℤ)
    (packet : List UInt8) :
    Acknowledged (log ++ (t.hearRtp now packet).2)
      (t.hearRtp now packet).1.session.transportFeedbackGenerator := by
  unfold PublisherTransport.hearRtp
  split
  · exact h.keeps (List.forall_mem_nil _) rfl
  · rename_i header _
    cases hcontext : t.session.inboundPayloadTypes.find? header.payloadType with
    | none =>
        refine h.keeps (List.forall_mem_nil _) ?_
        simp only [WhipSessionTransport.recordInboundRtp, hcontext]
    | some context =>
        simp only [Option.toList_some, List.map_cons, List.map_nil]
        rw [recordInboundRtp_generator hcontext]
        cases hnumber : transportSequence context packet with
        | none =>
            exact h.keeps (fun entry hentry => by rw [List.mem_singleton.mp hentry]; rfl) rfl
        | some number => exact h.observe hnumber header.ssrc

theorem hearRtcp (h : Acknowledged log t.session.transportFeedbackGenerator) (now : ℤ)
    (plainRtcp : List UInt8) :
    Acknowledged (log ++ (t.hearRtcp now plainRtcp).2)
      (t.hearRtcp now plainRtcp).1.session.transportFeedbackGenerator := by
  unfold PublisherTransport.hearRtcp
  split
  · exact h.keeps (List.forall_mem_nil _) rfl
  · rename_i compound _
    obtain ⟨hsame, hreports⟩ := hearReports_generator now compound.reportPackets t
    refine h.keeps (fun entry hentry => ?_) ((endSources_generator _ _).trans hsame)
    rcases List.mem_append.mp hentry with hreport | hbye
    · exact hreports entry hreport
    · obtain ⟨source, -, rfl⟩ := List.mem_map.mp hbye
      rfl

theorem perform (h : Acknowledged log t.session.transportFeedbackGenerator)
    (event : PublisherEvent) :
    Acknowledged (log ++ (t.perform event).2)
      (t.perform event).1.session.transportFeedbackGenerator := by
  cases event with
  | inboundRtp now packet =>
      rw [PublisherTransport.perform]
      split_ifs
      · exact h.keeps (List.forall_mem_nil _) rfl
      · exact h.hearRtp now packet
  | inboundRtcp now plainRtcp =>
      rw [PublisherTransport.perform]
      split_ifs
      · exact h.keeps (List.forall_mem_nil _) rfl
      · exact h.hearRtcp now plainRtcp
  | nominate endpoint rebound =>
      refine h.keeps (List.forall_mem_nil _) ?_
      change (t.nominate endpoint rebound).session.transportFeedbackGenerator = _
      unfold PublisherTransport.nominate
      split_ifs <;> rfl
  | receiverReports now jitter srtp =>
      rw [PublisherTransport.perform]
      unfold PublisherTransport.sendRtcpReceiverReports
      split_ifs
      · exact h.keeps (List.forall_mem_nil _) rfl
      · obtain ⟨hsame, hsent⟩ := sendReceiverReports_generator now jitter srtp 0
          (chunks kMaximumRtcpReportBlocks t.reportedSources) t
        exact h.sends hsent hsame
  | transportFeedback now srtp =>
      have hexpired : Acknowledged log (t.expireFeedback now).session.transportFeedbackGenerator :=
        h.expire now
      rw [PublisherTransport.perform]
      unfold PublisherTransport.sendTransportFeedback
      simp only
      split_ifs
      · exact hexpired.keeps (List.forall_mem_nil _) rfl
      · exact hexpired.sendFeedbackDatagrams now srtp _ 0
  | keyframeRequest now mediaSsrc answer =>
      refine h.sends (fun d hd => ?_) rfl
      obtain ⟨compound, hcontent⟩ := sendKeyframeRequest_content (Option.mem_toList.mp hd)
      rw [PublisherEntry.feedback, hcontent]
  | logMediaSummary active now =>
      rw [PublisherTransport.perform]
      split_ifs
      · exact (h.expire now).keeps (List.forall_mem_nil _) rfl
      · exact h.keeps (List.forall_mem_nil _) rfl
  | close reason now srtp =>
      rw [PublisherTransport.perform]
      unfold PublisherTransport.close
      split_ifs
      · exact h.keeps (List.forall_mem_nil _) rfl
      · refine (h.expire now).sends (fun d hd => ?_) rfl
        obtain ⟨compound, hcontent⟩ := sendRtcpBye_content (Option.mem_toList.mp hd)
        rw [PublisherEntry.feedback, hcontent]

end Acknowledged

/-- In every run, the transport feedback that is sent is counted without a gap, and tells the truth
about each packet it acknowledges. -/
theorem run_feedback_true {events : List PublisherEvent} {w : PublisherWorld}
    (h : PublisherWorld.system.Run events w) : EachAfter FeedbackTrue w.log := by
  have hinv : Acknowledged w.log w.transport.session.transportFeedbackGenerator := by
    refine @EventSystem.Run.invariant _ _ _
      (fun w => Acknowledged w.log w.transport.session.transportFeedbackGenerator) ?_ ?_ _ _ h
    · intro w hinit
      obtain ⟨streamId, sessionId, remoteOffer, acceptedMlineIndexes, now, rfl⟩ := hinit
      exact ⟨fun number record hfind => (by cases hfind), rfl, .nil _⟩
    · intro w event w' hacknowledged hstep
      obtain ⟨-, hperformed⟩ := Option.ite_none_right_eq_some.mp hstep
      obtain rfl := Option.some.inj hperformed
      exact hacknowledged.perform event
  exact hinv.feedback

theorem run_feedback_true_played : ∃ w, PublisherWorld.system.Run heardEvents w ∧
    (w.log.filterMap PublisherEntry.feedback).length = 1 ∧ EachAfter FeedbackTrue w.log := by
  obtain ⟨w, hrun, hsent⟩ := @heardOutset_run heardEvents
    (fun w => decide ((w.log.filterMap PublisherEntry.feedback).length = 1)) (by decide +kernel)
  exact ⟨w, hrun, of_decide_eq_true hsent, run_feedback_true hrun⟩

end SimpleWebrtc.WhipReports
