import SimpleWebrtc.OutboundTraces
import SimpleWebrtc.RtcpDatagrams

/-!
# The reports of a transport

What a sender reports is what was sent under its SSRC before the report, the
packets of the publisher and those which were sent again. The last sixteen
reports are remembered with the times they were sent at, which is what the
round-trip time of an answer is counted from.
-/
namespace SimpleWebrtc.WhepOutbound
open Library MediaFanout WhepSession WhepMedia RtcpReport RtcpCompoundPacket RtcpPacketBuilder
  RtcpRoundTrip RtcpDatagrams

/-! ## What was sent -/

/-- The packets under an SSRC. -/
def packetsOf (ssrc : UInt32) (sent : List SentDatagram) : List RtpFields :=
  sent.filterMap fun d =>
    d.content.rtpFields.filter fun fields => decide (fields.targetSsrc = ssrc)

def SentContent.report : SentContent → Option RtcpSenderReportData
  | .rtp _ _ => none
  | .retransmission _ _ => none
  | .senderReport report _ => some report
  | .bye _ report _ => report

/-- The reports of an SSRC, with those of a leaving session. -/
def reportsOf (ssrc : UInt32) (sent : List SentDatagram) : List RtcpSenderReportData :=
  sent.filterMap fun d =>
    d.content.report.filter fun report => decide (report.senderSsrc = ssrc)

/-- The timestamps of the last report; a sender begins with two zeros. -/
def lastTimestamps (ssrc : UInt32) (sent : List SentDatagram) : UInt64 × UInt32 :=
  ((reportsOf ssrc sent).getLast?.map fun report =>
    (report.ntpTimestamp, report.rtpTimestamp)).getD (0, 0)

def compactNtp (ntpTimestamp : UInt64) : UInt32 := UInt32.ofNat (ntpTimestamp.toNat / 65536)

/-- A report which can be answered, as the answer names it and with the time it was sent. -/
def SentDatagram.answerable (ssrc : UInt32) (d : SentDatagram) : Option (UInt32 × ℤ) :=
  match d.content with
  | .senderReport report _ =>
      if report.senderSsrc = ssrc then some (compactNtp report.ntpTimestamp, d.sentAt) else none
  | .rtp _ _ => none
  | .retransmission _ _ => none
  | .bye _ _ _ => none

def answerableReports (ssrc : UInt32) (sent : List SentDatagram) : List (UInt32 × ℤ) :=
  sent.filterMap (SentDatagram.answerable ssrc)

section Concat
variable (ssrc : UInt32) (sent : List SentDatagram) {d : SentDatagram}

theorem packetsOf_concat (h : d.content.rtpFields = none) :
    packetsOf ssrc (sent ++ [d]) = packetsOf ssrc sent := by
  rw [packetsOf, filterMap_concat, h]
  exact List.append_nil _

theorem packetsOf_concat_sent {fields : RtpFields} (h : d.content.rtpFields = some fields) :
    packetsOf ssrc (sent ++ [d]) =
      packetsOf ssrc sent ++ if fields.targetSsrc = ssrc then [fields] else [] := by
  rw [packetsOf, filterMap_concat, h, Option.filter_some]
  by_cases heq : fields.targetSsrc = ssrc
  · rw [if_pos heq, if_pos (decide_eq_true heq)]
    rfl
  · rw [if_neg heq, if_neg (Bool.not_eq_true _ ▸ decide_eq_false heq)]
    rfl

theorem reportsOf_concat (h : d.content.report = none) :
    reportsOf ssrc (sent ++ [d]) = reportsOf ssrc sent := by
  rw [reportsOf, filterMap_concat, h]
  exact List.append_nil _

theorem reportsOf_concat_sent {report : RtcpSenderReportData} (h : d.content.report = some report) :
    reportsOf ssrc (sent ++ [d]) =
      reportsOf ssrc sent ++ if report.senderSsrc = ssrc then [report] else [] := by
  rw [reportsOf, filterMap_concat, h, Option.filter_some]
  by_cases heq : report.senderSsrc = ssrc
  · rw [if_pos heq, if_pos (decide_eq_true heq)]
    rfl
  · rw [if_neg heq, if_neg (Bool.not_eq_true _ ▸ decide_eq_false heq)]
    rfl

theorem answerableReports_concat :
    answerableReports ssrc (sent ++ [d]) =
      answerableReports ssrc sent ++ (d.answerable ssrc).toList :=
  filterMap_concat _ _ _

end Concat

/-- A packet of the publisher or one sent again is no report. -/
theorem report_of_rtpFields {content : SentContent} {fields : RtpFields}
    (h : content.rtpFields = some fields) : content.report = none := by
  cases content with
  | rtp sourceGeneration rewritten => rfl
  | retransmission cached built => rfl
  | senderReport report compound => cases h
  | bye targetSsrc report compound => cases h

theorem answerable_of_rtpFields {d : SentDatagram} {fields : RtpFields} (ssrc : UInt32)
    (h : d.content.rtpFields = some fields) : d.answerable ssrc = none := by
  unfold SentDatagram.answerable
  cases hd : d.content with
  | rtp sourceGeneration rewritten => rfl
  | retransmission cached built => rfl
  | senderReport report compound =>
      rw [hd] at h
      cases h
  | bye targetSsrc report compound => rfl

/-! ## What is read back -/

/-- A datagram of the builders is read as the packets it was built from. -/
theorem read_collected {members : List RtcpMember} {datagram : List UInt8}
    (h : BuiltDatagram members datagram) :
    ∃ packet, parseRtcpCompoundPacket datagram = .ok packet ∧ Collected members packet := by
  obtain ⟨packets, hbuilt, hne, hflat⟩ := h.packets
  obtain ⟨packet, hparse, hcollected⟩ := parseCompoundBlocks_members hbuilt collected_empty
  rw [List.nil_append] at hcollected
  rw [hflat] at hparse
  have hdata : datagram ≠ [] ∧ packet.blocks.isEmpty = false := by
    rw [hcollected.blocks, ← hflat]
    cases hbuilt with
    | nil => exact absurd rfl hne
    | @cons member first _ _ hmember _ =>
        obtain ⟨⟨body, hwritten⟩, -⟩ := build_written hmember
        refine ⟨fun hnil => ?_, rfl⟩
        have hsize := hwritten.length
        rw [(List.append_eq_nil_iff.mp hnil).1, List.length_nil] at hsize
        omega
  refine ⟨packet, ?_, hcollected⟩
  rw [parseRtcpCompoundPacket, if_neg hdata.1, hparse]
  simp only [hdata.2, Bool.false_eq_true, if_false]

theorem built_senderReport {sender : OutboundRtcpSenderState} {report : RtcpSenderReportData}
    {compound : List UInt8} (h : buildSenderReportDatagram sender report = .ok compound) :
    BuiltDatagram [.senderReport report, .sdesCname sender.targetSsrc sender.cname] compound := by
  obtain ⟨senderReport, hreport, h⟩ := bind_ok.mp h
  obtain ⟨sdes, hsdes, h⟩ := bind_ok.mp h
  exact .compound (mapM_ok.mpr (.cons hreport (.cons hsdes .nil))) h

/-- The report in front of a BYE. -/
def closingMember (sender : OutboundRtcpSenderState) :
    Option OutboundRtcpSenderTiming → RtcpMember
  | none => .receiverReport { senderSsrc := sender.targetSsrc }
  | some timing => .senderReport (makeSenderReport sender timing)

theorem built_bye {reason : Text} {sender : OutboundRtcpSenderState}
    {timing : Option OutboundRtcpSenderTiming} {compound : List UInt8}
    (h : OutboundTransport.buildByeDatagram reason sender timing = .ok compound) :
    BuiltDatagram [closingMember sender timing, .sdesCname sender.targetSsrc sender.cname,
      .bye [sender.targetSsrc] reason] compound := by
  obtain ⟨report, hreport, h⟩ := bind_ok.mp h
  have hmember : (closingMember sender timing).build = .ok report := by
    cases timing with
    | none => exact hreport
    | some timing => exact hreport
  exact .bye hmember h

/-! ## What a report tells -/

/-- A sender report of what was sent under its SSRC before it. -/
structure TellsOf (before : List SentDatagram) (report : RtcpReportPacket) : Prop where
  type : report.packetType = kRtcpPacketTypeSenderReport
  used : packetsOf report.senderSsrc before ≠ []
  info : ∃ info, report.senderInfo = some info ∧
    info.senderPacketCount = UInt32.ofNat (packetsOf report.senderSsrc before).length ∧
    info.senderOctetCount =
      UInt32.ofNat ((packetsOf report.senderSsrc before).map RtpFields.payloadSize).sum
  blocks : report.reportBlocks = []

/-- What is read in a datagram of reports is true of the datagrams before it. No sender report
repeats the timestamps of the last one; a session may leave with them. -/
def ReadsTrue (before : List SentDatagram) (d : SentDatagram) : Prop :=
  match d.content with
  | .rtp _ _ => True
  | .retransmission _ _ => True
  | .senderReport report compound =>
      (report.ntpTimestamp, report.rtpTimestamp) ≠ lastTimestamps report.senderSsrc before ∧
        ∃ packet read, parseRtcpCompoundPacket compound = .ok packet ∧
          packet.reportPackets = [read] ∧ read.senderSsrc = report.senderSsrc ∧ TellsOf before read
  | .bye targetSsrc report compound =>
      ∃ packet read, parseRtcpCompoundPacket compound = .ok packet ∧
        packet.reportPackets = [read] ∧ read.senderSsrc = targetSsrc ∧
        packet.byePackets.map RtcpByePacket.ssrcs = [[targetSsrc]] ∧
        (TellsOf before read ∨ report = none ∧ read.senderInfo = none ∧ read.reportBlocks = [])

/-! ## What a sender counts -/

/-- A sender has counted what was sent under its SSRC, and knows what it reported last. -/
structure SenderAccount (sent : List SentDatagram) (ssrc : UInt32)
    (sender : OutboundRtcpSenderState) : Prop where
  targetSsrc : sender.targetSsrc = ssrc
  packets : sender.packetCount = (packetsOf ssrc sent).length
  octets : sender.octetCount = ((packetsOf ssrc sent).map RtpFields.payloadSize).sum
  reports : sender.senderReportCount = (reportsOf ssrc sent).length
  last : (sender.lastSenderReportNtpTimestamp, sender.lastSenderReportRtpTimestamp) =
    lastTimestamps ssrc sent

namespace SenderAccount
variable {sent : List SentDatagram} {ssrc : UInt32} {sender sender' : OutboundRtcpSenderState}

/-- The timing of a sender does not matter. -/
theorem of_untimed (h : SenderAccount sent ssrc sender) (hsame : untimed sender' = untimed sender) :
    SenderAccount sent ssrc sender' := by
  simp only [untimed, OutboundRtcpSenderState.mk.injEq] at hsame
  obtain ⟨-, -, -, htarget, -, -, -, -, hpackets, hoctets, -, -, hreports, -, hntp, hrtp⟩ := hsame
  exact ⟨htarget.trans h.targetSsrc, hpackets.trans h.packets, hoctets.trans h.octets,
    hreports.trans h.reports, by rw [hntp, hrtp, h.last]⟩

/-- A packet under some SSRC. -/
theorem forwards (h : SenderAccount sent ssrc sender) {d : SentDatagram} {fields : RtpFields}
    (hd : d.content.rtpFields = some fields) :
    SenderAccount (sent ++ [d]) ssrc
      (if ssrc = fields.targetSsrc then counted fields sender else sender) := by
  have hpackets := packetsOf_concat_sent ssrc sent hd
  have hreports := reportsOf_concat ssrc sent (report_of_rtpFields hd)
  by_cases heq : ssrc = fields.targetSsrc
  · rw [if_pos heq.symm] at hpackets
    rw [if_pos heq]
    refine ⟨h.targetSsrc, ?_, ?_, ?_, ?_⟩
    · rw [hpackets, List.length_append, ← h.packets]
      rfl
    · rw [hpackets, List.map_append, List.sum_append, ← h.octets]
      exact (Nat.add_zero _).symm
    · rw [hreports]
      exact h.reports
    · rw [lastTimestamps, hreports]
      exact h.last
  · rw [if_neg (Ne.symm heq), List.append_nil] at hpackets
    rw [if_neg heq]
    exact ⟨h.targetSsrc, by rw [hpackets, h.packets], by rw [hpackets, h.octets],
      by rw [hreports, h.reports], by rw [lastTimestamps, hreports]; exact h.last⟩

/-- A report of another SSRC, or none. -/
theorem other (h : SenderAccount sent ssrc sender) {d : SentDatagram}
    (hfields : d.content.rtpFields = none)
    (hreport : ∀ report ∈ d.content.report, report.senderSsrc ≠ ssrc) :
    SenderAccount (sent ++ [d]) ssrc sender := by
  have hpackets := packetsOf_concat ssrc sent hfields
  have hreports : reportsOf ssrc (sent ++ [d]) = reportsOf ssrc sent := by
    cases hd : d.content.report with
    | none => exact reportsOf_concat ssrc sent hd
    | some report =>
        rw [reportsOf_concat_sent ssrc sent hd, if_neg (hreport report hd), List.append_nil]
  exact ⟨h.targetSsrc, by rw [hpackets, h.packets], by rw [hpackets, h.octets],
    by rw [hreports, h.reports], by rw [lastTimestamps, hreports]; exact h.last⟩

/-- A report of the sender itself. -/
theorem reported (h : SenderAccount sent ssrc sender) {d : SentDatagram}
    {timing : OutboundRtcpSenderTiming} (hfields : d.content.rtpFields = none)
    (hreport : d.content.report = some (makeSenderReport sender timing)) :
    SenderAccount (sent ++ [d]) ssrc (WhepOutbound.reported timing sender) := by
  have hpackets := packetsOf_concat ssrc sent hfields
  have hreports : reportsOf ssrc (sent ++ [d]) =
      reportsOf ssrc sent ++ [makeSenderReport sender timing] := by
    have hown : (makeSenderReport sender timing).senderSsrc = ssrc := h.targetSsrc
    rw [reportsOf_concat_sent ssrc sent hreport, if_pos hown]
  refine ⟨h.targetSsrc, by rw [hpackets]; exact h.packets, by rw [hpackets]; exact h.octets, ?_, ?_⟩
  · rw [hreports, List.length_append, ← h.reports]
    rfl
  · rw [lastTimestamps, hreports, List.getLast?_concat]
    rfl

/-- What a sender reports is true. -/
theorem tellsOf (h : SenderAccount sent ssrc sender) (hused : sender.packetCount ≠ 0)
    (timing : OutboundRtcpSenderTiming) :
    TellsOf sent
      ⟨200, sender.targetSsrc, some (senderInfoOf (makeSenderReport sender timing)), []⟩ := by
  refine ⟨rfl, fun hnone => hused ?_, ⟨_, rfl, ?_, ?_⟩, rfl⟩
  · rw [h.targetSsrc] at hnone
    rw [h.packets, hnone]
    rfl
  · rw [h.targetSsrc, ← h.packets]
    rfl
  · rw [h.targetSsrc, ← h.octets]
    rfl

end SenderAccount

/-! ## What a transport reports -/

/-- Every sender has counted what was sent under its SSRC. -/
def SenderAccounts (sent : List SentDatagram) (senders : AssocMap UInt32 OutboundRtcpSenderState) :
    Prop :=
  ∀ ssrc sender, senders.find? ssrc = some sender → SenderAccount sent ssrc sender

theorem SenderAccounts.insert {sent : List SentDatagram}
    {senders : AssocMap UInt32 OutboundRtcpSenderState} (h : SenderAccounts sent senders)
    {ssrc : UInt32} {sender : OutboundRtcpSenderState} (hsender : SenderAccount sent ssrc sender) :
    SenderAccounts sent (senders.insertOrAssign ssrc sender) := by
  intro ssrc' sender' hfound
  rw [AssocMap.find?_insertOrAssign] at hfound
  split_ifs at hfound with heq
  · rw [heq, ← Option.some.inj hfound]
    exact hsender
  · exact h ssrc' sender' hfound

/-- The senders of a session which sent nothing. -/
theorem configureOutboundRtcpSenders_accounts (target : RewriterConfig.WhepRtpRewriterTarget) :
    SenderAccounts [] (WhepSessionTransport.configureOutboundRtcpSenders target) := by
  have hmade : ∀ source ssrc rtx associated, SenderAccount [] ssrc
      (WhepSessionTransport.makeSenderState target source ssrc rtx associated) :=
    fun _ _ _ _ => ⟨rfl, rfl, rfl, rfl, rfl⟩
  have hadded : ∀ senders source, SenderAccounts [] senders →
      SenderAccounts [] (WhepSessionTransport.addSenders target senders source) := by
    intro senders source hsenders
    unfold WhepSessionTransport.addSenders
    simp only
    split_ifs
    · exact hsenders
    · exact hsenders.insert (hmade _ _ _ _)
    · exact (hsenders.insert (hmade _ _ _ _)).insert (hmade _ _ _ _)
  have hfold : ∀ (sources : List SdpAnswer.SdpAnswerMediaSource) senders,
      SenderAccounts [] senders → SenderAccounts []
        (sources.foldl (WhepSessionTransport.addSenders target) senders) := by
    intro sources
    induction sources with
    | nil => exact fun _ hsenders => hsenders
    | cons source sources ih => exact fun senders hsenders => ih _ (hadded senders source hsenders)
  refine hfold _ _ fun ssrc sender hfound => ?_
  cases hfound

/-- A report as the other side names it in an answer. -/
def answerName (report : SentRtcpSenderReport) : UInt32 × ℤ := (report.compactNtp, report.sentAt)

structure Accounts (sent : List SentDatagram) (t : OutboundTransport) : Prop where
  senders : SenderAccounts sent t.senders
  remembered : ∀ ssrc, (t.reportState ssrc).sentSenderReports.map answerName =
    (answerableReports ssrc sent).rtake kSenderReportHistorySize
  wire : EachAfter ReadsTrue sent

theorem accounts_create (streamId sessionId : Text)
    (target : RewriterConfig.WhepRtpRewriterTarget) :
    Accounts [] { media := .create streamId sessionId target } := by
  refine ⟨fun ssrc sender hfound => ?_, fun ssrc => rfl, .nil _⟩
  have hcleared : OutboundTransport.senders { media := .create streamId sessionId target } =
      (WhepSessionTransport.configureOutboundRtcpSenders target).mapValues
        fun _ sender => { sender with senderTiming := none } := rfl
  rw [hcleared, AssocMap.find?_mapValues] at hfound
  obtain ⟨sender', hfound', rfl⟩ := Option.map_eq_some_iff.mp hfound
  exact (configureOutboundRtcpSenders_accounts target ssrc sender' hfound').of_untimed rfl

/-- A report that is due is one of packets, and not the last one again. -/
theorem dueTiming_some {sourceGeneration : ℕ} {sender : OutboundRtcpSenderState}
    {timing : OutboundRtcpSenderTiming} (h : dueTiming sourceGeneration sender = some timing) :
    sender.packetCount ≠ 0 ∧ (timing.ntpTimestamp, timing.targetRtpTimestamp) ≠
      (sender.lastSenderReportNtpTimestamp, sender.lastSenderReportRtpTimestamp) := by
  unfold dueTiming at h
  split_ifs at h with hunused
  obtain ⟨-, -, hused⟩ : ¬_ ∧ ¬_ ∧ ¬_ := by rwa [not_or, not_or] at hunused
  obtain ⟨-, hdue⟩ := Option.filter_eq_some_iff.mp h
  refine ⟨hused, fun hsame => ?_⟩
  obtain ⟨hntp, hrtp⟩ := Prod.mk.inj hsame
  simp [hntp, hrtp] at hdue

theorem answerable_senderReport {d : SentDatagram} {report : RtcpSenderReportData}
    {compound : List UInt8} (ssrc : UInt32) (h : d.content = .senderReport report compound) :
    d.answerable ssrc = if report.senderSsrc = ssrc then
      some (compactNtp report.ntpTimestamp, d.sentAt) else none := by
  unfold SentDatagram.answerable
  rw [h]

/-- The last reports with one more behind them. -/
theorem rtake_remember (state : ReportState) (now : ℤ) (size : ℕ)
    (timing : OutboundRtcpSenderTiming) :
    (state.remember now size timing).sentSenderReports.map answerName =
      ((state.sentSenderReports.map answerName) ++
        [(compactNtp timing.ntpTimestamp, now)]).rtake kSenderReportHistorySize := by
  unfold ReportState.remember List.rtake
  rw [List.map_drop, List.map_append, List.length_append, List.length_append, List.length_map]
  rfl

namespace Accounts
variable {now : ℤ} {sent : List SentDatagram} {t t' : OutboundTransport}

theorem silent (h : Accounts sent t) (hsame : SameAccounts t t') : Accounts sent t' := by
  refine ⟨fun ssrc sender hfound => ?_, fun ssrc => ?_, h.wire⟩
  · have huntimed := hsame.senders ssrc
    rw [hfound, Option.map_some] at huntimed
    obtain ⟨sender', hfound', heq⟩ := Option.map_eq_some_iff.mp huntimed.symm
    exact (h.senders ssrc sender' hfound').of_untimed heq.symm
  · rw [hsame.reports ssrc]
    exact h.remembered ssrc

theorem forwards (h : Accounts sent t) {d : SentDatagram} {fields : RtpFields}
    (hd : Forwards now d fields t t') : Accounts (sent ++ [d]) t' := by
  refine ⟨fun ssrc sender hfound => ?_, fun ssrc => ?_, h.wire.concat ?_⟩
  · have huntimed := hd.senders ssrc
    rw [hfound, Option.map_some] at huntimed
    obtain ⟨sender', hfound', heq⟩ := Option.map_eq_some_iff.mp huntimed.symm
    exact ((h.senders ssrc sender' hfound').forwards hd.said).of_untimed heq.symm
  · rw [hd.reports ssrc, answerableReports_concat, answerable_of_rtpFields ssrc hd.said,
      Option.toList_none, List.append_nil]
    exact h.remembered ssrc
  · have hsaid := hd.said
    unfold ReadsTrue
    cases hcontent : d.content with
    | rtp sourceGeneration rewritten => trivial
    | retransmission cached built => trivial
    | senderReport report compound =>
        rw [hcontent] at hsaid
        cases hsaid
    | bye targetSsrc report compound =>
        rw [hcontent] at hsaid
        cases hsaid

theorem reports (h : Accounts sent t) {d : SentDatagram} {ssrc : UInt32}
    {sender : OutboundRtcpSenderState} {timing : OutboundRtcpSenderTiming}
    (hd : ReportsOn now ssrc sender timing d t t') : Accounts (sent ++ [d]) t' := by
  have haccount := h.senders ssrc sender hd.found
  obtain ⟨compound, hbuilt, hcontent⟩ := hd.said
  have hfields : d.content.rtpFields = none := by rw [hcontent]; rfl
  have hreport : d.content.report = some (makeSenderReport sender timing) := by rw [hcontent]; rfl
  refine ⟨fun ssrc' sender' hfound => ?_, fun ssrc' => ?_, h.wire.concat ?_⟩
  · rw [hd.senders ssrc'] at hfound
    split_ifs at hfound with heq
    · rw [heq, ← Option.some.inj hfound]
      exact haccount.reported hfields hreport
    · refine (h.senders ssrc' sender' hfound).other hfields fun report hsaid => ?_
      rw [hreport] at hsaid
      rw [← Option.some.inj hsaid]
      exact fun hown => heq (hown.symm.trans haccount.targetSsrc)
  · rw [hd.reports ssrc', answerableReports_concat, answerable_senderReport ssrc' hcontent]
    have hown : (makeSenderReport sender timing).senderSsrc = ssrc := haccount.targetSsrc
    rw [hown]
    by_cases heq : ssrc' = ssrc
    · rw [if_pos heq, if_pos heq.symm, rtake_remember, h.remembered ssrc', hd.sentAt]
      exact rtake_concat_rtake _ _ 15
    · rw [if_neg heq, if_neg (Ne.symm heq), Option.toList_none, List.append_nil]
      exact h.remembered ssrc'
  · unfold ReadsTrue
    rw [hcontent]
    obtain ⟨hused, hfresh⟩ := dueTiming_some hd.due
    obtain ⟨packet, hparse, hcollected⟩ := read_collected (built_senderReport hbuilt)
    have hown : (makeSenderReport sender timing).senderSsrc = ssrc := haccount.targetSsrc
    refine ⟨?_, packet, _, hparse, hcollected.reportPackets, rfl, haccount.tellsOf hused timing⟩
    rw [hown, ← haccount.last]
    exact hfresh

theorem leaves (h : Accounts sent t) {d : SentDatagram} {ssrc : UInt32}
    {sender : OutboundRtcpSenderState} {timing : Option OutboundRtcpSenderTiming}
    (hd : LeavesWith now ssrc sender timing d t t') : Accounts (sent ++ [d]) t' := by
  have haccount := h.senders ssrc sender hd.found
  obtain ⟨reason, compound, hbuilt, hcontent⟩ := hd.said
  have hfields : d.content.rtpFields = none := by rw [hcontent]; rfl
  have hreport : d.content.report = timing.map (makeSenderReport sender) := by rw [hcontent]; rfl
  refine ⟨fun ssrc' sender' hfound => ?_, fun ssrc' => ?_, h.wire.concat ?_⟩
  · rw [hd.senders ssrc'] at hfound
    split_ifs at hfound with heq
    · rw [heq, ← Option.some.inj hfound]
      cases timing with
      | none =>
          refine haccount.other hfields fun report hsaid => ?_
          rw [hreport] at hsaid
          cases hsaid
      | some timing => exact haccount.reported hfields hreport
    · refine (h.senders ssrc' sender' hfound).other hfields fun report hsaid => ?_
      rw [hreport] at hsaid
      obtain ⟨timing', -, rfl⟩ := Option.map_eq_some_iff.mp hsaid
      exact fun hown => heq (hown.symm.trans haccount.targetSsrc)
  · have hnone : d.answerable ssrc' = none := by
      unfold SentDatagram.answerable
      rw [hcontent]
    rw [hd.reports ssrc', answerableReports_concat, hnone, Option.toList_none, List.append_nil]
    exact h.remembered ssrc'
  · unfold ReadsTrue
    rw [hcontent]
    obtain ⟨packet, hparse, hcollected⟩ := read_collected (built_bye hbuilt)
    have hbyes : packet.byePackets.map RtcpByePacket.ssrcs = [[ssrc]] := by
      rw [hcollected.byePackets, ← haccount.targetSsrc]
      cases timing <;> rfl
    cases timing with
    | none =>
        exact ⟨packet, _, hparse, hcollected.reportPackets, haccount.targetSsrc, hbyes,
          .inr ⟨rfl, rfl, rfl⟩⟩
    | some timing =>
        exact ⟨packet, _, hparse, hcollected.reportPackets, haccount.targetSsrc, hbyes,
          .inl (haccount.tellsOf hd.used timing)⟩

theorem run {events : List OutboundEvent} {w : Outbound} (h : Outbound.system.Run events w) :
    Accounts w.sent w.transport := by
  refine @Outbound.run_kept (fun _ sent t => Accounts sent t) ?_ ?_ ?_ _ _ h
  · intro now streamId sessionId target
    exact accounts_create streamId sessionId target
  · intro now now' sent t _ haccounts
    exact haccounts
  · intro now t more t' hemits sent haccounts
    exact @Emits.kept now Accounts (fun hsame _ hkept => hkept.silent hsame)
      (fun hd hkept => hkept.forwards hd) (fun hd hkept => hkept.reports hd)
      (fun hd hkept => hkept.leaves hd) _ _ _ hemits sent haccounts

end Accounts

/-- In every run, what is read in a datagram of reports is true: a sender report counts the packets
and the payload bytes which were sent under its SSRC before it, and does not repeat the timestamps
of the report before. -/
theorem run_reports_true {events : List OutboundEvent} {w : Outbound}
    (h : Outbound.system.Run events w) : EachAfter ReadsTrue w.sent :=
  (Accounts.run h).wire

theorem run_reports_true_played : ∃ w, Outbound.system.Run played w ∧ w.sent.length = 4 ∧
    EachAfter ReadsTrue w.sent := by
  obtain ⟨w, hrun, hsent⟩ := @played_run (fun w => decide (w.sent.length = 4)) (by decide +kernel)
  exact ⟨w, hrun, of_decide_eq_true hsent, run_reports_true hrun⟩

/-- The report a round-trip time is counted from, in what is remembered and in what was sent. -/
theorem find?_named {sent : List SentDatagram} {ssrc : UInt32}
    {remembered : List SentRtcpSenderReport}
    (h : remembered.map answerName =
      (answerableReports ssrc sent).rtake kSenderReportHistorySize) (name : UInt32) (sentAt : ℤ) :
    ((remembered.reverse.find? fun report => decide (report.compactNtp = name)).map answerName =
        some (name, sentAt)) ↔
      ∃ older newer, answerableReports ssrc sent = older ++ (name, sentAt) :: newer ∧
        newer.length < 16 ∧ ∀ later ∈ newer, later.1 ≠ name := by
  have hnames : (remembered.reverse.find? fun report => decide (report.compactNtp = name)).map
      answerName = ((answerableReports ssrc sent).rtake 16).reverse.find? fun report =>
        decide (report.1 = name) := by
    rw [← show kSenderReportHistorySize = 16 from rfl, ← h, ← List.map_reverse, List.find?_map]
    rfl
  rw [hnames, find?_newest]
  simp only [decide_true, true_and, decide_eq_false_iff_not, ne_eq]

/-- The delay of a report block in microseconds. -/
def receiverDelay (block : RtcpReportBlock) : ℤ :=
  block.delaySinceLastSenderReport.toNat * 1000000 / 65536

/-- In every run, a report block has a round-trip time exactly when it names one of the last sixteen
sender reports of its sender. The time is counted from the newest report with that name. -/
theorem run_round_trip {events : List OutboundEvent} {w : Outbound}
    (h : Outbound.system.Run events w) (ssrc : UInt32) (now : ℤ) (block : RtcpReportBlock)
    (roundTrip : ℕ) :
    (w.transport.reportState ssrc).roundTripTimeMs now block = some roundTrip ↔
      block.lastSenderReport ≠ 0 ∧ ∃ older newer sentAt,
        answerableReports ssrc w.sent = older ++ (block.lastSenderReport, sentAt) :: newer ∧
        newer.length < 16 ∧ (∀ later ∈ newer, later.1 ≠ block.lastSenderReport) ∧
        receiverDelay block ≤ (now - sentAt).tdiv 1000 ∧
        roundTrip = (((now - sentAt).tdiv 1000 - receiverDelay block) / 1000).toNat := by
  have hnewest := find?_named ((Accounts.run h).remembered ssrc) block.lastSenderReport
  generalize (w.transport.reportState ssrc) = state at hnewest ⊢
  unfold ReportState.roundTripTimeMs
  simp only
  split_ifs with hzero
  · simp [hzero]
  rw [and_iff_right hzero]
  cases hfound : state.sentSenderReports.reverse.find? fun sent =>
      decide (sent.compactNtp = block.lastSenderReport) with
  | none =>
      refine iff_of_false (by simp) ?_
      rintro ⟨older, newer, sentAt, hsplit, hfew, hnot, -, -⟩
      have hname := (hnewest sentAt).mpr ⟨older, newer, hsplit, hfew, hnot⟩
      rw [hfound] at hname
      cases hname
  | some report =>
      have hname : answerName report = (block.lastSenderReport, report.sentAt) := by
        have hmeets := List.find?_some hfound
        rw [answerName, of_decide_eq_true hmeets]
      have hreport := hnewest report.sentAt
      rw [hfound, Option.map_some, hname, eq_self_iff_true, true_iff] at hreport
      have hunique : ∀ older newer sentAt,
          answerableReports ssrc w.sent = older ++ (block.lastSenderReport, sentAt) :: newer →
          newer.length < 16 → (∀ later ∈ newer, later.1 ≠ block.lastSenderReport) →
          report.sentAt = sentAt := by
        intro older newer sentAt hsplit hfew hnot
        have hsame := (hnewest sentAt).mpr ⟨older, newer, hsplit, hfew, hnot⟩
        rw [hfound, Option.map_some, hname] at hsame
        exact (Prod.mk.inj (Option.some.inj hsame)).2
      simp only
      split_ifs with hearly
      · refine iff_of_false (by simp) ?_
        rintro ⟨older, newer, sentAt, hsplit, hfew, hnot, hlate, -⟩
        obtain rfl := hunique older newer sentAt hsplit hfew hnot
        exact absurd hearly (not_lt.mpr hlate)
      · constructor
        · intro hcounted
          obtain ⟨older, newer, hsplit, hfew, hnot⟩ := hreport
          exact ⟨older, newer, report.sentAt, hsplit, hfew, hnot, not_lt.mp hearly,
            (Option.some.inj hcounted).symm⟩
        · rintro ⟨older, newer, sentAt, hsplit, hfew, hnot, -, rfl⟩
          obtain rfl := hunique older newer sentAt hsplit hfew hnot
          rfl

/-- An answer thirty milliseconds after the report. -/
theorem run_round_trip_played : ∃ w older newer sentAt, Outbound.system.Run played w ∧
    answerableReports 1 w.sent = older ++ (458752, sentAt) :: newer := by
  let answer : RtcpReportBlock := { lastSenderReport := 458752 }
  obtain ⟨w, hrun, hcounted⟩ := @played_run (fun w => decide
    ((w.transport.reportState 1).roundTripTimeMs 31000000 answer = some 30)) (by decide +kernel)
  obtain ⟨-, older, newer, sentAt, hsplit, -⟩ :=
    (run_round_trip hrun 1 31000000 answer 30).mp (of_decide_eq_true hcounted)
  exact ⟨w, older, newer, sentAt, hrun, hsplit⟩

end SimpleWebrtc.WhepOutbound
