import SimpleWebrtc.MediaEvents
import SimpleWebrtc.RtcpPacketBuilder

/-!
# The datagrams of a WHEP session

A subscriber's transport sends the packets of its publisher, repeats those which
a NACK asks for, and reports on its own senders. Each datagram is returned with
what it protects and the time it was sent. The router is met in whatever state it
is in, and the SRTP transport through what it answers.
-/
namespace SimpleWebrtc.WhepOutbound
open Library Library.Text RtpRewriter RtpRetransmissionCache RtcpReport RtcpCompoundPacket
  RtcpPacketBuilder MediaFanout WhepSession WhepMedia

def kSenderReportHistorySize : ℕ := 16
def kMaxRetransmissionsPerRtcpCompound : ℕ := 256
def kDefaultRtcpDatagramMtu : ℕ := 1200

structure SentRtcpSenderReport where
  compactNtp : UInt32
  sourceGeneration : ℕ
  sentAt : ℤ
deriving DecidableEq

/-- What a sender keeps of the reports it sent, and of the reports about it. -/
structure ReportState where
  senderReportBytes : ℕ := 0
  sentSenderReports : List SentRtcpSenderReport := []
  receiverReportCount : ℕ := 0
  lastReceiverReportLsr : UInt32 := 0
  lastReceiverReportDlsr : UInt32 := 0
  lastFractionLost : UInt8 := 0
  lastCumulativeLost : ℤ := 0
  lastJitter : UInt32 := 0
  lastRoundTripTimeMs : Option ℕ := none
deriving DecidableEq

/-- What a datagram protects: a packet of the publisher, one of the cache sent again, or the
reports of a sender, which a leaving session sends with a BYE. -/
inductive SentContent where
  | rtp (sourceGeneration : ℕ) (rewritten : RewriteResult)
  | retransmission (cached : CachePacket) (retransmission : RetransmissionResult)
  | senderReport (report : RtcpSenderReportData) (compound : List UInt8)
  | bye (targetSsrc : UInt32) (report : Option RtcpSenderReportData) (compound : List UInt8)
deriving DecidableEq

structure SentDatagram where
  content : SentContent
  datagram : List UInt8
  sentAt : ℤ
deriving DecidableEq

/-- A subscriber's transport with the reports of its senders, found by their target SSRC. -/
structure OutboundTransport where
  media : MediaTransport
  reports : AssocMap UInt32 ReportState := .empty

namespace OutboundTransport
variable (t : OutboundTransport)

def reportState (targetSsrc : UInt32) : ReportState := (t.reports.find? targetSsrc).getD {}

end OutboundTransport

/-! ## Packets of the publisher -/

/-- `send_rtp`. -/
def OutboundTransport.sendRtp (routing : RouterState) (now : ℤ) (srtp : SrtpAnswers)
    (sourceGeneration : ℕ) (plainRtp : List UInt8) (t : OutboundTransport) :
    OutboundTransport × List SentDatagram :=
  let sent := (t.media.forwardRtp now srtp sourceGeneration plainRtp).2
  ({ t with
      media :=
        (Recovering.sendRtp ⟨routing, t.media⟩ now srtp sourceGeneration plainRtp).transport },
    sent.toList.map fun rewritten =>
      { content := .rtp sourceGeneration rewritten
        datagram := (protectedDatagram (srtp.protect 0)).getD []
        sentAt := now })

/-! ## Packets sent again -/

/-- Only the primary SSRC of a sender is asked for packets. -/
def nackTargetValid (session : WhepSessionTransport) (targetSsrc : UInt32) : Bool :=
  decide (targetSsrc ≠ 0) &&
    (session.outboundRtcpSenders.find? targetSsrc).any fun sender => !sender.rtx

/-- The loop over the numbers a compound asks for: the cache it looks them up in, the requests it
has seen and the packets it found. -/
structure NackStep where
  retransmissionCache : Cache
  uniqueRequests : Finset UInt64 := ∅
  retransmissions : List CachePacket := []

def NackStep.request (now : ℤ) (targetValid : Bool) (targetSsrc : UInt32) (step : NackStep)
    (sequenceNumber : UInt16) : NackStep :=
  let requestKey := makeKey targetSsrc sequenceNumber
  if requestKey ∈ step.uniqueRequests then step
  else
    let step := { step with uniqueRequests := insert requestKey step.uniqueRequests }
    if targetValid = false then step
    else if kMaxRetransmissionsPerRtcpCompound ≤ step.retransmissions.length then step
    else
      let (retransmissionCache, lookup) :=
        step.retransmissionCache.lookupForRetransmission targetSsrc sequenceNumber now
      match lookup.state with
      | .hit =>
          { step with
            retransmissionCache
            retransmissions := step.retransmissions ++ lookup.packet.toList }
      | .miss | .suppressed => { step with retransmissionCache }

def NackStep.block (now : ℤ) (session : WhepSessionTransport) (step : NackStep)
    (block : RtcpCompoundBlock) : NackStep :=
  if block.hasGenericNack = false then step
  else
    block.nackSequenceNumbers.foldl
      (NackStep.request now (nackTargetValid session block.feedbackMediaSsrc)
        block.feedbackMediaSsrc) step

def requestedRetransmissions (now : ℤ) (compound : RtcpCompoundPacket) (t : MediaTransport) :
    NackStep :=
  compound.blocks.foldl (NackStep.block now t.session)
    { retransmissionCache := t.retransmissionCache }

/-- What a packet sent again leaves behind. -/
def recordRetransmission (now : ℤ) (datagram : List UInt8) (retransmission : RetransmissionResult)
    (t : MediaTransport) : MediaTransport :=
  let t := t.rememberSent now datagram.length true retransmission.transportSequenceNumber
  { t with
    session := t.session.countOutboundRtp retransmission.targetSsrc retransmission.payloadSize
      retransmission.targetTimestamp }

def sendRetransmission (now : ℤ) (answer : Except Text Srtp.SrtpPacketProcessResult)
    (t : MediaTransport) (cached : CachePacket) : MediaTransport × Option SentDatagram :=
  let (rtpRewriter, result) := t.session.rtpRewriter.buildRetransmission cached.packet
    t.transportFeedbackHistory.nextSequenceNumber
  let t := { t with session := { t.session with rtpRewriter } }
  match result with
  | .error _ => (t, none)
  | .ok retransmission =>
      if t.session.closed = true ∨ t.session.selectedRemoteEndpoint = none then (t, none)
      else
        match protectedDatagram answer with
        | none => (t, none)
        | some datagram =>
            (recordRetransmission now datagram retransmission t,
              some
                { content := .retransmission cached retransmission
                  datagram
                  sentAt := now })

/-- The packets are sent after all of them were looked up. -/
def sendRetransmissions (now : ℤ) (srtp : SrtpAnswers) :
    ℕ → List CachePacket → MediaTransport → MediaTransport × List SentDatagram
  | _, [], t => (t, [])
  | index, cached :: retransmissions, t =>
      let (t, sent) := sendRetransmission now (srtp.protect index) t cached
      let (t, more) := sendRetransmissions now srtp (index + 1) retransmissions t
      (t, sent.toList ++ more)

def handleGenericNacks (now : ℤ) (srtp : SrtpAnswers) (compound : RtcpCompoundPacket)
    (t : MediaTransport) : MediaTransport × List SentDatagram :=
  let step := requestedRetransmissions now compound t
  sendRetransmissions now srtp 0 step.retransmissions
    { t with retransmissionCache := step.retransmissionCache }

def handleTransportFeedback (now : ℤ) (compound : RtcpCompoundPacket) (t : MediaTransport) :
    MediaTransport :=
  { t with
    transportFeedbackHistory :=
      (compound.blocks.filterMap RtcpCompoundBlock.transportFeedback).foldl
        (fun history feedback => (history.observe feedback now).1) t.transportFeedbackHistory }

/-! ## Reports about the senders -/

/-- The time between a sender report and the block which answers it, without the receiver's delay.
The newest report with the timestamp of the block counts. -/
def ReportState.roundTripTimeMs (now : ℤ) (block : RtcpReportBlock) (state : ReportState) :
    Option ℕ :=
  if block.lastSenderReport = 0 then none
  else
    match state.sentSenderReports.reverse.find? fun sent =>
        decide (sent.compactNtp = block.lastSenderReport) with
    | none => none
    | some sent =>
        let elapsed := (now - sent.sentAt).tdiv 1000
        let receiverDelay : ℤ := block.delaySinceLastSenderReport.toNat * 1000000 / 65536
        if elapsed < receiverDelay then none
        else some ((elapsed - receiverDelay) / 1000).toNat

def ReportState.receive (now : ℤ) (block : RtcpReportBlock) (state : ReportState) : ReportState :=
  { state with
    receiverReportCount := state.receiverReportCount + 1
    lastReceiverReportLsr := block.lastSenderReport
    lastReceiverReportDlsr := block.delaySinceLastSenderReport
    lastFractionLost := block.fractionLost
    lastCumulativeLost := block.cumulativeLost
    lastJitter := block.jitter
    lastRoundTripTimeMs := (state.roundTripTimeMs now block).or state.lastRoundTripTimeMs }

/-- A block about an SSRC which is not a sender's is passed over. -/
def OutboundTransport.recordReportBlock (now : ℤ) (t : OutboundTransport)
    (block : RtcpReportBlock) : OutboundTransport :=
  if (t.media.session.outboundRtcpSenders.find? block.sourceSsrc).isNone then t
  else
    { t with
      reports := t.reports.insertOrAssign block.sourceSsrc
        ((t.reportState block.sourceSsrc).receive now block) }

def OutboundTransport.recordReceiverReports (now : ℤ) (reports : List RtcpReportPacket)
    (t : OutboundTransport) : OutboundTransport :=
  (reports.flatMap RtcpReportPacket.reportBlocks).foldl (recordReportBlock now) t

/-- `handle_inbound_rtcp`. -/
def OutboundTransport.handleInboundRtcp (routing : RouterState) (now : ℤ) (srtp : SrtpAnswers)
    (plainRtcp : List UInt8) (t : OutboundTransport) : OutboundTransport × List SentDatagram :=
  match parseRtcpCompoundPacket plainRtcp with
  | .error _ => (t, [])
  | .ok compound =>
      let t := t.recordReceiverReports now compound.reportPackets
      let (media, sent) := handleGenericNacks now srtp compound t.media
      let media := handleTransportFeedback now compound media
      ({ t with media := (Recovering.handleKeyframeFeedback compound ⟨routing, media⟩).transport },
        sent)

/-! ## Reports of the senders -/

/-- The timing a sender has to report: none before it sent a packet, none of another generation,
and none it reported last. -/
def dueTiming (sourceGeneration : ℕ) (sender : OutboundRtcpSenderState) :
    Option OutboundRtcpSenderTiming :=
  if sender.rtcpMux = false ∨ sender.cname = [] ∨ sender.packetCount = 0 then none
  else
    sender.senderTiming.filter fun timing =>
      decide (timing.sourceGeneration = sourceGeneration) &&
        !(decide (sender.lastSenderReportNtpTimestamp = timing.ntpTimestamp) &&
          decide (sender.lastSenderReportRtpTimestamp = timing.targetRtpTimestamp))

def makeSenderReport (sender : OutboundRtcpSenderState) (timing : OutboundRtcpSenderTiming) :
    RtcpSenderReportData where
  senderSsrc := sender.targetSsrc
  ntpTimestamp := timing.ntpTimestamp
  rtpTimestamp := timing.targetRtpTimestamp
  senderPacketCount := UInt32.ofNat sender.packetCount
  senderOctetCount := UInt32.ofNat sender.octetCount
  reportBlocks := []

def buildSenderReportDatagram (sender : OutboundRtcpSenderState)
    (report : RtcpSenderReportData) : Except String (List UInt8) := do
  let senderReport ← buildRtcpSenderReport report
  let sdes ← buildRtcpSdesCname sender.targetSsrc sender.cname
  buildRtcpCompoundPacket [senderReport, sdes] kDefaultRtcpDatagramMtu

/-- What a report which was sent leaves with its sender. -/
def reported (timing : OutboundRtcpSenderTiming) (sender : OutboundRtcpSenderState) :
    OutboundRtcpSenderState :=
  { sender with
    senderReportCount := sender.senderReportCount + 1
    lastSenderReportSourceGeneration := timing.sourceGeneration
    lastSenderReportNtpTimestamp := timing.ntpTimestamp
    lastSenderReportRtpTimestamp := timing.targetRtpTimestamp }

/-- The report is remembered among the last ones of its sender. -/
def ReportState.remember (now : ℤ) (size : ℕ) (timing : OutboundRtcpSenderTiming)
    (state : ReportState) : ReportState :=
  let sentSenderReports := state.sentSenderReports ++
    [{ compactNtp := UInt32.ofNat (timing.ntpTimestamp.toNat / 65536)
       sourceGeneration := timing.sourceGeneration
       sentAt := now }]
  { state with
    senderReportBytes := state.senderReportBytes + size
    sentSenderReports :=
      sentSenderReports.drop (sentSenderReports.length - kSenderReportHistorySize) }

namespace OutboundTransport
variable (t : OutboundTransport)

def putSender (targetSsrc : UInt32) (sender : OutboundRtcpSenderState) : OutboundTransport :=
  { t with
    media := { t.media with
      session := { t.media.session with
        outboundRtcpSenders :=
          t.media.session.outboundRtcpSenders.insertOrAssign targetSsrc sender } } }

/-- What the loop over the senders does with one of them. -/
def reportSender (now : ℤ) (answer : Except Text Srtp.SrtpPacketProcessResult)
    (targetSsrc : UInt32) : OutboundTransport × Option SentDatagram :=
  match t.media.session.outboundRtcpSenders.find? targetSsrc with
  | none => (t, none)
  | some sender =>
      match dueTiming t.media.session.publisherSourceGeneration sender with
      | none => (t, none)
      | some timing =>
          let report := makeSenderReport sender timing
          match buildSenderReportDatagram sender report with
          | .error _ => (t, none)
          | .ok compound =>
              match protectedDatagram answer with
              | none => (t, none)
              | some datagram =>
                  ({ t.putSender targetSsrc (reported timing sender) with
                      reports := t.reports.insertOrAssign targetSsrc
                        ((t.reportState targetSsrc).remember now datagram.length timing) },
                    some
                      { content := .senderReport report compound
                        datagram
                        sentAt := now })

/-- The timing a leaving sender reports, without a look at what it reported last. -/
def closingTiming (sourceGeneration : ℕ) (sender : OutboundRtcpSenderState) :
    Option OutboundRtcpSenderTiming :=
  sender.senderTiming.filter fun timing => decide (timing.sourceGeneration = sourceGeneration)

def buildClosingReport (sender : OutboundRtcpSenderState)
    (timing : Option OutboundRtcpSenderTiming) : Except String (List UInt8) :=
  match timing with
  | none => buildRtcpReceiverReport { senderSsrc := sender.targetSsrc }
  | some timing => buildRtcpSenderReport (makeSenderReport sender timing)

def buildByeDatagram (reason : Text) (sender : OutboundRtcpSenderState)
    (timing : Option OutboundRtcpSenderTiming) : Except String (List UInt8) := do
  let report ← buildClosingReport sender timing
  buildRtcpByeDatagram report sender.targetSsrc sender.cname [sender.targetSsrc] reason
    kDefaultRtcpDatagramMtu

/-- What a BYE with a sender report leaves with its sender; such a report is not remembered. -/
def leaveSender (targetSsrc : UInt32) (size : ℕ) (sender : OutboundRtcpSenderState)
    (timing : Option OutboundRtcpSenderTiming) : OutboundTransport :=
  match timing with
  | none => t
  | some timing =>
      let state := t.reportState targetSsrc
      { t.putSender targetSsrc (reported timing sender) with
        reports := t.reports.insertOrAssign targetSsrc
          { state with senderReportBytes := state.senderReportBytes + size } }

def byeSender (reason : Text) (now : ℤ) (answer : Except Text Srtp.SrtpPacketProcessResult)
    (targetSsrc : UInt32) : OutboundTransport × Option SentDatagram :=
  match t.media.session.outboundRtcpSenders.find? targetSsrc with
  | none => (t, none)
  | some sender =>
      if sender.rtcpMux = false ∨ sender.cname = [] ∨ sender.packetCount = 0 then (t, none)
      else
        let timing := closingTiming t.media.session.publisherSourceGeneration sender
        match buildByeDatagram reason sender timing with
        | .error _ => (t, none)
        | .ok compound =>
            match protectedDatagram answer with
            | none => (t, none)
            | some datagram =>
                (t.leaveSender targetSsrc datagram.length sender timing,
                  some
                    { content := .bye targetSsrc (timing.map (makeSenderReport sender)) compound
                      datagram
                      sentAt := now })

/-- A loop over the senders which may send a datagram for each of them. -/
def eachSender (send : OutboundTransport → ℕ → UInt32 → OutboundTransport × Option SentDatagram) :
    ℕ → List UInt32 → OutboundTransport → OutboundTransport × List SentDatagram
  | _, [], t => (t, [])
  | index, targetSsrc :: targetSsrcs, t =>
      let (t, sent) := send t index targetSsrc
      let (t, more) := eachSender send (index + 1) targetSsrcs t
      (t, sent.toList ++ more)

def targetSsrcs : List UInt32 := t.media.session.outboundRtcpSenders.entries.map Prod.fst

/-- Whether the SRTP transport can protect what is sent to the selected endpoint. -/
def ready (srtp : SrtpAnswers) : Bool :=
  t.media.session.selectedRemoteEndpoint.isSome &&
    match srtp.peerReady with
    | .error _ => false
    | .ok ready => ready

def sendRtcpSenderReports (order : VisitOrder UInt32) (now : ℤ) (srtp : SrtpAnswers) :
    OutboundTransport × List SentDatagram :=
  if t.media.session.closed = true ∨ t.ready srtp = false then (t, [])
  else
    eachSender (fun t index => t.reportSender now (srtp.protect index)) 0
      (order.visit t.targetSsrcs) t

def sendRtcpBye (order : VisitOrder UInt32) (reason : Text) (now : ℤ) (srtp : SrtpAnswers) :
    OutboundTransport × List SentDatagram :=
  if t.ready srtp = false then (t, [])
  else
    eachSender (fun t index => t.byeSender reason now (srtp.protect index)) 0
      (order.visit t.targetSsrcs) t

/-- The periodic summary drops what is too old, unless nothing happened since the last one. -/
def logMediaSummary (active : Bool) (now : ℤ) : OutboundTransport :=
  if active = false then t
  else
    { t with
      media := { t.media with
        retransmissionCache := (t.media.retransmissionCache.snapshot now).1
        transportFeedbackHistory := t.media.transportFeedbackHistory.expire now } }

def logFinalSummary (now : ℤ) : OutboundTransport :=
  { t with
    media := { t.media with
      transportFeedbackHistory := t.media.transportFeedbackHistory.expire now } }

/-- The handlers of a transport which closes are gone before anything is sent. -/
def beginClose : OutboundTransport :=
  { t with
    media := { t.media with
      session := { t.media.session with
        closed := true
        inactivityTimeoutHandler := none
        publisherFailureHandler := none } } }

/-- `close`: the peer is forgotten after the BYE was sent to it. -/
def close (order : VisitOrder UInt32) (reason : Text) (active : Bool) (now : ℤ)
    (srtp : SrtpAnswers) : OutboundTransport × List SentDatagram :=
  if t.media.session.closed = true then (t, [])
  else
    let (left, sent) := t.beginClose.sendRtcpBye order reason now srtp
    let left := (left.logMediaSummary active now).logFinalSummary now
    ({ left with media := { left.media with session := left.media.session.shutDown } }, sent)

end OutboundTransport
end SimpleWebrtc.WhepOutbound
