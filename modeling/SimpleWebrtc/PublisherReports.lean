import Mathlib.Data.List.Sort
import SimpleWebrtc.Library.Chunks
import SimpleWebrtc.OutboundPackets
import SimpleWebrtc.ReportedLoss
import SimpleWebrtc.WhipMediaPath

/-!
# What a publisher is told

A publisher's transport reports on the sources it hears, acknowledges the packets
which carry a transport-wide number, asks for keyframes and says goodbye. What
came in and what was sent is one log, in the order of the events.
-/
namespace SimpleWebrtc.WhipReports
open Library Library.Text SdpSummary RtpPacket RtcpReport RtcpCompoundPacket RtcpPacketBuilder
  TransportFeedbackGenerator WhipPublisher WhipMedia WhepMedia

def kMaximumRtcpReportBlocks : ℕ := 31
def kMaximumTransportFeedbackDatagramsPerInterval : ℕ := 8

/-! ## Datagrams -/

inductive PublisherContent where
  | receiverReport (report : RtcpReceiverReportData) (compound : List UInt8)
  | transportFeedback (feedback : BuiltRtcpTransportFeedback) (compound : List UInt8)
  | keyframeRequest (mediaSsrc : UInt32) (compound : List UInt8)
  | bye (compound : List UInt8)
deriving DecidableEq

structure PublisherDatagram where
  content : PublisherContent
  datagram : List UInt8
  sentAt : ℤ
deriving DecidableEq

/-- What came in, as far as it was understood, and what went out. -/
inductive PublisherEntry where
  | rtp (header : RtpPacketHeader) (context : InboundPayloadTypeContext) (plainPacket : List UInt8)
      (arrivedAt : ℤ)
  | senderReport (sourceSsrc : UInt32) (ntpTimestamp : UInt64) (receivedAt : ℤ)
  | bye (sourceSsrc : UInt32)
  | sent (datagram : PublisherDatagram)

/-- A WHIP session's transport with what its own RTCP packets are made of. -/
structure PublisherTransport where
  session : WhipSessionTransport
  rtcpMuxEnabled : Bool := false
  rtcpSenderSsrc : UInt32 := 0
  rtcpCname : Text := []
  selectedRemoteEndpoint : Option Stun.UdpEndpoint := none
  closed : Bool := false

def makeRtcpSenderSsrc (sessionId : Text) : UInt32 :=
  let hash := sessionId.foldl (fun hash value => (hash ^^^ value.toUInt32) * 16777619) 2166136261
  if hash = 0 then 1 else hash

def makeRtcpCname (sessionId : Text) : Text := ascii "sw-rx-" ++ sessionId

/-- The delay in units of 1/65536 seconds, of which a word has room for eighteen hours. -/
def makeDelaySinceLastSenderReport (now : ℤ) (receivedAt : Option ℤ) : UInt32 :=
  match receivedAt with
  | none => 0
  | some receivedAt =>
      if now ≤ receivedAt then 0
      else
        UInt32.ofNat (min (((now - receivedAt).tdiv 1000).toNat * 65536 / 1000000) 4294967295)

namespace PublisherTransport
variable (t : PublisherTransport)

/-- `set_peer_context` of a new transport. -/
def create (streamId sessionId : Text) (remoteOffer : WebrtcOfferSummary)
    (acceptedMlineIndexes : List ℕ) : PublisherTransport :=
  let remoteMedia := configureRemoteMedia remoteOffer acceptedMlineIndexes
  { session :=
      { streamId
        sessionId
        publisherSourceGeneration := 0
        inboundPayloadTypes := remoteMedia.inboundPayloadTypes }
    rtcpMuxEnabled := remoteMedia.rtcpMuxEnabled
    rtcpSenderSsrc := makeRtcpSenderSsrc sessionId
    rtcpCname := makeRtcpCname sessionId }

/-- Whether RTCP was negotiated and there is somebody to send it to. -/
def sendsRtcp : Bool :=
  t.rtcpMuxEnabled && decide (t.rtcpSenderSsrc ≠ 0) && decide (t.rtcpCname ≠ []) &&
    t.selectedRemoteEndpoint.isSome

def ready (srtp : SrtpAnswers) : Bool :=
  t.sendsRtcp &&
    match srtp.peerReady with
    | .error _ => false
    | .ok ready => ready

/-! ## Receiver reports -/

/-- The sources of which a packet was counted, in ascending order. -/
def reportedSources : List UInt32 :=
  ((t.session.inboundRtcpReceivers.entries.filter fun e =>
    e.2.receiveStatistics.sequenceInitialized).map Prod.fst).insertionSort (· ≤ ·)

end PublisherTransport

/-- The block of a source; the jitter is estimated in floating point. -/
def makeReportBlock (now : ℤ) (jitter : UInt32) (sourceSsrc : UInt32)
    (receiver : InboundRtcpReceiverState) : RtcpReportBlock :=
  let snapshot := receiver.receiveStatistics.previewReport
  { sourceSsrc
    fractionLost := snapshot.fractionLost
    cumulativeLost := snapshot.cumulativeLost
    extendedHighestSequenceNumber := snapshot.extendedHighestSequenceNumber
    jitter
    lastSenderReport := receiver.lastSenderReport
    delaySinceLastSenderReport :=
      if receiver.lastSenderReport = 0 then 0
      else makeDelaySinceLastSenderReport now receiver.lastSenderReportReceivedAt }

def buildReceiverReportDatagram (report : RtcpReceiverReportData) (cname : Text) :
    Except String (List UInt8) := do
  let receiverReport ← buildRtcpReceiverReport report
  let sdes ← buildRtcpSdesCname report.senderSsrc cname
  buildRtcpCompoundPacket [receiverReport, sdes] WhepOutbound.kDefaultRtcpDatagramMtu

namespace PublisherTransport
variable (t : PublisherTransport)

def makeReport (now : ℤ) (jitter : UInt32 → UInt32) (sourceSsrcs : List UInt32) :
    RtcpReceiverReportData where
  senderSsrc := t.rtcpSenderSsrc
  reportBlocks := sourceSsrcs.filterMap fun ssrc =>
    (t.session.inboundRtcpReceivers.find? ssrc).map (makeReportBlock now (jitter ssrc) ssrc)

/-- What a report that was sent leaves with one of its sources. -/
def commitReport (t : PublisherTransport) (sourceSsrc : UInt32) : PublisherTransport :=
  match t.session.inboundRtcpReceivers.find? sourceSsrc with
  | none => t
  | some receiver =>
      { t with
        session := t.session.keepReceiver sourceSsrc
          { receiver with receiveStatistics := receiver.receiveStatistics.commitReport } }

/-- One pass of the loop: the report of at most as many sources as a packet has room for. -/
def sendReceiverReport (now : ℤ) (jitter : UInt32 → UInt32)
    (answer : Except Text Srtp.SrtpPacketProcessResult) (sourceSsrcs : List UInt32) :
    PublisherTransport × Option PublisherDatagram :=
  let report := t.makeReport now jitter sourceSsrcs
  match buildReceiverReportDatagram report t.rtcpCname with
  | .error _ => (t, none)
  | .ok compound =>
      match protectedDatagram answer with
      | none => (t, none)
      | some datagram =>
          (sourceSsrcs.foldl commitReport t,
            some
              { content := .receiverReport report compound
                datagram
                sentAt := now })

def sendReceiverReports (now : ℤ) (jitter : UInt32 → UInt32) (srtp : SrtpAnswers) :
    ℕ → List (List UInt32) → PublisherTransport → PublisherTransport × List PublisherDatagram
  | _, [], t => (t, [])
  | index, sourceSsrcs :: more, t =>
      let (t, sent) := t.sendReceiverReport now jitter (srtp.protect index) sourceSsrcs
      let (t, others) := sendReceiverReports now jitter srtp (index + 1) more t
      (t, sent.toList ++ others)

def sendRtcpReceiverReports (now : ℤ) (jitter : UInt32 → UInt32) (srtp : SrtpAnswers) :
    PublisherTransport × List PublisherDatagram :=
  if t.closed = true ∨ t.ready srtp = false then (t, [])
  else
    sendReceiverReports now jitter srtp 0 (chunks kMaximumRtcpReportBlocks t.reportedSources) t

/-! ## Transport feedback -/

/-- Whether feedback about a source goes without a report in front of it. -/
def reducedSize (mediaSsrc : UInt32) : Bool :=
  (t.session.inboundRtcpReceivers.find? mediaSsrc).any InboundRtcpReceiverState.rtcpRsize

def commitFeedback (feedback : BuiltRtcpTransportFeedback) : PublisherTransport :=
  { t with
    session := { t.session with
      transportFeedbackGenerator := t.session.transportFeedbackGenerator.commitFeedback feedback } }

def expireFeedback (now : ℤ) : PublisherTransport :=
  { t with
    session := { t.session with
      transportFeedbackGenerator := t.session.transportFeedbackGenerator.expire now } }

/-- The loop ends with nothing pending, at its limit, or where a packet cannot be sent. -/
def sendFeedbackDatagrams (now : ℤ) (srtp : SrtpAnswers) :
    ℕ → ℕ → PublisherTransport → PublisherTransport × List PublisherDatagram
  | 0, _, t => (t, [])
  | remaining + 1, index, t =>
      if t.session.transportFeedbackGenerator.hasPendingFeedback = false then (t, [])
      else
        match t.session.transportFeedbackGenerator.previewFeedback t.rtcpSenderSsrc
            defaultPacketSize with
        | .error _ => (t, [])
        | .ok none => (t, [])
        | .ok (some feedback) =>
            match buildRtcpFeedbackDatagram feedback.packet t.rtcpSenderSsrc t.rtcpCname
                (t.reducedSize feedback.mediaSsrc) WhepOutbound.kDefaultRtcpDatagramMtu with
            | .error _ => (t, [])
            | .ok compound =>
                match protectedDatagram (srtp.protect index) with
                | none => (t, [])
                | some datagram =>
                    let (t, more) := sendFeedbackDatagrams now srtp remaining (index + 1)
                      (t.commitFeedback feedback)
                    (t,
                      { content := .transportFeedback feedback compound
                        datagram
                        sentAt := now } :: more)

def sendTransportFeedback (now : ℤ) (srtp : SrtpAnswers) :
    PublisherTransport × List PublisherDatagram :=
  let t := t.expireFeedback now
  if t.closed = true ∨ t.ready srtp = false then (t, [])
  else sendFeedbackDatagrams now srtp kMaximumTransportFeedbackDatagramsPerInterval 0 t

/-! ## Keyframe requests and the BYE -/

def sendKeyframeRequest (now : ℤ) (mediaSsrc : UInt32)
    (answer : Except Text Srtp.SrtpPacketProcessResult) : Option PublisherDatagram :=
  if t.closed = true ∨ mediaSsrc = 0 ∨ t.sendsRtcp = false then none
  else
    let compound := do
      let pli ← buildRtcpPictureLossIndication t.rtcpSenderSsrc mediaSsrc
      buildRtcpFeedbackDatagram pli t.rtcpSenderSsrc t.rtcpCname (t.reducedSize mediaSsrc)
        WhepOutbound.kDefaultRtcpDatagramMtu
    match compound with
    | .error _ => none
    | .ok compound =>
        (protectedDatagram answer).map fun datagram =>
          { content := .keyframeRequest mediaSsrc compound
            datagram
            sentAt := now }

def sendRtcpBye (reason : Text) (now : ℤ) (srtp : SrtpAnswers) : Option PublisherDatagram :=
  if t.ready srtp = false then none
  else
    let compound := do
      let receiverReport ← buildRtcpReceiverReport { senderSsrc := t.rtcpSenderSsrc }
      buildRtcpByeDatagram receiverReport t.rtcpSenderSsrc t.rtcpCname [t.rtcpSenderSsrc] reason
        WhepOutbound.kDefaultRtcpDatagramMtu
    match compound with
    | .error _ => none
    | .ok compound =>
        (protectedDatagram (srtp.protect 0)).map fun datagram =>
          { content := .bye compound
            datagram
            sentAt := now }

/-- `close`: the BYE goes out while the endpoint is still known. -/
def close (reason : Text) (now : ℤ) (srtp : SrtpAnswers) :
    PublisherTransport × List PublisherDatagram :=
  if t.closed then (t, [])
  else
    ({ t.expireFeedback now with
        closed := true
        selectedRemoteEndpoint := none }, (t.sendRtcpBye reason now srtp).toList)

/-! ## What comes in -/

/-- A packet of a payload type that is not mapped leaves no trace. -/
def hearRtp (now : ℤ) (plainPacket : List UInt8) : PublisherTransport × List PublisherEntry :=
  match parseRtpPacketHeader plainPacket with
  | .error _ => (t, [])
  | .ok header =>
      ({ t with session := t.session.recordInboundRtp header now plainPacket },
        (t.session.inboundPayloadTypes.find? header.payloadType).toList.map fun context =>
          .rtp header context plainPacket now)

def hearReport (now : ℤ) (t : PublisherTransport) (report : RtcpReportPacket) :
    PublisherTransport × List PublisherEntry :=
  match report.senderInfo with
  | none => (t, [])
  | some senderInfo =>
      let ntpTimestamp := makeNtpTimestamp senderInfo
      ({ t with
          session := t.session.updateReceiverSenderReport report.senderSsrc ntpTimestamp now },
        [.senderReport report.senderSsrc ntpTimestamp now])

def hearReports (now : ℤ) : List RtcpReportPacket → PublisherTransport →
    PublisherTransport × List PublisherEntry
  | [], t => (t, [])
  | report :: reports, t =>
      let (t, heard) := hearReport now t report
      let (t, more) := hearReports now reports t
      (t, heard ++ more)

/-- All sender reports of a compound come before its BYEs. -/
def hearRtcp (now : ℤ) (plainRtcp : List UInt8) : PublisherTransport × List PublisherEntry :=
  match parseRtcpCompoundPacket plainRtcp with
  | .error _ => (t, [])
  | .ok compound =>
      let (t, heard) := hearReports now compound.reportPackets t
      let named := namedSources compound.byePackets
      ({ t with session := (t.session.endSources named).1 },
        heard ++ named.map fun source => .bye source.sourceSsrc)

/-- A nomination; `rebound` tells what came of moving the association from the endpoint before. -/
def nominate (endpoint : Stun.UdpEndpoint) (rebound : Except Text Bool) : PublisherTransport :=
  if t.selectedRemoteEndpoint = some endpoint then t
  else if t.selectedRemoteEndpoint.isSome ∧ rebound.toOption = none then t
  else { t with selectedRemoteEndpoint := some endpoint }

end PublisherTransport

/-! ## Events -/

inductive PublisherEvent where
  | inboundRtp (now : ℤ) (plainPacket : List UInt8)
  | inboundRtcp (now : ℤ) (plainRtcp : List UInt8)
  | nominate (endpoint : Stun.UdpEndpoint) (rebound : Except Text Bool)
  | receiverReports (now : ℤ) (jitter : UInt32 → UInt32) (srtp : SrtpAnswers)
  | transportFeedback (now : ℤ) (srtp : SrtpAnswers)
  | keyframeRequest (now : ℤ) (mediaSsrc : UInt32)
      (answer : Except Text Srtp.SrtpPacketProcessResult)
  | logMediaSummary (active : Bool) (now : ℤ)
  | close (reason : Text) (now : ℤ) (srtp : SrtpAnswers)

/-- The time an event reads off the steady clock, which does not go back. -/
def PublisherEvent.at (before : ℤ) : PublisherEvent → ℤ
  | .inboundRtp now _ => now
  | .inboundRtcp now _ => now
  | .nominate _ _ => before
  | .receiverReports now _ _ => now
  | .transportFeedback now _ => now
  | .keyframeRequest now _ _ => now
  | .logMediaSummary _ now => now
  | .close _ now _ => now

namespace PublisherTransport
variable (t : PublisherTransport)

/-- A closed transport takes no packets any more. -/
def perform : PublisherEvent → PublisherTransport × List PublisherEntry
  | .inboundRtp now plainPacket => if t.closed then (t, []) else t.hearRtp now plainPacket
  | .inboundRtcp now plainRtcp => if t.closed then (t, []) else t.hearRtcp now plainRtcp
  | .nominate endpoint rebound => (t.nominate endpoint rebound, [])
  | .receiverReports now jitter srtp =>
      ((t.sendRtcpReceiverReports now jitter srtp).1,
        (t.sendRtcpReceiverReports now jitter srtp).2.map .sent)
  | .transportFeedback now srtp =>
      ((t.sendTransportFeedback now srtp).1, (t.sendTransportFeedback now srtp).2.map .sent)
  | .keyframeRequest now mediaSsrc answer =>
      (t, (t.sendKeyframeRequest now mediaSsrc answer).toList.map .sent)
  | .logMediaSummary active now => (if active then t.expireFeedback now else t, [])
  | .close reason now srtp =>
      ((t.close reason now srtp).1, (t.close reason now srtp).2.map .sent)

end PublisherTransport

/-- A publisher's transport next to the log of what it heard and sent. -/
structure PublisherWorld where
  transport : PublisherTransport
  log : List PublisherEntry := []
  now : ℤ

namespace PublisherWorld

def step (w : PublisherWorld) (event : PublisherEvent) : Option PublisherWorld :=
  if w.now ≤ event.at w.now then
    some
      { transport := (w.transport.perform event).1
        log := w.log ++ (w.transport.perform event).2
        now := event.at w.now }
  else none

def initial (w : PublisherWorld) : Prop :=
  ∃ streamId sessionId remoteOffer acceptedMlineIndexes now,
    w = { transport := .create streamId sessionId remoteOffer acceptedMlineIndexes, now }

def system : EventSystem PublisherWorld PublisherEvent := .ofStep initial step

end PublisherWorld
end SimpleWebrtc.WhipReports
