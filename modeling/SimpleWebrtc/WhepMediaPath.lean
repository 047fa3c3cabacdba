import SimpleWebrtc.RouterRuns
import SimpleWebrtc.RtcpCompoundPacket
import SimpleWebrtc.RtpRetransmissionCache
import SimpleWebrtc.SrtpTransport
import SimpleWebrtc.TransportFeedbackHistory
import SimpleWebrtc.VideoKeyframeDetector
import SimpleWebrtc.WhepSessionTransport

/-!
# The packet path of a WHEP session

What a subscriber's transport does with a packet of its publisher. A packet that
was sent leaves its traces in the retransmission cache, in the history of
transport-wide numbers and with its sender; a video packet also moves the
keyframe recovery on, which calls the router. The SRTP transport is met through
what it answers.
-/
namespace SimpleWebrtc.RtpRewriter.Impl

/-- The first section with the target SSRC decides, and in it the first primary mapping. -/
def nackEnabled (s : Impl) (targetSsrc : UInt32) (targetPayloadType : UInt8) : Bool :=
  (s.findTarget targetSsrc).any fun found =>
    (findPrimaryMapping found.2.mapping targetPayloadType).any fun payloadType => payloadType.nack

end SimpleWebrtc.RtpRewriter.Impl

namespace SimpleWebrtc.VideoKeyframeDetector.VideoKeyframeTracker

def reset (t : VideoKeyframeTracker) (ssrc : UInt32) : VideoKeyframeTracker :=
  ⟨t.activeFramesBySsrc.erase ssrc⟩

end SimpleWebrtc.VideoKeyframeDetector.VideoKeyframeTracker

namespace SimpleWebrtc.WhepSession.WhepSessionTransport
open RtpRewriter
variable (t : WhepSessionTransport)

/-- A packet that was sent under a target SSRC is counted with its sender, if there is one. -/
def countOutboundRtp (targetSsrc : UInt32) (payloadSize : ℕ) (targetTimestamp : UInt32) :
    WhepSessionTransport :=
  { t with
    outboundRtcpSenders := t.outboundRtcpSenders.mapValues fun ssrc sender =>
      if ssrc = targetSsrc then
        { sender with
          packetCount := sender.packetCount + 1
          octetCount := sender.octetCount + payloadSize
          lastTargetRtpTimestamp :=
            if sender.lastTargetRtpTimestamp.all fun last => timestampIsNewer targetTimestamp last
            then some targetTimestamp
            else sender.lastTargetRtpTimestamp }
      else sender }

/-- A sender without a timing takes the one that is known of the packet's source. -/
def recordOutboundRtpSent (rewritten : RewriteResult) : WhepSessionTransport :=
  let t := t.countOutboundRtp rewritten.targetSsrc rewritten.payloadSize rewritten.targetTimestamp
  match t.outboundRtcpSenders.find? rewritten.targetSsrc with
  | none => t
  | some sender =>
      if sender.senderTiming.isNone && (t.publisherSenderTimings.find? rewritten.sourceSsrc).isSome
      then t.refreshSenderTiming rewritten.sourceSsrc
      else t

/-- A request for a keyframe of a source, unless it is not needed: the context to dispatch. The
tracker of the target is reset where a request is forced. -/
def prepareKeyframeRequest (sourceGeneration : ℕ) (sourceSsrc targetSsrc : UInt32)
    (forceDispatch coalesceIfWaiting : Bool) :
    WhepSessionTransport × Option KeyframeRequestContext :=
  match t.publisherSource with
  | none => (t, none)
  | some source =>
      let alreadyWaiting := decide (sourceSsrc ∈ t.keyframeWaitingSourceSsrcs)
      let ready := decide (sourceSsrc ∈ t.keyframeReadySourceSsrcs)
      if sourceGeneration = 0 ∨ sourceSsrc = 0 ∨ targetSsrc = 0 ∨
          sourceGeneration ≠ t.publisherSourceGeneration then (t, none)
      else if coalesceIfWaiting && alreadyWaiting then (t, none)
      else if !forceDispatch && ready then (t, none)
      else
        let waiting : WhepSessionTransport :=
          { t with
            keyframeWaitingSourceSsrcs := insert sourceSsrc t.keyframeWaitingSourceSsrcs
            keyframeReadySourceSsrcs :=
              if forceDispatch then t.keyframeReadySourceSsrcs.erase sourceSsrc
              else t.keyframeReadySourceSsrcs }
        if alreadyWaiting && !forceDispatch then (waiting, none)
        else
          (waiting, some
            { publisherSessionId := source.sessionId
              sourceGeneration
              sourceSsrc
              targetSsrc })

end SimpleWebrtc.WhepSession.WhepSessionTransport

namespace SimpleWebrtc.WhepMedia
open Library Library.Text RtpPacket RtpRewriter RewrittenExtensions MediaFanout WhepSession
  RtpRetransmissionCache TransportFeedbackHistory VideoKeyframeDetector Srtp

/-- A transport with what it keeps of the packets it sent and of the frames that arrive. -/
structure MediaTransport where
  session : WhepSessionTransport
  keyframeTracker : VideoKeyframeTracker := {}
  retransmissionCache : Cache := RtpRetransmissionCache.create {}
  transportFeedbackHistory : SendHistory :=
    { maximumHistoryAge := 2000, maximumHistoryPackets := 32768 }

/-- What the SRTP transport answers during an event: whether the peer is ready, and what becomes
of each packet it is given to protect. -/
structure SrtpAnswers where
  peerReady : Except Text Bool
  protect : ℕ → Except Text SrtpPacketProcessResult

/-- The datagram of a packet which was protected. -/
def protectedDatagram (answer : Except Text SrtpPacketProcessResult) : Option (List UInt8) :=
  match answer with
  | .error _ => none
  | .ok result =>
      if result.state = .protectedPacket ∧ result.protectedPacket ≠ [] then
        some result.protectedPacket
      else none

/-- Whether a packet has a payload besides its padding. -/
def carriesMedia (plainRtp : List UInt8) : Bool :=
  match inspectRtpPacketLayout plainRtp with
  | .error _ => false
  | .ok layout =>
      !(layout.padding && decide (layout.mediaPayloadSize = 0)) &&
        decide (layout.mediaPayloadSize ≠ 0)

namespace MediaTransport
variable (t : MediaTransport)

/-! ## Sending a packet -/

/-- The checks of a packet before it is rewritten. -/
def accepts (srtp : SrtpAnswers) (sourceGeneration : ℕ) (plainRtp : List UInt8) : Bool :=
  carriesMedia plainRtp && !t.session.closed && t.session.selectedRemoteEndpoint.isSome &&
    (match srtp.peerReady with
      | .error _ => false
      | .ok ready => ready) &&
    decide (sourceGeneration = t.session.publisherSourceGeneration)

def rememberSent (now : ℤ) (packetSize : ℕ) (rtx : Bool) (transportSequenceNumber : Option UInt16) :
    MediaTransport :=
  if transportSequenceNumber.isSome then
    { t with
      transportFeedbackHistory := t.transportFeedbackHistory.rememberSent
        { packetSize
          retransmission := rtx
          sentAt := now } }
  else t

def cacheRewrittenRtp (now : ℤ) (sourceGeneration : ℕ) (rewritten : RewriteResult) :
    MediaTransport :=
  if rewritten.rtx || rewritten.packet.isEmpty ||
      !t.session.rtpRewriter.nackEnabled rewritten.targetSsrc rewritten.targetPayloadType then t
  else
    { t with
      retransmissionCache := t.retransmissionCache.remember
        { packet := rewritten.packet
          targetSsrc := rewritten.targetSsrc
          targetPayloadType := rewritten.targetPayloadType
          targetSequenceNumber := rewritten.targetSequenceNumber
          targetTimestamp := rewritten.targetTimestamp
          payloadSize := rewritten.payloadSize
          sourceGeneration
          storedAt := now } now }

/-- What a packet leaves behind once its datagram is handed to the UDP server. -/
def recordSent (now : ℤ) (sourceGeneration : ℕ) (datagram : List UInt8)
    (rewritten : RewriteResult) : MediaTransport :=
  let t := t.rememberSent now datagram.length rewritten.rtx rewritten.transportSequenceNumber
  let t := t.cacheRewrittenRtp now sourceGeneration rewritten
  { t with session := t.session.recordOutboundRtpSent rewritten }

/-- The part of `send_rtp` before the keyframe recovery, with the packet that was sent. -/
def forwardRtp (now : ℤ) (srtp : SrtpAnswers) (sourceGeneration : ℕ) (plainRtp : List UInt8) :
    MediaTransport × Option RewriteResult :=
  if t.accepts srtp sourceGeneration plainRtp then
    let (rtpRewriter, result) :=
      t.session.rtpRewriter.rewrite plainRtp t.transportFeedbackHistory.nextSequenceNumber
    let t := { t with session := { t.session with rtpRewriter } }
    match result with
    | .error _ => (t, none)
    | .ok rewritten =>
        if rewritten.state ≠ .rewritten ∨ rewritten.packet = [] then (t, none)
        else
          match protectedDatagram (srtp.protect 0) with
          | none => (t, none)
          | some datagram =>
              (t.recordSent now sourceGeneration datagram rewritten, some rewritten)
  else (t, none)

/-! ## The keyframe recovery -/

def resetKeyframeRecovery : MediaTransport :=
  { t with session := t.session.resetKeyframeRecovery, keyframeTracker := {} }

def prepareKeyframeRequest (sourceGeneration : ℕ) (sourceSsrc targetSsrc : UInt32)
    (forceDispatch coalesceIfWaiting : Bool) : MediaTransport × Option KeyframeRequestContext :=
  let (session, context) := t.session.prepareKeyframeRequest sourceGeneration sourceSsrc targetSsrc
    forceDispatch coalesceIfWaiting
  ({ t with
      session
      keyframeTracker :=
        if forceDispatch && context.isSome then t.keyframeTracker.reset targetSsrc
        else t.keyframeTracker }, context)

/-- The two contexts a video packet may leave: of a request it completed, and of one to make. -/
structure RecoveryStep where
  transport : MediaTransport
  completed : Option KeyframeRequestContext := none
  request : Option KeyframeRequestContext := none

/-- A keyframe of the source is complete. -/
def completeKeyframe (source : MediaPublisherSource) (sourceGeneration : ℕ)
    (rewritten : RewriteResult) : RecoveryStep where
  transport :=
    { t with
      session := { t.session with
        keyframeReadySourceSsrcs := insert rewritten.sourceSsrc t.session.keyframeReadySourceSsrcs
        keyframeWaitingSourceSsrcs :=
          t.session.keyframeWaitingSourceSsrcs.erase rewritten.sourceSsrc } }
  completed :=
    if rewritten.sourceSsrc ∈ t.session.keyframeReadySourceSsrcs then none
    else some
      { publisherSessionId := source.sessionId
        sourceGeneration
        sourceSsrc := rewritten.sourceSsrc
        targetSsrc := rewritten.targetSsrc }

/-- What the detector's observation of a packet means for the recovery. -/
def observeKeyframe (source : MediaPublisherSource) (sourceGeneration : ℕ)
    (rewritten : RewriteResult) : RecoveryStep :=
  match t.keyframeTracker.observe rewritten.codecName rewritten.packet with
  | (.error _, tracker) =>
      { transport := { t with keyframeTracker := tracker.reset rewritten.targetSsrc } }
  | (.ok observation, tracker) =>
      let t := { t with keyframeTracker := tracker }
      match observation.state with
      | .completed => t.completeKeyframe source sourceGeneration rewritten
      | .aborted =>
          let (t, request) := t.prepareKeyframeRequest sourceGeneration rewritten.sourceSsrc
            rewritten.targetSsrc true false
          { transport := t, request }
      | .none | .started | .unsupportedCodec => { transport := t }

/-- A source without a complete keyframe is asked for one. -/
def RecoveryStep.askUnlessReady (step : RecoveryStep) (sourceGeneration : ℕ)
    (rewritten : RewriteResult) : RecoveryStep :=
  if rewritten.sourceSsrc ∉ step.transport.session.keyframeReadySourceSsrcs ∧
      step.request.isNone = true then
    let (t, request) := step.transport.prepareKeyframeRequest sourceGeneration
      rewritten.sourceSsrc rewritten.targetSsrc false false
    { step with transport := t, request }
  else step

end MediaTransport

/-- A transport next to the router it calls. -/
structure Recovering where
  routing : RouterState
  transport : MediaTransport

namespace Recovering
variable (w : Recovering)

def cancelKeyframeRecovery : Recovering where
  routing := w.routing.perform (.cancelKeyframeRequests w.transport.session.sessionId)
  transport := w.transport.resetKeyframeRecovery

/-- The source is still the one a context was made for. -/
def isCurrent (context : KeyframeRequestContext) : Bool :=
  decide (context.sourceGeneration = w.transport.session.publisherSourceGeneration) &&
    w.transport.session.publisherSource.any fun source =>
      decide (source.sessionId = context.publisherSessionId)

/-- A request the router does not take is waited for no longer. -/
def dispatchKeyframeRequest (context : KeyframeRequestContext) : Recovering :=
  let session := w.transport.session
  if w.isCurrent context && decide (context.sourceSsrc ∈ session.keyframeWaitingSourceSsrcs) then
    match w.routing.router.requestKeyframe session.streamId session.sessionId
        context.publisherSessionId context.sourceGeneration context.sourceSsrc with
    | some _ =>
        { w with
          routing := w.routing.perform (.requestKeyframe session.streamId session.sessionId
            context.publisherSessionId context.sourceGeneration context.sourceSsrc) }
    | none =>
        { w with
          transport := { w.transport with
            session := { session with
              keyframeWaitingSourceSsrcs :=
                session.keyframeWaitingSourceSsrcs.erase context.sourceSsrc } } }
  else w

def completeKeyframeRequest (context : KeyframeRequestContext) : Recovering :=
  let session := w.transport.session
  if w.isCurrent context && decide (context.sourceSsrc ∈ session.keyframeReadySourceSsrcs) then
    { w with
      routing := w.routing.perform (.completeKeyframeRequest session.streamId session.sessionId
        context.publisherSessionId context.sourceGeneration context.sourceSsrc) }
  else w

/-- A new source makes what was waited for at the old one pointless. -/
def beginRecovery (rewritten : RewriteResult) : Recovering :=
  if rewritten.keyframeRequestNeeded then w.cancelKeyframeRecovery else w

def finishRecovery (step : MediaTransport.RecoveryStep) : Recovering :=
  let w : Recovering := { w with transport := step.transport }
  let w := match step.completed with
    | some context => w.completeKeyframeRequest context
    | none => w
  match step.request with
  | some context => w.dispatchKeyframeRequest context
  | none => w

/-- The part of `send_rtp` which follows the keyframes of a video source. -/
def followKeyframes (sourceGeneration : ℕ) (rewritten : RewriteResult) : Recovering :=
  match w.transport.session.publisherSource with
  | none => w
  | some source =>
      if rewritten.kind ≠ ascii "video" ∨ rewritten.rtx = true ∨
          sourceGeneration ≠ w.transport.session.publisherSourceGeneration then w
      else
        let w := w.beginRecovery rewritten
        let observed := w.transport.observeKeyframe source sourceGeneration rewritten
        w.finishRecovery (observed.askUnlessReady sourceGeneration rewritten)

def sendRtp (now : ℤ) (srtp : SrtpAnswers) (sourceGeneration : ℕ) (plainRtp : List UInt8) :
    Recovering :=
  match w.transport.forwardRtp now srtp sourceGeneration plainRtp with
  | (t, none) => { w with transport := t }
  | (t, some rewritten) =>
      { w with transport := t }.followKeyframes sourceGeneration rewritten

end Recovering
end SimpleWebrtc.WhepMedia
