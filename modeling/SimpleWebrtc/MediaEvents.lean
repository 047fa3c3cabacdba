import SimpleWebrtc.MediaSystem
import SimpleWebrtc.RtcpCompoundPacket

/-!
# What happens to the router and its subscribers

The feedback a subscriber sends, the endpoint it moves to and the sources its
stream gets, next to the packets, BYEs and retries. Every handler runs to its end
before the next event, so an event is one step of the whole system.
-/
namespace SimpleWebrtc.WhepMedia
open Library Library.Text SdpSummary RtcpCompoundPacket RtcpFeedback MediaFanout WhepSession

/-! ## Keyframe feedback -/

inductive InboundKeyframeFeedbackType where
  | pli
  | fir
deriving DecidableEq

structure InboundKeyframeFeedback where
  type : InboundKeyframeFeedbackType := .pli
  senderSsrc : UInt32
  targetSsrc : UInt32
  firSequenceNumber : UInt8 := 0

/-- The keyframes a compound asks for, in the order of its blocks. -/
def inboundKeyframeFeedback (compound : RtcpCompoundPacket) : List InboundKeyframeFeedback :=
  compound.blocks.flatMap fun block =>
    if block.feedbackName = "pli" ∧ block.hasKeyframeRequest = true then
      [{ senderSsrc := block.feedbackSenderSsrc, targetSsrc := block.feedbackMediaSsrc }]
    else if block.feedbackName ≠ "fir" then []
    else
      block.firEntries.map fun entry =>
        { type := .fir
          senderSsrc := block.feedbackSenderSsrc
          targetSsrc := entry.mediaSsrc
          firSequenceNumber := entry.sequenceNumber }

/-- Only a primary video sender is asked for keyframes, and only of the source bound to it. -/
def keyframeFeedbackSource (t : WhepSessionTransport) (targetSsrc : UInt32) : Option UInt32 :=
  if targetSsrc = 0 then none
  else
    match t.outboundRtcpSenders.find? targetSsrc with
    | none => none
    | some sender =>
        if sender.rtx = true ∨ sender.kind ≠ ascii "video" then none
        else t.rtpRewriter.sourceSsrcForTargetSsrc targetSsrc

/-- The loop over the feedback of a compound: the sources it has asked for, and the requests to
dispatch. -/
structure FeedbackStep where
  transport : MediaTransport
  requestedSourceSsrcs : Finset UInt32 := ∅
  requests : List KeyframeRequestContext := []

/-- A repeated FIR command is ignored, and a source is asked for once. -/
def FeedbackStep.accept (step : FeedbackStep) (feedback : InboundKeyframeFeedback) :
    FeedbackStep :=
  let session := step.transport.session
  match keyframeFeedbackSource session feedback.targetSsrc with
  | none => step
  | some sourceSsrc =>
      let (firSequenceTracker, accepted) :=
        match feedback.type with
        | .pli => (session.firSequenceTracker, true)
        | .fir => session.firSequenceTracker.accept feedback.senderSsrc feedback.targetSsrc
            feedback.firSequenceNumber
      if accepted = false then step
      else
        let t := { step.transport with session := { session with firSequenceTracker } }
        if sourceSsrc ∈ step.requestedSourceSsrcs then { step with transport := t }
        else
          let (t, request) := t.prepareKeyframeRequest session.publisherSourceGeneration sourceSsrc
            feedback.targetSsrc true true
          { transport := t
            requestedSourceSsrcs := insert sourceSsrc step.requestedSourceSsrcs
            requests := step.requests ++ request.toList }

/-- The part of `handle_inbound_rtcp` about keyframes: all requests are prepared before the first
one is dispatched. -/
def Recovering.handleKeyframeFeedback (compound : RtcpCompoundPacket) (w : Recovering) :
    Recovering :=
  let step := (inboundKeyframeFeedback compound).foldl FeedbackStep.accept ⟨w.transport, ∅, []⟩
  step.requests.foldl Recovering.dispatchKeyframeRequest { w with transport := step.transport }

/-! ## Nomination -/

/-- A nomination; `rebound` tells what came of moving the association from the endpoint before. -/
def Recovering.nominate (endpoint : Stun.UdpEndpoint) (rebound : Except Text Bool)
    (w : Recovering) : Recovering :=
  let session := w.transport.session
  if session.selectedRemoteEndpoint = some endpoint then w
  else if session.selectedRemoteEndpoint.isSome ∧ rebound.toOption = none then w
  else
    { w with
      transport := { w.transport with
        session := { session with
          selectedRemoteEndpoint := some endpoint } } }.cancelKeyframeRecovery

namespace MediaSystem
variable (w : MediaSystem)

/-- An operation of an open transport which calls the router. -/
def recover (f : Recovering → Recovering) (transport : ℕ) : MediaSystem :=
  match w.lock transport with
  | none => w
  | some t =>
      { routing := (f ⟨w.routing, t⟩).routing
        transports := w.transports.set transport (f ⟨w.routing, t⟩).transport }

def handleKeyframeFeedback (transport : ℕ) (plainRtcp : List UInt8) : MediaSystem :=
  match parseRtcpCompoundPacket plainRtcp with
  | .error _ => w
  | .ok compound => w.recover (Recovering.handleKeyframeFeedback compound) transport

def nominate (endpoint : Stun.UdpEndpoint) (rebound : Except Text Bool) (transport : ℕ) :
    MediaSystem :=
  w.recover (Recovering.nominate endpoint rebound) transport

/-! ## Sources -/

/-- The subscribers of a stream are told of its source one after the other; the one which cannot
take it ends all sessions of its stream, in an order of its own. -/
def notifyPublisherSource (notifying closing : VisitOrder ℕ) (streamId : Text)
    (update : MediaPublisherSourceUpdate) : MediaSystem :=
  (notifying.visit (w.router.streamTransports streamId)).foldl
    (handlePublisherSource closing update) w

def setPublisherSource (notifying closing : VisitOrder ℕ) (streamId publisherSessionId : Text)
    (publisherOffer : WebrtcOfferSummary) : MediaSystem :=
  match w.router.setPublisherSource streamId publisherSessionId publisherOffer with
  | none => w
  | some (_, source) =>
      { w with
        routing := w.routing.perform (.setPublisherSource streamId publisherSessionId
          publisherOffer) }.notifyPublisherSource notifying closing streamId
        { generation := source.generation, source := some source }

def clearPublisherSource (notifying closing : VisitOrder ℕ) (streamId publisherSessionId : Text) :
    MediaSystem :=
  match w.router.clearPublisherSource streamId publisherSessionId with
  | none => w
  | some (_, generation) =>
      { w with
        routing := w.routing.perform (.clearPublisherSource streamId
          publisherSessionId) }.notifyPublisherSource notifying closing streamId { generation }

end MediaSystem

/-! ## Events -/

inductive MediaEvent where
  | join (order : VisitOrder ℕ) (streamId sessionId : Text)
      (target : RewriterConfig.WhepRtpRewriterTarget)
  | leave (transport : ℕ)
  | setPublisherSource (notifying closing : VisitOrder ℕ) (streamId publisherSessionId : Text)
      (publisherOffer : WebrtcOfferSummary)
  | clearPublisherSource (notifying closing : VisitOrder ℕ) (streamId publisherSessionId : Text)
  | publishRtp (delivery : Delivery) (streamId publisherSessionId : Text) (packet : List UInt8)
  | publishSourceBye (order : VisitOrder ℕ) (streamId publisherSessionId : Text)
      (sourceGeneration : ℕ) (sourceSsrc : UInt32) (reason : Text)
  | publishSenderTiming (order : VisitOrder ℕ) (streamId publisherSessionId : Text)
      (sourceGeneration : ℕ) (sourceSsrc : UInt32) (ntpTimestamp : UInt64)
      (sourceRtpTimestamp senderPacketCount senderOctetCount : UInt32)
  | keyframeFeedback (transport : ℕ) (plainRtcp : List UInt8)
  | nominate (transport : ℕ) (endpoint : Stun.UdpEndpoint) (rebound : Except Text Bool)
  | timerExpired (index : ℕ)
  | retryCompleted (index : ℕ)

namespace MediaSystem
variable (w : MediaSystem)

def perform : MediaEvent → MediaSystem
  | .join order streamId sessionId target => w.join order streamId sessionId target
  | .leave transport => w.closeTransport transport
  | .setPublisherSource notifying closing streamId publisherSessionId publisherOffer =>
      w.setPublisherSource notifying closing streamId publisherSessionId publisherOffer
  | .clearPublisherSource notifying closing streamId publisherSessionId =>
      w.clearPublisherSource notifying closing streamId publisherSessionId
  | .publishRtp delivery streamId publisherSessionId packet =>
      w.publishRtp delivery streamId publisherSessionId packet
  | .publishSourceBye order streamId publisherSessionId sourceGeneration sourceSsrc reason =>
      w.publishSourceBye order streamId publisherSessionId sourceGeneration sourceSsrc reason
  | .publishSenderTiming order streamId publisherSessionId sourceGeneration sourceSsrc ntpTimestamp
      sourceRtpTimestamp senderPacketCount senderOctetCount =>
      w.publishSenderTiming order streamId publisherSessionId sourceGeneration sourceSsrc
        ntpTimestamp sourceRtpTimestamp senderPacketCount senderOctetCount
  | .keyframeFeedback transport plainRtcp => w.handleKeyframeFeedback transport plainRtcp
  | .nominate transport endpoint rebound => w.nominate endpoint rebound transport
  | .timerExpired index => { w with routing := w.routing.perform (.timerExpired index) }
  | .retryCompleted index => { w with routing := w.routing.perform (.retryCompleted index) }

/-- A session is of a named stream, and its id is drawn until no open session has it. -/
def Possible : MediaEvent → Prop
  | .join _ streamId sessionId _ => streamId ≠ [] ∧ sessionId ≠ [] ∧
      ∀ t ∈ w.transports, t.session.closed = false → t.session.sessionId ≠ sessionId
  | _ => True

instance (event : MediaEvent) : Decidable (w.Possible event) := by
  unfold Possible
  split <;> infer_instance

def step (event : MediaEvent) : Option MediaSystem :=
  if w.Possible event then some (w.perform event) else none

def system : EventSystem MediaSystem MediaEvent := .ofStep (fun w => w = {}) step

end MediaSystem
end SimpleWebrtc.WhepMedia
