import Mathlib.Data.Finset.Basic
import SimpleWebrtc.Library.AssocMap
import SimpleWebrtc.SdpSummary

/-!
# The media fanout router

The router keeps for every stream its publisher source and for every subscriber
session the handlers it is to call. The handlers of a subscription all refer
weakly to one transport, so a subscription holds the reference, and an operation
which notifies hands out the references to notify. Keyframe requests of several
subscribers for one source are merged into one entry with a retry timer.
-/
namespace SimpleWebrtc.MediaFanout
open Library SdpSummary

structure MediaPublisherSource where
  streamId : Text
  sessionId : Text
  generation : ℕ
  offer : WebrtcOfferSummary
deriving DecidableEq

structure MediaPublisherSourceUpdate where
  generation : ℕ := 0
  source : Option MediaPublisherSource := none
deriving DecidableEq

structure MediaPublisherSenderTiming where
  publisherSessionId : Text
  sourceGeneration : ℕ := 0
  sourceSsrc : UInt32 := 0
  ntpTimestamp : UInt64 := 0
  sourceRtpTimestamp : UInt32 := 0
  senderPacketCount : UInt32 := 0
  senderOctetCount : UInt32 := 0
deriving DecidableEq

structure MediaPublisherSourceBye where
  publisherSessionId : Text
  sourceGeneration : ℕ := 0
  sourceSsrc : UInt32 := 0
  reason : Text := []
deriving DecidableEq

/-- A subscription, with the transport its handlers refer to. -/
structure Subscription where
  streamId : Text
  transport : ℕ
deriving DecidableEq

structure KeyframeRequestKey where
  streamId : Text
  publisherSessionId : Text
  sourceGeneration : ℕ
  mediaSsrc : UInt32
deriving DecidableEq

structure KeyframeRequestState where
  waitingSubscriberSessionIds : Finset Text := ∅
  nextRetryDelayIndex : ℕ := 0
  sentCount : ℕ := 0
  timerToken : ℕ := 0
  retryActive : Bool := false
deriving DecidableEq

/-- In milliseconds. -/
def kKeyframeRetryDelays : List ℕ := [200, 500, 1000, 2000]

structure MediaFanoutRouter where
  nextSourceGeneration : ℕ := 1
  subscriptionsBySessionId : AssocMap Text Subscription := AssocMap.empty
  publisherSourcesByStreamId : AssocMap Text MediaPublisherSource := AssocMap.empty
  publisherSourceGenerationsByStreamId : AssocMap Text ℕ := AssocMap.empty
  publisherSenderTimingsByStreamId :
    AssocMap Text (AssocMap UInt32 MediaPublisherSenderTiming) := AssocMap.empty
  keyframeRequests : AssocMap KeyframeRequestKey KeyframeRequestState := AssocMap.empty
deriving DecidableEq

namespace MediaFanoutRouter
variable (r : MediaFanoutRouter)

/-- The transports of a stream's subscriptions. -/
def streamTransports (streamId : Text) : List ℕ :=
  (r.subscriptionsBySessionId.values.filter fun s => decide (s.streamId = streamId)).map
    Subscription.transport

theorem mem_streamTransports {r : MediaFanoutRouter} {streamId : Text} {transport : ℕ} :
    transport ∈ r.streamTransports streamId ↔
      ∃ id, r.subscriptionsBySessionId.find? id = some ⟨streamId, transport⟩ := by
  simp only [streamTransports, List.mem_map, List.mem_filter, AssocMap.mem_values,
    decide_eq_true_eq]
  constructor
  · rintro ⟨⟨_, _⟩, ⟨⟨id, hid⟩, rfl⟩, rfl⟩
    exact ⟨id, hid⟩
  · rintro ⟨id, hid⟩
    exact ⟨_, ⟨⟨id, hid⟩, rfl⟩, rfl⟩

/-! ## Keyframe requests -/

/-- A subscriber no longer waits; entries without a waiting subscriber are dropped. -/
def cancelKeyframeRequestsForSubscriber (subscriberSessionId : Text) : MediaFanoutRouter :=
  { r with
    keyframeRequests :=
      (r.keyframeRequests.mapValues fun _ state =>
        { state with
          waitingSubscriberSessionIds :=
            state.waitingSubscriberSessionIds.erase subscriberSessionId }).filter
        fun _ state => decide (state.waitingSubscriberSessionIds ≠ ∅) }

def cancelStreamKeyframeRequests (streamId : Text) : MediaFanoutRouter :=
  { r with
    keyframeRequests := r.keyframeRequests.filter fun key _ => decide (key.streamId ≠ streamId) }

def cancelKeyframeRequests (subscriberSessionId : Text) : MediaFanoutRouter :=
  if subscriberSessionId = [] then r
  else r.cancelKeyframeRequestsForSubscriber subscriberSessionId

/-- Starts the timer of the next retry, or ends the retries when the delays are used up. -/
def scheduleKeyframeRetry (state : KeyframeRequestState) : KeyframeRequestState :=
  if kKeyframeRetryDelays.length ≤ state.nextRetryDelayIndex then
    { state with retryActive := false }
  else
    { state with
      nextRetryDelayIndex := state.nextRetryDelayIndex + 1
      timerToken := state.timerToken + 1 }

/-- The source of a stream, if it is the one which is meant. -/
def findCurrentSource (streamId publisherSessionId : Text) (sourceGeneration : ℕ) :
    Option MediaPublisherSource :=
  (r.publisherSourcesByStreamId.find? streamId).filter fun source =>
    decide (source.sessionId = publisherSessionId) && decide (source.generation = sourceGeneration)

/-- What a request does to its entry. -/
def joinKeyframeRequest (subscriberSessionId : Text) (state : KeyframeRequestState) :
    KeyframeRequestState :=
  let state := { state with
    waitingSubscriberSessionIds :=
      insert subscriberSessionId state.waitingSubscriberSessionIds }
  if state.retryActive then state
  else
    scheduleKeyframeRetry { state with
      retryActive := true
      nextRetryDelayIndex := 0
      sentCount := 1 }

/-- No value means the request was rejected. The flag says whether the publisher is asked. -/
def requestKeyframe (streamId subscriberSessionId publisherSessionId : Text)
    (sourceGeneration : ℕ) (mediaSsrc : UInt32) : Option (MediaFanoutRouter × Bool) :=
  if streamId = [] ∨ subscriberSessionId = [] ∨ publisherSessionId = [] ∨ sourceGeneration = 0 ∨
      mediaSsrc = 0 then none
  else if (r.subscriptionsBySessionId.find? subscriberSessionId).map Subscription.streamId ≠
      some streamId then none
  else match r.findCurrentSource streamId publisherSessionId sourceGeneration with
    | none => none
    | some _ =>
        let key : KeyframeRequestKey :=
          ⟨streamId, publisherSessionId, sourceGeneration, mediaSsrc⟩
        let state := (r.keyframeRequests.find? key).getD {}
        some ({ r with
          keyframeRequests :=
            r.keyframeRequests.insertOrAssign key
              (joinKeyframeRequest subscriberSessionId state) },
          !state.retryActive)

def completeKeyframeRequest (streamId subscriberSessionId publisherSessionId : Text)
    (sourceGeneration : ℕ) (mediaSsrc : UInt32) : MediaFanoutRouter :=
  if streamId = [] ∨ subscriberSessionId = [] ∨ publisherSessionId = [] ∨ sourceGeneration = 0 ∨
      mediaSsrc = 0 then r
  else
    let key : KeyframeRequestKey :=
      ⟨streamId, publisherSessionId, sourceGeneration, mediaSsrc⟩
    match r.keyframeRequests.find? key with
    | none => r
    | some state =>
        let waiting := state.waitingSubscriberSessionIds.erase subscriberSessionId
        { r with
          keyframeRequests :=
            if waiting = ∅ then r.keyframeRequests.erase key
            else r.keyframeRequests.insertOrAssign key
              { state with waitingSubscriberSessionIds := waiting } }

/-- A retry timer has expired. The value says whether the publisher is asked again. -/
def handleKeyframeRetry (key : KeyframeRequestKey) (timerToken : ℕ) : MediaFanoutRouter × Bool :=
  match r.keyframeRequests.find? key with
  | none => (r, false)
  | some state =>
      if state.timerToken ≠ timerToken ∨ state.waitingSubscriberSessionIds = ∅ then (r, false)
      else match r.findCurrentSource key.streamId key.publisherSessionId key.sourceGeneration with
        | none => ({ r with keyframeRequests := r.keyframeRequests.erase key }, false)
        | some _ =>
            ({ r with
              keyframeRequests := r.keyframeRequests.insertOrAssign key
                (scheduleKeyframeRetry { state with sentCount := state.sentCount + 1 }) }, true)

/-! ## Subscriptions -/

/-- The new subscription is told the source of its stream and the sender timings known of it. -/
def subscribe (streamId subscriberSessionId : Text) (transport : ℕ) :
    Option (MediaFanoutRouter × MediaPublisherSourceUpdate × List MediaPublisherSenderTiming) :=
  if streamId = [] ∨ subscriberSessionId = [] then none
  else
    some ({ r with
        subscriptionsBySessionId :=
          r.subscriptionsBySessionId.insertOrAssign subscriberSessionId ⟨streamId, transport⟩ },
      { generation := (r.publisherSourceGenerationsByStreamId.find? streamId).getD 0
        source := r.publisherSourcesByStreamId.find? streamId },
      ((r.publisherSenderTimingsByStreamId.find? streamId).map AssocMap.values).getD [])

def unsubscribe (subscriberSessionId : Text) : MediaFanoutRouter :=
  if subscriberSessionId = [] then r
  else match r.subscriptionsBySessionId.find? subscriberSessionId with
    | none => r
    | some _ =>
        { r.cancelKeyframeRequestsForSubscriber subscriberSessionId with
          subscriptionsBySessionId := r.subscriptionsBySessionId.erase subscriberSessionId }

/-! ## Publisher sources -/

/-- What a new source of a stream, or none, leaves of the stream's state. -/
def beginGeneration (streamId : Text)
    (sources : AssocMap Text MediaPublisherSource) : MediaFanoutRouter :=
  { r.cancelStreamKeyframeRequests streamId with
    nextSourceGeneration := r.nextSourceGeneration + 1
    publisherSourcesByStreamId := sources
    publisherSourceGenerationsByStreamId :=
      r.publisherSourceGenerationsByStreamId.insertOrAssign streamId r.nextSourceGeneration
    publisherSenderTimingsByStreamId := r.publisherSenderTimingsByStreamId.erase streamId }

/-- The new source, of which the subscriptions of its stream are to be notified. -/
def setPublisherSource (streamId publisherSessionId : Text) (publisherOffer : WebrtcOfferSummary) :
    Option (MediaFanoutRouter × MediaPublisherSource) :=
  if streamId = [] ∨ publisherSessionId = [] then none
  else
    let source : MediaPublisherSource :=
      { streamId
        sessionId := publisherSessionId
        generation := r.nextSourceGeneration
        offer := publisherOffer }
    some (r.beginGeneration streamId (r.publisherSourcesByStreamId.insertOrAssign streamId source),
      source)

/-- The generation without a source, if the stream's source is the one which is meant. -/
def clearPublisherSource (streamId publisherSessionId : Text) : Option (MediaFanoutRouter × ℕ) :=
  if streamId = [] ∨ publisherSessionId = [] then none
  else match r.publisherSourcesByStreamId.find? streamId with
    | none => none
    | some source =>
        if source.sessionId ≠ publisherSessionId then none
        else some (r.beginGeneration streamId (r.publisherSourcesByStreamId.erase streamId),
          r.nextSourceGeneration)

/-! ## What a publisher sends -/

/-- The generation under which the subscriptions of a stream get a packet, and their transports. -/
def publishRtp (streamId publisherSessionId : Text) (packet : List UInt8) :
    Option (ℕ × List ℕ) :=
  if streamId = [] ∨ publisherSessionId = [] ∨ packet = [] then none
  else match r.publisherSourcesByStreamId.find? streamId with
    | none => none
    | some source =>
        if source.sessionId ≠ publisherSessionId then none
        else some (source.generation, r.streamTransports streamId)

/-- A stream without timings has no entry. -/
def forgetSenderTiming (streamId : Text) (sourceSsrc : UInt32) :
    AssocMap Text (AssocMap UInt32 MediaPublisherSenderTiming) :=
  match r.publisherSenderTimingsByStreamId.find? streamId with
  | none => r.publisherSenderTimingsByStreamId
  | some timings =>
      if (timings.erase sourceSsrc).entries = [] then
        r.publisherSenderTimingsByStreamId.erase streamId
      else r.publisherSenderTimingsByStreamId.insertOrAssign streamId (timings.erase sourceSsrc)

/-- The notice and the transports which get it. -/
def publishSourceBye (streamId publisherSessionId : Text) (sourceGeneration : ℕ)
    (sourceSsrc : UInt32) (reason : Text) :
    Option (MediaFanoutRouter × MediaPublisherSourceBye × List ℕ) :=
  if streamId = [] ∨ publisherSessionId = [] ∨ sourceGeneration = 0 ∨ sourceSsrc = 0 then none
  else match r.findCurrentSource streamId publisherSessionId sourceGeneration with
    | none => none
    | some source =>
        some ({ r with
            publisherSenderTimingsByStreamId := r.forgetSenderTiming streamId sourceSsrc
            keyframeRequests := r.keyframeRequests.erase
              ⟨streamId, publisherSessionId, sourceGeneration, sourceSsrc⟩ },
          { publisherSessionId := source.sessionId
            sourceGeneration := source.generation
            sourceSsrc
            reason },
          r.streamTransports streamId)

/-- The timing and the transports which get it. -/
def publishSenderTiming (streamId publisherSessionId : Text) (sourceGeneration : ℕ)
    (sourceSsrc : UInt32) (ntpTimestamp : UInt64)
    (sourceRtpTimestamp senderPacketCount senderOctetCount : UInt32) :
    Option (MediaFanoutRouter × MediaPublisherSenderTiming × List ℕ) :=
  if streamId = [] ∨ publisherSessionId = [] ∨ sourceGeneration = 0 ∨ sourceSsrc = 0 then none
  else match r.findCurrentSource streamId publisherSessionId sourceGeneration with
    | none => none
    | some source =>
        let timing : MediaPublisherSenderTiming :=
          { publisherSessionId := source.sessionId
            sourceGeneration := source.generation
            sourceSsrc
            ntpTimestamp
            sourceRtpTimestamp
            senderPacketCount
            senderOctetCount }
        let timings := (r.publisherSenderTimingsByStreamId.find? streamId).getD AssocMap.empty
        some ({ r with
            publisherSenderTimingsByStreamId :=
              r.publisherSenderTimingsByStreamId.insertOrAssign streamId
                (timings.insertOrAssign sourceSsrc timing) },
          timing, r.streamTransports streamId)

end MediaFanoutRouter
end SimpleWebrtc.MediaFanout
