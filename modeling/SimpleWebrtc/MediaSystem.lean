import SimpleWebrtc.WhepMediaPath

/-!
# The router and its subscribers

The fanout router with the transports that are subscribed to its streams. What a
publisher sends is handed to the transports of its stream one after the other,
in whatever order the hash map of the subscriptions is visited, and each of them
may call the router back before the next one is told.
-/
namespace SimpleWebrtc.WhepMedia
open Library Library.Text SdpSummary MediaFanout WhepSession VideoKeyframeDetector

namespace MediaTransport

/-- The frames that arrive for the targets of a source which ended are given up. -/
def handlePublisherSourceBye (bye : MediaPublisherSourceBye) (t : MediaTransport) :
    MediaTransport :=
  let session := t.session
  let ended (targetSsrc : UInt32) : Bool :=
    (session.outboundRtcpSenders.find? targetSsrc).isSome &&
      decide (session.rtpRewriter.sourceSsrcForTargetSsrc targetSsrc = some bye.sourceSsrc)
  { t with
    session := session.handlePublisherSourceBye bye
    keyframeTracker :=
      match session.publisherSource with
      | none => t.keyframeTracker
      | some source =>
          if bye.publisherSessionId ≠ source.sessionId ∨
              bye.sourceGeneration ≠ session.publisherSourceGeneration ∨ bye.sourceSsrc = 0 then
            t.keyframeTracker
          else
            ⟨t.keyframeTracker.activeFramesBySsrc.filter fun targetSsrc _ => !ended targetSsrc⟩ }

def handlePublisherSenderTiming (timing : MediaPublisherSenderTiming) (t : MediaTransport) :
    MediaTransport :=
  { t with session := t.session.handlePublisherSenderTiming timing }

/-- The transport's part of a source update, with the flag of the source being compatible. -/
def acceptPublisherSource (update : MediaPublisherSourceUpdate) (t : MediaTransport) :
    MediaTransport × Bool :=
  ({ t with
      session := (t.session.acceptPublisherSource update).1
      keyframeTracker := {} }, (t.session.acceptPublisherSource update).2)

/-- The transport of a new session. -/
def create (streamId sessionId : Text) (target : RewriterConfig.WhepRtpRewriterTarget) :
    MediaTransport :=
  let fresh : WhepSessionTransport :=
    { inactivityTimeoutHandler := some sessionId
      publisherFailureHandler := some streamId
      rtpRewriterTarget := target }
  { session := fresh.setPeerContext streamId sessionId target }

end MediaTransport

structure MediaSystem where
  routing : RouterState := {}
  transports : List MediaTransport := []

/-- What a packet meets on its way to the subscribers: the time, the SRTP transport of each of
them, and the order in which they are visited. -/
structure Delivery where
  now : ℤ
  srtp : ℕ → SrtpAnswers
  order : VisitOrder ℕ

namespace MediaSystem
variable (w : MediaSystem)

def router : MediaFanoutRouter := w.routing.router

/-- The transport a weak reference still refers to. -/
def lock (transport : ℕ) : Option MediaTransport :=
  w.transports[transport]?.filter fun t => !t.session.closed

/-- A transport handles what the router hands it without calling back. -/
def tell (w : MediaSystem) (f : MediaTransport → MediaTransport) (transport : ℕ) : MediaSystem :=
  match w.lock transport with
  | none => w
  | some t => { w with transports := w.transports.set transport (f t) }

def sendRtp (delivery : Delivery) (sourceGeneration : ℕ) (plainRtp : List UInt8)
    (w : MediaSystem) (transport : ℕ) : MediaSystem :=
  match w.lock transport with
  | none => w
  | some t =>
      let sent := Recovering.sendRtp ⟨w.routing, t⟩ delivery.now (delivery.srtp transport)
        sourceGeneration plainRtp
      { routing := sent.routing, transports := w.transports.set transport sent.transport }

/-! ## Leaving -/

/-- `close`. -/
def closeTransport (w : MediaSystem) (transport : ℕ) : MediaSystem :=
  match w.lock transport with
  | none => w
  | some t =>
      { routing := w.routing.perform (.unsubscribe t.session.sessionId)
        transports := w.transports.set transport { t with session := t.session.shutDown } }

/-- The transports the sessions of a stream refer to. -/
def sessionTransports (streamId : Text) : List ℕ :=
  (List.range w.transports.length).filter fun transport =>
    (w.lock transport).any fun t => t.session.owned && decide (t.session.streamId = streamId)

def closeSubscribers (order : VisitOrder ℕ) (streamId : Text) : MediaSystem :=
  (order.visit (w.sessionTransports streamId)).foldl closeTransport w

/-- The handler is called once, and ends all sessions of its stream. -/
def notifyPublisherFailure (order : VisitOrder ℕ) (transport : ℕ) : MediaSystem :=
  match w.transports[transport]? with
  | none => w
  | some t =>
      let w := { w with
        transports := w.transports.set transport { t with session := t.session.takeFailureHandler } }
      match t.session.publisherFailureHandler with
      | none => w
      | some streamId => w.closeSubscribers order streamId

/-! ## The source of a stream -/

def handlePublisherSource (order : VisitOrder ℕ) (update : MediaPublisherSourceUpdate)
    (w : MediaSystem) (transport : ℕ) : MediaSystem :=
  match w.lock transport with
  | none => w
  | some t =>
      if update.generation < t.session.publisherSourceGeneration then w
      else
        let accepted := t.acceptPublisherSource update
        let w : MediaSystem :=
          { routing := w.routing.perform (.cancelKeyframeRequests t.session.sessionId)
            transports := w.transports.set transport accepted.1 }
        if accepted.2 then w else w.notifyPublisherFailure order transport

/-- A new session subscribes; its transport is told the source and the timings at once. -/
def join (order : VisitOrder ℕ) (streamId sessionId : Text)
    (target : RewriterConfig.WhepRtpRewriterTarget) : MediaSystem :=
  let transport := w.transports.length
  let w : MediaSystem := { w with
    transports := w.transports ++ [MediaTransport.create streamId sessionId target] }
  match w.router.subscribe streamId sessionId transport with
  | none => w
  | some (_, update, timings) =>
      let w : MediaSystem := { w with
        routing := w.routing.perform (.subscribe streamId sessionId transport) }
      let w := handlePublisherSource order update w transport
      let w := timings.foldl
        (fun w timing => w.tell (MediaTransport.handlePublisherSenderTiming timing) transport) w
      { w with
        transports := w.transports.modify transport fun t =>
          { t with session := t.session.adopt } }

/-! ## What a publisher sends -/

def publishRtp (delivery : Delivery) (streamId publisherSessionId : Text)
    (packet : List UInt8) : MediaSystem :=
  match w.router.publishRtp streamId publisherSessionId packet with
  | none => w
  | some (sourceGeneration, transports) =>
      (delivery.order.visit transports).foldl (sendRtp delivery sourceGeneration packet) w

def publishSourceBye (order : VisitOrder ℕ) (streamId publisherSessionId : Text)
    (sourceGeneration : ℕ) (sourceSsrc : UInt32) (reason : Text) : MediaSystem :=
  match w.router.publishSourceBye streamId publisherSessionId sourceGeneration sourceSsrc reason with
  | none => w
  | some (_, bye, transports) =>
      (order.visit transports).foldl
        (fun w transport => w.tell (MediaTransport.handlePublisherSourceBye bye) transport)
        { w with
          routing := w.routing.perform
            (.publishSourceBye streamId publisherSessionId sourceGeneration sourceSsrc reason) }

def publishSenderTiming (order : VisitOrder ℕ) (streamId publisherSessionId : Text)
    (sourceGeneration : ℕ) (sourceSsrc : UInt32) (ntpTimestamp : UInt64)
    (sourceRtpTimestamp senderPacketCount senderOctetCount : UInt32) : MediaSystem :=
  match w.router.publishSenderTiming streamId publisherSessionId sourceGeneration sourceSsrc
      ntpTimestamp sourceRtpTimestamp senderPacketCount senderOctetCount with
  | none => w
  | some (_, timing, transports) =>
      (order.visit transports).foldl
        (fun w transport => w.tell (MediaTransport.handlePublisherSenderTiming timing) transport)
        { w with
          routing := w.routing.perform
            (.publishSenderTiming streamId publisherSessionId sourceGeneration sourceSsrc
              ntpTimestamp sourceRtpTimestamp senderPacketCount senderOctetCount) }

end MediaSystem
end SimpleWebrtc.WhepMedia
