import SimpleWebrtc.StreamRegistry
import SimpleWebrtc.WhepSessionTransport
import SimpleWebrtc.WhipPublisher
import SimpleWebrtc.Library.Runs

/-!
# The server's sessions

The session registry, the fanout router and the transports of all sessions, with
everything that creates or ends a session: the HTTP handlers, the inactivity
timers and the recovery timers of the subscribers. A transport is a cell of a
growing list and is referred to by its position. A closed transport has left its
session and with it the last reference, so a weak reference to it is dead.

Requests are checked before they touch anything, so a request is first prepared
by a function which only reads. What the random generator, the sockets and the
text parser yield is part of the request.
-/
namespace SimpleWebrtc.SessionServer
open Library Library.Text SdpSummary SdpOfferValidator SdpAnswer RewriterConfig MediaFanout
  StreamRegistry WhepSession

/-- The part of a publisher's transport which other sessions depend on. The handler is held as
the stream and the session it captured. -/
structure WhipSessionTransport where
  streamId : Text := []
  sessionId : Text := []
  closed : Bool := false
  owned : Bool := false
  inactivityTimeoutHandler : Option (Text × Text) := none
  publisherSourceGeneration : ℕ := 0
deriving DecidableEq

namespace WhipSessionTransport
variable (t : WhipSessionTransport)

def takeInactivityHandler : WhipSessionTransport := { t with inactivityTimeoutHandler := none }

def shutDown : WhipSessionTransport :=
  if t.closed then t else { t with closed := true, inactivityTimeoutHandler := none }

def setPublisherSourceGeneration (generation : ℕ) : WhipSessionTransport :=
  { t with publisherSourceGeneration := generation }

end WhipSessionTransport

structure Server where
  registry : Registry := {}
  router : MediaFanoutRouter := {}
  publisherTransports : List WhipSessionTransport := []
  subscriberTransports : List WhepSessionTransport := []
deriving DecidableEq

/-- The orders in which the hash maps are visited: the transports to notify of a source, and the
sessions to close. -/
structure VisitOrders where
  notifying : VisitOrder ℕ
  closing : VisitOrder StreamSession

namespace Server
variable (w : Server)

/-! ## Closing -/

def closePublisherTransport (transport : ℕ) : Server :=
  { w with
    publisherTransports :=
      w.publisherTransports.modify transport WhipSessionTransport.shutDown }

/-- `publisher_session::close`. -/
def closePublisher (session : StreamSession) : Server :=
  match w.publisherTransports[session.transport]? with
  | none => w
  | some t => if t.owned then w.closePublisherTransport session.transport else w

def closeSubscriberTransport (transport : ℕ) : Server :=
  match w.subscriberTransports[transport]? with
  | none => w
  | some t =>
      if t.closed then w
      else
        { w with
          router := w.router.unsubscribe t.sessionId
          subscriberTransports :=
            w.subscriberTransports.modify transport WhepSessionTransport.shutDown }

/-- `subscriber_session::close`. -/
def closeSubscriber (session : StreamSession) : Server :=
  match w.subscriberTransports[session.transport]? with
  | none => w
  | some t => if t.owned then w.closeSubscriberTransport session.transport else w

def closeSubscribers (sessions : List StreamSession) : Server :=
  sessions.foldl (fun w session => w.closeSubscriber session) w

/-! ## Notifications of the router -/

/-- The publisher failure handler of every subscriber of a stream. -/
def handlePublisherFailure (orders : VisitOrders) (streamId : Text) : Server :=
  let (registry, sessions) := w.registry.removeSubscriberSessionsByStreamId streamId
  { w with registry }.closeSubscribers (orders.closing.visit sessions)

/-- The handler is called once. -/
def notifyPublisherFailure (orders : VisitOrders) (transport : ℕ) : Server :=
  match w.subscriberTransports[transport]? with
  | none => w
  | some t =>
      let w := { w with
        subscriberTransports :=
          w.subscriberTransports.modify transport WhepSessionTransport.takeFailureHandler }
      match t.publisherFailureHandler with
      | none => w
      | some streamId => w.handlePublisherFailure orders streamId

/-- The transport a weak reference still refers to. -/
def lock (transport : ℕ) : Option WhepSessionTransport :=
  w.subscriberTransports[transport]?.filter fun t => !t.closed

def handlePublisherSource (orders : VisitOrders) (update : MediaPublisherSourceUpdate)
    (w : Server) (transport : ℕ) : Server :=
  match w.lock transport with
  | none => w
  | some t =>
      if update.generation < t.publisherSourceGeneration then w
      else
        let w := { w with
          router := w.router.cancelKeyframeRequests t.sessionId
          subscriberTransports := w.subscriberTransports.modify transport fun t =>
            (t.acceptPublisherSource update).1 }
        if (t.acceptPublisherSource update).2 then w
        else w.notifyPublisherFailure orders transport

def handlePublisherSenderTiming (transport : ℕ) (w : Server)
    (timing : MediaPublisherSenderTiming) : Server :=
  match w.lock transport with
  | none => w
  | some _ =>
      { w with
        subscriberTransports := w.subscriberTransports.modify transport fun t =>
          t.handlePublisherSenderTiming timing }

/-- The handlers are copied before the first of them is called. -/
def notifyPublisherSource (orders : VisitOrders) (streamId : Text)
    (update : MediaPublisherSourceUpdate) : Server :=
  (orders.notifying.visit (w.router.streamTransports streamId)).foldl
    (handlePublisherSource orders update) w

def setPublisherSource (orders : VisitOrders) (streamId publisherSessionId : Text)
    (publisherOffer : WebrtcOfferSummary) : Server × ℕ :=
  match w.router.setPublisherSource streamId publisherSessionId publisherOffer with
  | none => (w, 0)
  | some (router, source) =>
      ({ w with router }.notifyPublisherSource orders streamId
        { generation := source.generation, source := some source }, source.generation)

def clearPublisherSource (orders : VisitOrders) (streamId publisherSessionId : Text) : Server :=
  match w.router.clearPublisherSource streamId publisherSessionId with
  | none => w
  | some (router, generation) =>
      { w with router }.notifyPublisherSource orders streamId { generation }

/-- `subscribe_media` with what the router calls back at once. -/
def subscribeMedia (orders : VisitOrders) (transport : ℕ) : Server :=
  match w.lock transport with
  | none => w
  | some t =>
      match w.router.subscribe t.streamId t.sessionId transport with
      | none => w
      | some (router, update, timings) =>
          let w := handlePublisherSource orders update { w with router } transport
          timings.foldl (handlePublisherSenderTiming transport) w

end Server

/-! ## Requests and responses -/

structure HttpResponse where
  status : ℕ
  errorCode : Text := []
  message : Text := []
  sdp : Option SessionDescription := none
  location : Text := []
deriving DecidableEq

def HttpResponse.isError (response : HttpResponse) : Prop := 400 ≤ response.status

def errorResponse (status : ℕ) (errorCode message : Text) : HttpResponse :=
  { status, errorCode, message }

def kMaxSdpOfferBodyBytes : ℕ := 256 * 1024

def isAlnum (c : UInt8) : Bool :=
  isDigit c || (decide (65 ≤ c) && decide (c ≤ 90)) || (decide (97 ≤ c) && decide (c ≤ 122))

def isValidResourceId (value : Text) : Bool :=
  !value.isEmpty && decide (value.length ≤ 128) &&
    value.all fun c => isAlnum c || decide (c = 45) || decide (c = 95) || decide (c = 46)

/-- A POST request with an offer, and what becomes of it outside the program's own checks. -/
structure OfferRequest where
  applicationSdp : Bool
  bodySize : ℕ
  description : Except Text SessionDescription
  localUdpPort : Option UInt16
  transportStart : Except Text Unit
  answerOptions : Except Text SdpAnswerOptions
  drawnSessionIds : List (RandomString 24)
  drawnSsrcs : List UInt32
  cname : Text

/-- What `router` checks of an offer before a handler sees it. -/
def validateOfferRequest (request : OfferRequest) (streamId : Text) : Except HttpResponse Unit := do
  ensure (isValidResourceId streamId = true)
    (errorResponse 400 (ascii "bad_request") (ascii "invalid stream id"))
  ensure (request.applicationSdp = true)
    (errorResponse 415 (ascii "unsupported_media_type")
      (ascii "unsupported media type, expected application/sdp"))
  ensure (request.bodySize ≠ 0)
    (errorResponse 400 (ascii "sdp_offer_empty") (ascii "sdp offer body is empty"))
  ensure (request.bodySize ≤ kMaxSdpOfferBodyBytes)
    (errorResponse 413 (ascii "sdp_offer_body_too_large") (ascii "sdp offer body is too large"))

structure PreparedPublisher where
  answer : BuiltSdpAnswer
  runtimeOffer : WebrtcOfferSummary
deriving DecidableEq

/-- `create_publisher` up to the registry. -/
def preparePublisher (request : OfferRequest) (streamId : Text) :
    Except HttpResponse PreparedPublisher := do
  validateOfferRequest request streamId
  let description ← request.description.mapError fun e =>
    errorResponse 400 (ascii "whip_invalid_sdp_offer") (ascii "invalid sdp offer: " ++ e)
  let offerSummary ← (extractWebrtcOfferSummary description).mapError fun e =>
    errorResponse 400 (ascii "whip_invalid_webrtc_offer") (ascii "invalid webrtc offer: " ++ e)
  (validateWhipOffer offerSummary).mapError fun e =>
    errorResponse 400 (ascii "whip_invalid_offer") (ascii "invalid whip offer: " ++ e)
  let port ← orError
    (errorResponse 503 (ascii "whip_udp_port_unavailable")
      (ascii "session udp port unavailable")) request.localUdpPort
  request.transportStart.mapError fun _ =>
    errorResponse 503 (ascii "whip_udp_bind_failed") (ascii "session udp bind failed")
  let answer ← (request.answerOptions.bind fun options =>
    buildWhipAnswer offerSummary { options with localCandidatePort := port }).mapError fun e =>
      errorResponse 400 (ascii "whip_sdp_answer_failed") (ascii "cannot build sdp answer: " ++ e)
  let runtimeOffer ← (makeOfferSummary offerSummary answer.acceptedMlineIndexes).mapError fun e =>
    errorResponse 400 (ascii "whip_runtime_offer_filter_failed")
      (ascii "failed to filter runtime publisher offer: " ++ e)
  return { answer, runtimeOffer }

/-- One source for every section, two SSRCs for a video section. -/
def makeWhepOutboundMediaSources (cname : Text) :
    List UInt32 → List MediaSummary → List SdpAnswerMediaSource
  | _, [] => []
  | drawn, media :: rest =>
      let source : SdpAnswerMediaSource :=
        { mid := media.mid, kind := media.kind, ssrc := drawn.headD 1, cname }
      if media.kind = kVideo then
        { source with rtxRepairSsrc := drawn.tail.headD 1 } ::
          makeWhepOutboundMediaSources cname (drawn.drop 2) rest
      else source :: makeWhepOutboundMediaSources cname drawn.tail rest

def filterWhepOutboundMediaSources (sources : List SdpAnswerMediaSource)
    (acceptedMlineIndexes : List ℕ) : List SdpAnswerMediaSource :=
  acceptedMlineIndexes.filterMap fun index => sources[index]?

structure PreparedSubscriber where
  answer : BuiltSdpAnswer
  runtimeOffer : WebrtcOfferSummary
  target : WhepRtpRewriterTarget
deriving DecidableEq

/-- `create_subscriber` up to the registry. -/
def prepareSubscriber (registry : Registry) (request : OfferRequest) (streamId : Text) :
    Except HttpResponse PreparedSubscriber := do
  validateOfferRequest request streamId
  let description ← request.description.mapError fun e =>
    errorResponse 400 (ascii "whep_invalid_sdp_offer") (ascii "invalid sdp offer: " ++ e)
  let offerSummary ← (extractWebrtcOfferSummary description).mapError fun e =>
    errorResponse 400 (ascii "whep_invalid_webrtc_offer") (ascii "invalid webrtc offer: " ++ e)
  (validateWhepOffer offerSummary).mapError fun e =>
    errorResponse 400 (ascii "whep_invalid_offer") (ascii "invalid whep offer: " ++ e)
  let publisher ← orError
    (errorResponse 404 (ascii "whep_publisher_not_found") (ascii "publisher not found"))
    (registry.publishersByStreamId.find? streamId)
  let sources := makeWhepOutboundMediaSources request.cname request.drawnSsrcs offerSummary.media
  let port ← orError
    (errorResponse 503 (ascii "whep_udp_port_unavailable")
      (ascii "session udp port unavailable")) request.localUdpPort
  request.transportStart.mapError fun _ =>
    errorResponse 503 (ascii "whep_udp_bind_failed") (ascii "session udp bind failed")
  let answer ← (request.answerOptions.bind fun options =>
    buildWhepAnswer offerSummary publisher.remoteOfferSummary
      { options with localCandidatePort := port, mediaSources := sources }).mapError fun e =>
        errorResponse 400 (ascii "whep_sdp_answer_failed")
          (ascii "failed to build sdp answer: " ++ e)
  let runtimeOffer ← (makeOfferSummary offerSummary answer.acceptedMlineIndexes).mapError fun e =>
    errorResponse 400 (ascii "whep_runtime_offer_filter_failed")
      (ascii "failed to filter runtime subscriber offer: " ++ e)
  let target : WhepRtpRewriterTarget :=
    { subscriberOffer := offerSummary
      acceptedMlineIndexes := answer.acceptedMlineIndexes.map Int.ofNat
      acceptedMediaSources :=
        filterWhepOutboundMediaSources sources answer.acceptedMlineIndexes }
  let _ ← (makeWhepRtpRewriterConfig publisher.sessionId publisher.remoteOfferSummary
    target).mapError fun e =>
      errorResponse 400 (ascii "whep_sdp_answer_failed")
        (ascii "failed to build rtp rewrite mapping: " ++ e)
  return { answer, runtimeOffer, target }

namespace Server
variable (w : Server)

/-! ## Creating sessions -/

/-- The session is set up and becomes its stream's publisher source. -/
def startPublisher (orders : VisitOrders) (session : StreamSession) : Server :=
  let transport : WhipSessionTransport :=
    { streamId := session.streamId
      sessionId := session.sessionId
      owned := true
      inactivityTimeoutHandler := some (session.streamId, session.sessionId) }
  let (w, generation) :=
    { w with publisherTransports := w.publisherTransports ++ [transport] }.setPublisherSource orders
      session.streamId session.sessionId session.remoteOfferSummary
  { w with
    publisherTransports := w.publisherTransports.modify session.transport fun t =>
      t.setPublisherSourceGeneration generation }

def createPublisher (orders : VisitOrders) (streamId : Text) (request : OfferRequest) :
    Option (Server × HttpResponse) :=
  match preparePublisher request streamId with
  | .error response => some (w, response)
  | .ok prepared =>
      (w.registry.createPublisherSession streamId prepared.runtimeOffer
        w.publisherTransports.length request.drawnSessionIds).map fun created =>
          match created with
          | .error .streamAlreadyHasPublisher =>
              (w, errorResponse 409 (ascii "whip_stream_already_has_publisher")
                (ascii "stream already has publisher"))
          | .error _ =>
              (w, errorResponse 500 (ascii "whip_create_session_failed")
                (ascii "create publisher session failed"))
          | .ok (registry, session) =>
              ({ w with registry }.startPublisher orders session,
                { status := 201
                  sdp := some prepared.answer.description
                  location := ascii "/whip/session/" ++ session.sessionId })

/-- The session is set up; its transport subscribes before the session refers to it. -/
def startSubscriber (orders : VisitOrders) (session : StreamSession)
    (target : WhepRtpRewriterTarget) : Server :=
  let fresh : WhepSessionTransport :=
    { inactivityTimeoutHandler := some session.sessionId
      publisherFailureHandler := some session.streamId
      rtpRewriterTarget := target }
  let w := { w with
    subscriberTransports := w.subscriberTransports ++
      [fresh.setPeerContext session.streamId session.sessionId target] }
  let w := w.subscribeMedia orders session.transport
  { w with
    subscriberTransports :=
      w.subscriberTransports.modify session.transport WhepSessionTransport.adopt }

def createSubscriber (orders : VisitOrders) (streamId : Text) (request : OfferRequest) :
    Option (Server × HttpResponse) :=
  match prepareSubscriber w.registry request streamId with
  | .error response => some (w, response)
  | .ok prepared =>
      (w.registry.createSubscriberSession streamId prepared.runtimeOffer
        w.subscriberTransports.length request.drawnSessionIds).map fun created =>
          match created with
          | .error .publisherNotFound =>
              (w, errorResponse 404 (ascii "whep_publisher_not_found")
                (ascii "publisher not found"))
          | .error _ =>
              (w, errorResponse 500 (ascii "whep_create_session_failed")
                (ascii "create subscriber session failed"))
          | .ok (registry, session) =>
              ({ w with registry }.startSubscriber orders session prepared.target,
                { status := 201
                  sdp := some prepared.answer.description
                  location := ascii "/whep/session/" ++ session.sessionId })

/-! ## Ending sessions -/

def noContent : HttpResponse := { status := 204 }

/-- A publisher is taken out of the registry, then closed, then the source it is known under is
cleared. -/
def removePublisher (orders : VisitOrders) (sessionId : Text) (found : StreamSession)
    (streamId publisherSessionId : Text) : Except StreamRegistryError Server :=
  match w.registry.removePublisherSession sessionId with
  | .error e => .error e
  | .ok registry =>
      .ok (({ w with registry }.closePublisher found).clearPublisherSource orders streamId
        publisherSessionId)

def removeSubscriber (sessionId : Text) (found : StreamSession) :
    Except StreamRegistryError Server :=
  match w.registry.removeSubscriberSession sessionId with
  | .error e => .error e
  | .ok registry => .ok ({ w with registry }.closeSubscriber found)

/-- The answer to a removal, with the handler's own error texts. -/
def removalResponse (notFound failed : HttpResponse) :
    Except StreamRegistryError Server → Server × HttpResponse
  | .ok w => (w, noContent)
  | .error .publisherSessionNotFound => (w, notFound)
  | .error .subscriberSessionNotFound => (w, notFound)
  | .error _ => (w, failed)

def deletePublisherSession (orders : VisitOrders) (sessionId : Text) : Server × HttpResponse :=
  let notFound :=
    errorResponse 404 (ascii "whip_session_not_found") (ascii "publisher session not found")
  let failed := errorResponse 500 (ascii "whip_delete_session_failed")
    (ascii "delete publisher session failed")
  if isValidResourceId sessionId = false then
    (w, errorResponse 400 (ascii "bad_request") (ascii "invalid session id"))
  else match w.registry.publishersBySessionId.find? sessionId with
    | none => (w, notFound)
    | some session =>
        w.removalResponse notFound failed
          (w.removePublisher orders sessionId session session.streamId session.sessionId)

def deleteSubscriberSession (sessionId : Text) : Server × HttpResponse :=
  let notFound :=
    errorResponse 404 (ascii "whep_session_not_found") (ascii "subscriber session not found")
  let failed := errorResponse 500 (ascii "whep_delete_session_failed")
    (ascii "delete subscriber session failed")
  if isValidResourceId sessionId = false then
    (w, errorResponse 400 (ascii "bad_request") (ascii "invalid session id"))
  else match w.registry.subscribersBySessionId.find? sessionId with
    | none => (w, notFound)
    | some session =>
        w.removalResponse notFound failed (w.removeSubscriber sessionId session)

def adminError (status : ℕ) (message : Text) : HttpResponse := { status, message }

/-- The admin's DELETE of a session of either kind. -/
def deleteSession (orders : VisitOrders) (sessionId : Text) : Server × HttpResponse :=
  let notFound := adminError 404 (ascii "session not found")
  if isValidResourceId sessionId = false then
    (w, errorResponse 400 (ascii "bad_request") (ascii "invalid session id"))
  else match w.registry.sessionLifecycleSnapshots.find? fun s =>
      decide (s.sessionId = sessionId) with
    | none => (w, notFound)
    | some snapshot =>
        match snapshot.kind with
        | .publisher =>
            let failed := adminError 500 (ascii "delete publisher session failed")
            match w.registry.publishersBySessionId.find? snapshot.sessionId with
            | none => (w, notFound)
            | some session => w.removalResponse notFound failed
                (w.removePublisher orders snapshot.sessionId session snapshot.streamId
                  snapshot.sessionId)
        | .subscriber =>
            let failed := adminError 500 (ascii "delete subscriber session failed")
            match w.registry.subscribersBySessionId.find? snapshot.sessionId with
            | none => (w, notFound)
            | some session => w.removalResponse notFound failed
                (w.removeSubscriber snapshot.sessionId session)

/-- The admin's DELETE of a stream. -/
def deleteStream (orders : VisitOrders) (streamId : Text) : Server × HttpResponse :=
  let notFound := adminError 404 (ascii "stream publisher not found")
  let failed := adminError 500 (ascii "delete stream failed")
  if isValidResourceId streamId = false then
    (w, errorResponse 400 (ascii "bad_request") (ascii "invalid stream id"))
  else match w.registry.publishersByStreamId.find? streamId with
    | none => (w, notFound)
    | some session =>
        w.removalResponse notFound failed
          (w.removePublisher orders session.sessionId session streamId session.sessionId)

/-! ## Timers -/

/-- The inactivity timer of a publisher's transport expired past its deadline. -/
def publisherInactivityTimeout (orders : VisitOrders) (transport : ℕ) : Server :=
  match w.publisherTransports[transport]? with
  | none => w
  | some t =>
      if t.closed then w
      else
        let w := { w with
          publisherTransports :=
            w.publisherTransports.modify transport WhipSessionTransport.takeInactivityHandler }
        match t.inactivityTimeoutHandler with
        | none => w
        | some (streamId, sessionId) =>
            match w.registry.publishersBySessionId.find? sessionId with
            | none => w
            | some session =>
                (w.removePublisher orders sessionId session streamId sessionId).toOption.getD w

def subscriberInactivityTimeout (transport : ℕ) : Server :=
  match w.lock transport with
  | none => w
  | some t =>
      let w := { w with
        subscriberTransports :=
          w.subscriberTransports.modify transport WhepSessionTransport.takeInactivityHandler }
      match t.inactivityTimeoutHandler with
      | none => w
      | some sessionId =>
          match w.registry.subscribersBySessionId.find? sessionId with
          | none => w
          | some session => (w.removeSubscriber sessionId session).toOption.getD w

/-- The recovery timer of a subscriber's transport completed. -/
def publisherRecoveryTimeout (orders : VisitOrders) (transport : ℕ) : Server :=
  match w.lock transport with
  | none => w
  | some t =>
      if t.publisherSource.isSome then w else w.notifyPublisherFailure orders transport

end Server

/-! ## Runs -/

inductive Operation where
  | createPublisher (streamId : Text) (request : OfferRequest)
  | createSubscriber (streamId : Text) (request : OfferRequest)
  | deletePublisherSession (sessionId : Text)
  | deleteSubscriberSession (sessionId : Text)
  | deleteSession (sessionId : Text)
  | deleteStream (streamId : Text)
  | publisherInactivityTimeout (transport : ℕ)
  | subscriberInactivityTimeout (transport : ℕ)
  | publisherRecoveryTimeout (transport : ℕ)

/-- An operation, with the orders in which the hash maps happen to be visited. -/
structure Event where
  operation : Operation
  orders : VisitOrders

namespace Server

/-- A timer answers nobody. No value means that an unused session id is still being drawn. -/
def perform (w : Server) (e : Event) : Option (Server × Option HttpResponse) :=
  let answered (answer : Server × HttpResponse) : Option (Server × Option HttpResponse) :=
    some (answer.1, some answer.2)
  match e.operation with
  | .createPublisher streamId request =>
      (w.createPublisher e.orders streamId request).bind answered
  | .createSubscriber streamId request =>
      (w.createSubscriber e.orders streamId request).bind answered
  | .deletePublisherSession sessionId => answered (w.deletePublisherSession e.orders sessionId)
  | .deleteSubscriberSession sessionId => answered (w.deleteSubscriberSession sessionId)
  | .deleteSession sessionId => answered (w.deleteSession e.orders sessionId)
  | .deleteStream streamId => answered (w.deleteStream e.orders streamId)
  | .publisherInactivityTimeout transport =>
      some (w.publisherInactivityTimeout e.orders transport, none)
  | .subscriberInactivityTimeout transport => some (w.subscriberInactivityTimeout transport, none)
  | .publisherRecoveryTimeout transport =>
      some (w.publisherRecoveryTimeout e.orders transport, none)

def initial (w : Server) : Prop := w = {}

def step (w : Server) (e : Event) : Option Server := (w.perform e).map Prod.fst

def system : EventSystem Server Event := .ofStep initial step

end Server
end SimpleWebrtc.SessionServer
