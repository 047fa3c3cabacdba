import Mathlib.Logic.Relation
import SimpleWebrtc.SessionAgreement
import SimpleWebrtc.WhipConfiguration

/-!
# Runs of the server

Every operation keeps the registry, the router and the transports in agreement,
in whatever order the hash maps are visited, and one which answers with an error
changes nothing. A subscriber is only accepted for an offer its publisher can
serve, and the publisher's source is the one the router holds, so the source it
is told while it is being set up never fails.
-/
namespace SimpleWebrtc.SessionServer
open Library Library.Text SdpSummary SdpAnswer RewriterConfig MediaFanout StreamRegistry WhepSession

structure Agrees (w : Server) : Prop where
  subscribers : SubscribersAgree w.registered w
  publishers : PublishersAgree w
  distinct : ∀ id s, w.registered id = some s →
    w.registry.publishersBySessionId.find? id = none

namespace Agrees
variable {w : Server}

theorem of_kept (h : Agrees w) {w' : Server} (hkept : SubscribersKept w w') : Agrees w' where
  subscribers := hkept.agree
  publishers := h.publishers.of_same hkept.publishers
  distinct id s hs := by
    rw [hkept.publishers.bySessionId]
    exact h.distinct id s (hkept.fewer id s hs)

/-! ## Subscribers leave -/

theorem removeSubscriber (h : Agrees w) {id : Text} {s : StreamSession}
    (hs : w.registered id = some s) : ∃ w', w.removeSubscriber id s = .ok w' ∧ Agrees w' := by
  have hfind : w.registry.subscribersBySessionId.find? id = some s := hs
  obtain ⟨rfl, -, -⟩ := h.subscribers.keys id s hs
  let registry : Registry := { w.registry with
    subscribersBySessionId := w.registry.subscribersBySessionId.erase s.sessionId }
  have hleft : SubscribersAgree w.registered { w with registry } :=
    h.subscribers.congr rfl rfl rfl
  have hclosed := hleft.closeSubscriber hs
  have hregistry : ({ w with registry }.closeSubscriber s).registry = registry :=
    closeSubscriber_registry _ _
  have hregistered : ({ w with registry }.closeSubscriber s).registered =
      Function.update w.registered s.sessionId none := by
    funext id
    rw [Server.registered, hregistry, AssocMap.find?_erase, Function.update_apply]
    rfl
  have herased : SamePublishers w { w with registry } := ⟨rfl, rfl, rfl, rfl, rfl⟩
  have hsame := herased.trans (closeSubscriber_samePublishers { w with registry } s)
  refine ⟨{ w with registry }.closeSubscriber s, ?_, h.of_kept ⟨?_, hsame, ?_⟩⟩
  · simp only [Server.removeSubscriber, Registry.removeSubscriberSession, hfind]
    rfl
  · exact hclosed.congr hregistered rfl rfl
  · intro id' s' hs'
    rw [hregistered, Function.update_apply] at hs'
    split_ifs at hs'
    exact hs'

/-! ## Publishers leave -/

theorem removePublisher (h : Agrees w) {id : Text} {s : StreamSession}
    (hs : w.registry.publishersBySessionId.find? id = some s) (orders : VisitOrders) :
    ∃ w', w.removePublisher orders id s s.streamId s.sessionId = .ok w' ∧ Agrees w' := by
  obtain ⟨rfl, hid, hstream, -⟩ := h.publishers.bySessionId id s hs
  obtain ⟨source, hsource, hsourceId, -⟩ := h.publishers.source hs
  obtain ⟨t, ht, -, howned, -, -⟩ := h.publishers.transports _ s hs
  let registry : Registry := { w.registry with
    publishersByStreamId := w.registry.publishersByStreamId.erase s.streamId
    publishersBySessionId := w.registry.publishersBySessionId.erase s.sessionId }
  let cleared : Server := { w with
    registry
    router := w.router.beginGeneration s.streamId
      (w.router.publisherSourcesByStreamId.erase s.streamId)
    publisherTransports :=
      w.publisherTransports.modify s.transport WhipSessionTransport.shutDown }
  have hcleared : Agrees cleared := by
    refine ⟨h.subscribers.congr rfl rfl rfl, h.publishers.remove hs rfl rfl rfl rfl, ?_⟩
    intro id' s' hs'
    have hnone := h.distinct id' s' hs'
    simp only [cleared, registry, AssocMap.find?_erase, hnone, ite_self]
  refine ⟨cleared.notifyPublisherSource orders s.streamId
    { generation := w.router.nextSourceGeneration }, ?_,
    hcleared.of_kept (hcleared.subscribers.kept_notification orders _ _)⟩
  simp only [Server.removePublisher, Registry.removePublisherSession, hs, Server.closePublisher,
    ht, howned, if_true, Server.closePublisherTransport, Server.clearPublisherSource,
    MediaFanoutRouter.clearPublisherSource, hid, hstream, or_self, if_false, hsource, hsourceId,
    ne_eq, not_true_eq_false]
  rfl

/-! ## Publishers arrive -/

theorem startPublisher (h : Agrees w) {streamId : Text} {offer : WebrtcOfferSummary}
    (hstream : streamId ≠ []) {drawn : List (RandomString 24)} {registry : Registry}
    {s : StreamSession}
    (hcreated : w.registry.createPublisherSession streamId offer w.publisherTransports.length
      drawn = some (.ok (registry, s))) (orders : VisitOrders) :
    Agrees ({ w with registry }.startPublisher orders s) := by
  obtain ⟨hfresh, hfree, rfl⟩ := Registry.createPublisherSession_ok hcreated
  obtain ⟨rfl, rfl, htransport, hid, hpublisher, hsubscriber⟩ := hfresh
  let transport : WhipSessionTransport :=
    { streamId := s.streamId
      sessionId := s.sessionId
      owned := true
      inactivityTimeoutHandler := some (s.streamId, s.sessionId) }
  let source : MediaPublisherSource :=
    ⟨s.streamId, s.sessionId, w.router.nextSourceGeneration, s.remoteOfferSummary⟩
  let started : Server := { w with
    registry := { w.registry with
      publishersBySessionId := w.registry.publishersBySessionId.insertOrAssign s.sessionId s
      publishersByStreamId := w.registry.publishersByStreamId.insertOrAssign s.streamId s }
    router := w.router.beginGeneration s.streamId
      (w.router.publisherSourcesByStreamId.insertOrAssign s.streamId source)
    publisherTransports := w.publisherTransports ++ [transport] }
  have hstarted : Agrees started := by
    refine ⟨h.subscribers.congr rfl rfl rfl, ?_, ?_⟩
    · exact h.publishers.add hpublisher hfree hid hstream htransport transport rfl rfl rfl rfl rfl
        source rfl rfl rfl rfl rfl rfl
    · intro id s' hs'
      have hne : id ≠ s.sessionId := by
        rintro rfl
        exact absurd (hs'.symm.trans hsubscriber) (by simp)
      simp only [started, AssocMap.find?_insertOrAssign, hne, if_false]
      exact h.distinct id s' hs'
  have hnotified := hstarted.of_kept (hstarted.subscribers.kept_notification orders s.streamId
    { generation := source.generation, source := some source })
  have heq : Server.startPublisher { w with registry := started.registry } orders s =
      { started.notifyPublisherSource orders s.streamId
          { generation := source.generation, source := some source } with
        publisherTransports := (started.notifyPublisherSource orders s.streamId
          { generation := source.generation, source := some source }).publisherTransports.modify
            s.transport fun t => t.setPublisherSourceGeneration source.generation } := by
    simp only [Server.startPublisher, Server.setPublisherSource,
      MediaFanoutRouter.setPublisherSource, hstream, hid, or_self, if_false]
    rfl
  rw [heq]
  exact ⟨hnotified.subscribers.congr rfl rfl rfl, hnotified.publishers.modify _ (fun _ => rfl)
    (fun _ => rfl) (fun _ => rfl) (fun _ _ h => h), hnotified.distinct⟩

end Agrees

/-! ## Subscribers arrive -/

/-- Nothing but one transport has changed, and it serves the same session. -/
structure OnlyChanged (transport : ℕ) (w w' : Server) : Prop where
  registry : w'.registry = w.registry
  subscriptions : w'.router.subscriptionsBySessionId = w.router.subscriptionsBySessionId
  publishers : SamePublishers w w'
  others : ∀ i, i ≠ transport → w'.subscriberTransports[i]? = w.subscriberTransports[i]?
  self : ∀ t, w.subscriberTransports[transport]? = some t →
    ∃ t', w'.subscriberTransports[transport]? = some t' ∧ SameSession t t'

namespace OnlyChanged
variable {transport : ℕ} {w w' w'' : Server}

theorem refl (transport : ℕ) (w : Server) : OnlyChanged transport w w :=
  ⟨rfl, rfl, .refl w, fun _ _ => rfl, fun t ht => ⟨t, ht, rfl, rfl, rfl, rfl⟩⟩

theorem trans (h : OnlyChanged transport w w') (h' : OnlyChanged transport w' w'') :
    OnlyChanged transport w w'' := by
  refine ⟨h'.registry.trans h.registry, h'.subscriptions.trans h.subscriptions,
    h.publishers.trans h'.publishers, fun i hi => (h'.others i hi).trans (h.others i hi), ?_⟩
  intro t ht
  obtain ⟨t', ht', hsame⟩ := h.self t ht
  obtain ⟨t'', ht'', hsame'⟩ := h'.self t' ht'
  exact ⟨t'', ht'', hsame'.closed.trans hsame.closed, hsame'.owned.trans hsame.owned,
    hsame'.streamId.trans hsame.streamId, hsame'.sessionId.trans hsame.sessionId⟩

theorem of_modify (w : Server) (transport : ℕ) {f : WhepSessionTransport → WhepSessionTransport}
    (hf : ∀ t, SameSession t (f t)) :
    OnlyChanged transport w
      { w with subscriberTransports := w.subscriberTransports.modify transport f } := by
  refine ⟨rfl, rfl, ⟨rfl, rfl, rfl, rfl, rfl⟩, ?_, ?_⟩
  · intro i hi
    simp [Ne.symm hi]
  · intro t ht
    exact ⟨f t, by simp [ht], hf t⟩

theorem timings (w : Server) (transport : ℕ) (timings : List MediaPublisherSenderTiming) :
    OnlyChanged transport w
      (timings.foldl (Server.handlePublisherSenderTiming transport) w) := by
  induction timings generalizing w with
  | nil => exact .refl transport w
  | cons timing timings ih =>
      refine OnlyChanged.trans ?_ (ih (Server.handlePublisherSenderTiming transport w timing))
      unfold Server.handlePublisherSenderTiming
      cases w.lock transport with
      | none => exact .refl transport w
      | some t => exact of_modify w transport (handlePublisherSenderTiming_sameSession timing)

/-- A source update the transport is compatible with. -/
theorem compatible {t : WhepSessionTransport} (ht : w.lock transport = some t)
    {update : MediaPublisherSourceUpdate}
    (hgeneration : t.publisherSourceGeneration ≤ update.generation)
    (hcompatible : (t.acceptPublisherSource update).2 = true) (orders : VisitOrders) :
    OnlyChanged transport w (Server.handlePublisherSource orders update w transport) := by
  obtain ⟨hsubscriptions, hsources, hnext⟩ := cancelKeyframeRequests_frame w.router t.sessionId
  have hchanged := of_modify w transport (acceptPublisherSource_sameSession update)
  rw [handlePublisherSource_eq ht hgeneration, if_pos hcompatible]
  exact ⟨rfl, hsubscriptions, ⟨rfl, rfl, hsources, hnext, rfl⟩, hchanged.others, hchanged.self⟩

end OnlyChanged

theorem setPeerContext_session (t : WhepSessionTransport) (streamId sessionId : Text)
    (target : WhepRtpRewriterTarget) :
    (t.setPeerContext streamId sessionId target).closed = t.closed ∧
      (t.setPeerContext streamId sessionId target).owned = t.owned ∧
      (t.setPeerContext streamId sessionId target).streamId = streamId ∧
      (t.setPeerContext streamId sessionId target).sessionId = sessionId ∧
      (t.setPeerContext streamId sessionId target).rtpRewriterTarget = target ∧
      (t.setPeerContext streamId sessionId target).publisherSourceGeneration = 0 :=
  ⟨rfl, rfl, rfl, rfl, rfl, rfl⟩

/-- The new session is registered, subscribed and served by its own transport. -/
theorem SubscribersAgree.add {registered : Text → Option StreamSession} {w : Server}
    (h : SubscribersAgree registered w) {s : StreamSession}
    (hunused : registered s.sessionId = none) (hid : s.sessionId ≠ []) (hstream : s.streamId ≠ [])
    (htransport : s.transport = w.subscriberTransports.length) {w' : Server}
    (hsubscriptions : w'.router.subscriptionsBySessionId =
      w.router.subscriptionsBySessionId.insertOrAssign s.sessionId ⟨s.streamId, s.transport⟩)
    (hothers : ∀ i, i ≠ s.transport →
      w'.subscriberTransports[i]? = w.subscriberTransports[i]?)
    {t : WhepSessionTransport} (ht : w'.subscriberTransports[s.transport]? = some t)
    (hserves : Serves t s) :
    SubscribersAgree (Function.update registered s.sessionId (some s)) w' := by
  constructor
  · intro id s' hs'
    rw [Function.update_apply] at hs'
    split_ifs at hs' with hkey
    · obtain rfl := Option.some.inj hs'
      exact ⟨hkey.symm, hid, hstream⟩
    · exact h.keys id s' hs'
  · intro id s' hs'
    rw [Function.update_apply] at hs'
    split_ifs at hs' with hkey
    · obtain rfl := Option.some.inj hs'
      exact ⟨t, ht, hserves⟩
    · obtain ⟨t', ht', hserves'⟩ := h.transports id s' hs'
      have hlt := (List.getElem?_eq_some_iff.mp ht').1
      exact ⟨t', (hothers _ (by omega)).trans ht', hserves'⟩
  · intro id
    rw [hsubscriptions, AssocMap.find?_insertOrAssign, Function.update_apply]
    split_ifs
    · rfl
    · exact h.subscriptions id
  · intro i t' ht' hopen'
    by_cases hi : i = s.transport
    · subst hi
      rw [ht, Option.some.injEq] at ht'
      subst ht'
      exact ⟨s, by rw [hserves.sessionId, Function.update_self], rfl⟩
    · rw [hothers i hi] at ht'
      obtain ⟨s', hs', hindex⟩ := h.registered_of_open i t' ht' hopen'
      refine ⟨s', ?_, hindex⟩
      rw [Function.update_of_ne, hs']
      intro heq
      rw [heq, hunused] at hs'
      cases hs'

/-- The session is subscribed and served, and nothing else has changed. -/
structure Started (s : StreamSession) (w w' : Server) : Prop where
  registry : w'.registry = w.registry
  subscriptions : w'.router.subscriptionsBySessionId =
    w.router.subscriptionsBySessionId.insertOrAssign s.sessionId ⟨s.streamId, s.transport⟩
  publishers : SamePublishers w w'
  others : ∀ i, i ≠ s.transport → w'.subscriberTransports[i]? = w.subscriberTransports[i]?
  serves : ∃ t, w'.subscriberTransports[s.transport]? = some t ∧ Serves t s

/-- The transport of a new session before it is told of a source. -/
def subscriberTransport (s : StreamSession) (target : WhepRtpRewriterTarget) :
    WhepSessionTransport :=
  let fresh : WhepSessionTransport :=
    { inactivityTimeoutHandler := some s.sessionId
      publisherFailureHandler := some s.streamId
      rtpRewriterTarget := target }
  fresh.setPeerContext s.streamId s.sessionId target

/-- The state in which the router calls a new subscriber back. -/
def Server.subscribed (w : Server) (s : StreamSession) (target : WhepRtpRewriterTarget) : Server :=
  { w with
    router := { w.router with
      subscriptionsBySessionId :=
        w.router.subscriptionsBySessionId.insertOrAssign s.sessionId ⟨s.streamId, s.transport⟩ }
    subscriberTransports := w.subscriberTransports ++ [subscriberTransport s target] }

/-- What a new subscriber of a stream is told first. -/
def firstUpdate (r : MediaFanoutRouter) (streamId : Text) : MediaPublisherSourceUpdate where
  generation := (r.publisherSourceGenerationsByStreamId.find? streamId).getD 0
  source := r.publisherSourcesByStreamId.find? streamId

def firstTimings (r : MediaFanoutRouter) (streamId : Text) : List MediaPublisherSenderTiming :=
  ((r.publisherSenderTimingsByStreamId.find? streamId).map AssocMap.values).getD []

/-- The state in which the new subscriber has been told everything. -/
def Server.told (w : Server) (orders : VisitOrders) (s : StreamSession)
    (target : WhepRtpRewriterTarget) : Server :=
  (firstTimings w.router s.streamId).foldl (Server.handlePublisherSenderTiming s.transport)
    (Server.handlePublisherSource orders (firstUpdate w.router s.streamId)
      (w.subscribed s target) s.transport)

section NewSubscriber
variable {w : Server} {s : StreamSession} {target : WhepRtpRewriterTarget}

theorem subscribed_self (htransport : s.transport = w.subscriberTransports.length) :
    (w.subscribed s target).subscriberTransports[s.transport]? =
      some (subscriberTransport s target) := by
  rw [Server.subscribed, getElem?_snoc, if_pos htransport]

theorem subscribed_lock (htransport : s.transport = w.subscriberTransports.length) :
    (w.subscribed s target).lock s.transport = some (subscriberTransport s target) := by
  simp only [Server.lock, subscribed_self htransport, Option.filter]
  rfl

theorem startSubscriber_eq (hid : s.sessionId ≠ []) (hstream : s.streamId ≠ [])
    (htransport : s.transport = w.subscriberTransports.length) (orders : VisitOrders) :
    w.startSubscriber orders s target =
      { w.told orders s target with
        subscriberTransports :=
          (w.told orders s target).subscriberTransports.modify s.transport
            WhepSessionTransport.adopt } := by
  have hbefore : ({ w with
      subscriberTransports := w.subscriberTransports ++ [subscriberTransport s target] } :
      Server).lock s.transport = some (subscriberTransport s target) :=
    subscribed_lock htransport
  have hsubscribe : w.router.subscribe (subscriberTransport s target).streamId
      (subscriberTransport s target).sessionId s.transport =
      some ((w.subscribed s target).router, firstUpdate w.router s.streamId,
        firstTimings w.router s.streamId) := by
    have hids : ¬(s.streamId = [] ∨ s.sessionId = []) := by simp [hstream, hid]
    exact if_neg hids
  unfold subscriberTransport at hbefore hsubscribe
  unfold Server.startSubscriber Server.subscribeMedia
  simp only at hbefore hsubscribe ⊢
  rw [hbefore]
  simp only
  rw [hsubscribe]
  rfl

/-- A publisher which can serve a subscriber does not refuse it while it is being set up. -/
theorem subscribed_compatible {source : MediaPublisherSource}
    (hsource : w.router.publisherSourcesByStreamId.find? s.streamId = some source)
    {config : RtpRewriter.RewriterConfig}
    (hconfig : makeWhepRtpRewriterConfig source.sessionId source.offer target = .ok config) :
    ((subscriberTransport s target).acceptPublisherSource
      (firstUpdate w.router s.streamId)).2 = true :=
  (WhepSessionTransport.acceptPublisherSource_compatible_iff hsource).mpr ⟨config, hconfig⟩

theorem startSubscriber_started (hid : s.sessionId ≠ []) (hstream : s.streamId ≠ [])
    (htransport : s.transport = w.subscriberTransports.length)
    {source : MediaPublisherSource}
    (hsource : w.router.publisherSourcesByStreamId.find? s.streamId = some source)
    {config : RtpRewriter.RewriterConfig}
    (hconfig : makeWhepRtpRewriterConfig source.sessionId source.offer target = .ok config)
    (orders : VisitOrders) : Started s w (w.startSubscriber orders s target) := by
  have hchanged : OnlyChanged s.transport (w.subscribed s target) (w.told orders s target) :=
    (OnlyChanged.compatible (subscribed_lock htransport) (Nat.zero_le _)
      (subscribed_compatible hsource hconfig) orders).trans (OnlyChanged.timings _ _ _)
  obtain ⟨t', ht', hsame⟩ := hchanged.self _ (subscribed_self htransport)
  rw [startSubscriber_eq hid hstream htransport]
  refine ⟨hchanged.registry, hchanged.subscriptions, ?_, ?_, t'.adopt, ?_, ?_⟩
  · obtain ⟨hstreams, hsessions, hsources, hnext, htransports⟩ := hchanged.publishers
    exact ⟨hstreams, hsessions, hsources, hnext, htransports⟩
  · intro i hi
    have hold : (w.subscribed s target).subscriberTransports[i]? = w.subscriberTransports[i]? := by
      rw [Server.subscribed, getElem?_snoc, if_neg (htransport ▸ hi)]
    simp [Ne.symm hi, hchanged.others i hi, hold]
  · simp [ht']
  · exact ⟨hsame.closed, rfl, hsame.streamId, hsame.sessionId⟩

end NewSubscriber

/-! ## Operations -/

theorem streamId_ne_of_valid {request : OfferRequest} {streamId : Text} {u : Unit}
    (h : validateOfferRequest request streamId = .ok u) : streamId ≠ [] := by
  obtain ⟨_, hensure, -⟩ := bind_ok.mp h
  have hvalid := ensure_ok.mp hensure
  rintro rfl
  simp [isValidResourceId] at hvalid

theorem preparePublisher_streamId {request : OfferRequest} {streamId : Text}
    {prepared : PreparedPublisher} (h : preparePublisher request streamId = .ok prepared) :
    streamId ≠ [] := by
  obtain ⟨u, hvalid, -⟩ := bind_ok.mp h
  exact streamId_ne_of_valid hvalid

theorem mapError_ok {ε ε' α : Type} {x : Except ε α} {f : ε → ε'} {a : α}
    (h : x.mapError f = .ok a) : x = .ok a := by
  cases x with
  | error e => cases h
  | ok b => exact congrArg Except.ok (Except.ok.inj h)

/-- An accepted subscriber has a publisher, and a mapping from its offer. -/
theorem prepareSubscriber_ok {registry : Registry} {request : OfferRequest} {streamId : Text}
    {prepared : PreparedSubscriber}
    (h : prepareSubscriber registry request streamId = .ok prepared) :
    streamId ≠ [] ∧ ∃ publisher config,
      registry.publishersByStreamId.find? streamId = some publisher ∧
      makeWhepRtpRewriterConfig publisher.sessionId publisher.remoteOfferSummary
        prepared.target = .ok config := by
  obtain ⟨u, hvalid, h⟩ := bind_ok.mp h
  obtain ⟨description, -, h⟩ := bind_ok.mp h
  obtain ⟨offer, -, h⟩ := bind_ok.mp h
  obtain ⟨_, -, h⟩ := bind_ok.mp h
  obtain ⟨publisher, hpublisher, h⟩ := bind_ok.mp h
  obtain ⟨port, -, h⟩ := bind_ok.mp h
  obtain ⟨_, -, h⟩ := bind_ok.mp h
  obtain ⟨answer, -, h⟩ := bind_ok.mp h
  obtain ⟨runtimeOffer, -, h⟩ := bind_ok.mp h
  obtain ⟨config, hconfig, h⟩ := bind_ok.mp h
  cases h
  exact ⟨streamId_ne_of_valid hvalid, publisher, config, orError_ok.mp hpublisher,
    mapError_ok hconfig⟩

namespace Agrees
variable {w : Server}

theorem startSubscriber (h : Agrees w) {streamId : Text} {offer : WebrtcOfferSummary}
    (hstream : streamId ≠ []) {drawn : List (RandomString 24)} {registry : Registry}
    {s publisher : StreamSession}
    (hcreated : w.registry.createSubscriberSession streamId offer w.subscriberTransports.length
      drawn = some (.ok (registry, s)))
    (hpublisher : w.registry.publishersByStreamId.find? streamId = some publisher)
    {target : WhepRtpRewriterTarget} {config : RtpRewriter.RewriterConfig}
    (hconfig : makeWhepRtpRewriterConfig publisher.sessionId publisher.remoteOfferSummary target =
      .ok config) (orders : VisitOrders) :
    Agrees ({ w with registry }.startSubscriber orders s target) := by
  obtain ⟨hfresh, rfl⟩ := Registry.createSubscriberSession_ok hcreated
  obtain ⟨rfl, -, htransport, hid, hnotPublisher, hunused⟩ := hfresh
  obtain ⟨hstreamId, hsession⟩ := h.publishers.byStreamId _ _ hpublisher
  obtain ⟨source, hsource, hsourceId, hoffer⟩ := h.publishers.source hsession
  rw [hstreamId] at hsource
  rw [← hsourceId, ← hoffer] at hconfig
  let registered : Server := { w with
    registry := { w.registry with
      subscribersBySessionId := w.registry.subscribersBySessionId.insertOrAssign s.sessionId s } }
  obtain ⟨hregistry, hsubscriptions, hsame, hothers, t, ht, hserves⟩ :=
    startSubscriber_started (w := registered) hid hstream htransport hsource hconfig orders
  have hlookup : (registered.startSubscriber orders s target).registered =
      Function.update w.registered s.sessionId (some s) := by
    funext id
    rw [Server.registered, hregistry, AssocMap.find?_insertOrAssign, Function.update_apply]
    rfl
  have hpublishers : SamePublishers w (registered.startSubscriber orders s target) :=
    ⟨hsame.byStreamId, hsame.bySessionId, hsame.sources, hsame.nextGeneration, hsame.transports⟩
  refine ⟨?_, h.publishers.of_same hpublishers, ?_⟩
  · rw [hlookup]
    exact h.subscribers.add hunused hid hstream htransport hsubscriptions hothers ht hserves
  · intro id s' hs'
    rw [hlookup, Function.update_apply] at hs'
    rw [hpublishers.bySessionId]
    split_ifs at hs' with hkey
    · rw [hkey]
      exact hnotPublisher
    · exact h.distinct id s' hs'

end Agrees

/-- The changes the operations are made of. -/
inductive Changed (w : Server) : Server → Prop
  | startPublisher {streamId : Text} {offer : WebrtcOfferSummary} {drawn : List (RandomString 24)}
      {registry : Registry} {s : StreamSession} (orders : VisitOrders) : streamId ≠ [] →
      w.registry.createPublisherSession streamId offer w.publisherTransports.length drawn =
        some (.ok (registry, s)) →
      Changed w ({ w with registry }.startPublisher orders s)
  | startSubscriber {streamId : Text} {offer : WebrtcOfferSummary}
      {drawn : List (RandomString 24)} {registry : Registry} {s publisher : StreamSession}
      {target : WhepRtpRewriterTarget} {config : RtpRewriter.RewriterConfig}
      (orders : VisitOrders) : streamId ≠ [] →
      w.registry.createSubscriberSession streamId offer w.subscriberTransports.length drawn =
        some (.ok (registry, s)) →
      w.registry.publishersByStreamId.find? streamId = some publisher →
      makeWhepRtpRewriterConfig publisher.sessionId publisher.remoteOfferSummary target =
        .ok config →
      Changed w ({ w with registry }.startSubscriber orders s target)
  | removePublisher {id : Text} {s : StreamSession} {w' : Server} (orders : VisitOrders) :
      w.registry.publishersBySessionId.find? id = some s →
      w.removePublisher orders id s s.streamId s.sessionId = .ok w' → Changed w w'
  | removeSubscriber {id : Text} {s : StreamSession} {w' : Server} :
      w.registered id = some s → w.removeSubscriber id s = .ok w' → Changed w w'
  | takePublisherTimer (transport : ℕ) : Changed w { w with
      publisherTransports :=
        w.publisherTransports.modify transport WhipSessionTransport.takeInactivityHandler }
  | takeSubscriberTimer (transport : ℕ) : Changed w { w with
      subscriberTransports :=
        w.subscriberTransports.modify transport WhepSessionTransport.takeInactivityHandler }
  | failPublisher (orders : VisitOrders) (transport : ℕ) :
      Changed w (w.notifyPublisherFailure orders transport)

namespace Agrees
variable {w : Server}

theorem changed (h : Agrees w) {w' : Server} (hchanged : Changed w w') : Agrees w' := by
  cases hchanged with
  | startPublisher orders hstream hcreated => exact h.startPublisher hstream hcreated orders
  | startSubscriber orders hstream hcreated hpublisher hconfig =>
      exact h.startSubscriber hstream hcreated hpublisher hconfig orders
  | removePublisher orders hs hremove =>
      obtain ⟨w'', hremove', hw''⟩ := h.removePublisher hs orders
      rw [hremove, Except.ok.injEq] at hremove'
      exact hremove' ▸ hw''
  | removeSubscriber hs hremove =>
      obtain ⟨w'', hremove', hw''⟩ := h.removeSubscriber hs
      rw [hremove, Except.ok.injEq] at hremove'
      exact hremove' ▸ hw''
  | takePublisherTimer transport =>
      exact ⟨h.subscribers.congr rfl rfl rfl, h.publishers.modify _ (fun _ => rfl) (fun _ => rfl)
        (fun _ => rfl) (fun _ _ hhandler => by cases hhandler), h.distinct⟩
  | takeSubscriberTimer transport =>
      exact h.of_kept (h.subscribers.kept_modify transport fun t => ⟨rfl, rfl, rfl, rfl⟩)
  | failPublisher orders transport =>
      exact h.of_kept (h.subscribers.kept_notifyFailure orders transport)

/-- What an operation does to an agreeing state: it is made of changes, and an error changes
nothing. -/
def Keeps (w : Server) (answer : Server × HttpResponse) : Prop :=
  Relation.ReflTransGen Changed w answer.1 ∧ (answer.2.isError → answer.1 = w)

theorem keeps_unchanged (w : Server) (response : HttpResponse) : Keeps w (w, response) :=
  ⟨.refl, fun _ => rfl⟩

theorem createPublisher {orders : VisitOrders} {streamId : Text}
    {request : OfferRequest} {answer : Server × HttpResponse}
    (hcreate : w.createPublisher orders streamId request = some answer) : Keeps w answer := by
  unfold Server.createPublisher at hcreate
  cases hprepare : preparePublisher request streamId with
  | error response =>
      rw [hprepare] at hcreate
      obtain rfl := Option.some.inj hcreate
      exact keeps_unchanged w response
  | ok prepared =>
      rw [hprepare] at hcreate
      obtain ⟨created, hcreated, rfl⟩ := Option.map_eq_some_iff.mp hcreate
      match created with
      | .error .streamAlreadyHasPublisher => exact keeps_unchanged w _
      | .error .publisherNotFound => exact keeps_unchanged w _
      | .error .publisherSessionNotFound => exact keeps_unchanged w _
      | .error .subscriberSessionNotFound => exact keeps_unchanged w _
      | .ok (registry, session) =>
          refine ⟨.single (.startPublisher orders (preparePublisher_streamId hprepare) hcreated), ?_⟩
          intro herror
          simp [HttpResponse.isError] at herror

theorem createSubscriber {orders : VisitOrders} {streamId : Text}
    {request : OfferRequest} {answer : Server × HttpResponse}
    (hcreate : w.createSubscriber orders streamId request = some answer) : Keeps w answer := by
  unfold Server.createSubscriber at hcreate
  cases hprepare : prepareSubscriber w.registry request streamId with
  | error response =>
      rw [hprepare] at hcreate
      obtain rfl := Option.some.inj hcreate
      exact keeps_unchanged w response
  | ok prepared =>
      rw [hprepare] at hcreate
      obtain ⟨hstream, publisher, config, hpublisher, hconfig⟩ := prepareSubscriber_ok hprepare
      obtain ⟨created, hcreated, rfl⟩ := Option.map_eq_some_iff.mp hcreate
      match created with
      | .error .streamAlreadyHasPublisher => exact keeps_unchanged w _
      | .error .publisherNotFound => exact keeps_unchanged w _
      | .error .publisherSessionNotFound => exact keeps_unchanged w _
      | .error .subscriberSessionNotFound => exact keeps_unchanged w _
      | .ok (registry, session) =>
          refine ⟨.single (.startSubscriber orders hstream hcreated hpublisher hconfig), ?_⟩
          intro herror
          simp [HttpResponse.isError] at herror

/-- A removal which succeeds answers without content, every other one changes nothing. -/
theorem removal (notFound failed : HttpResponse) {w' : Server}
    {result : Except StreamRegistryError Server} (hresult : result = .ok w')
    (hchanged : Changed w w') : Keeps w (w.removalResponse notFound failed result) := by
  subst hresult
  refine ⟨.single hchanged, fun herror => ?_⟩
  simp [Server.removalResponse, Server.noContent, HttpResponse.isError] at herror

theorem deletePublisherSession (h : Agrees w) (orders : VisitOrders) (sessionId : Text) :
    Keeps w (w.deletePublisherSession orders sessionId) := by
  unfold Server.deletePublisherSession
  simp only
  split_ifs
  · exact keeps_unchanged w _
  · cases hs : w.registry.publishersBySessionId.find? sessionId with
    | none => exact keeps_unchanged w _
    | some session =>
        obtain ⟨w', hremove, -⟩ := h.removePublisher hs orders
        exact removal _ _ hremove (.removePublisher orders hs hremove)

theorem deleteSubscriberSession (h : Agrees w) (sessionId : Text) :
    Keeps w (w.deleteSubscriberSession sessionId) := by
  unfold Server.deleteSubscriberSession
  simp only
  split_ifs
  · exact keeps_unchanged w _
  · cases hs : w.registry.subscribersBySessionId.find? sessionId with
    | none => exact keeps_unchanged w _
    | some session =>
        obtain ⟨w', hremove, -⟩ := h.removeSubscriber hs
        exact removal _ _ hremove (.removeSubscriber hs hremove)

theorem deleteStream (h : Agrees w) (orders : VisitOrders) (streamId : Text) :
    Keeps w (w.deleteStream orders streamId) := by
  unfold Server.deleteStream
  simp only
  split_ifs
  · exact keeps_unchanged w _
  · cases hs : w.registry.publishersByStreamId.find? streamId with
    | none => exact keeps_unchanged w _
    | some session =>
        obtain ⟨rfl, hsession⟩ := h.publishers.byStreamId _ _ hs
        obtain ⟨w', hremove, -⟩ := h.removePublisher hsession orders
        exact removal _ _ hremove (.removePublisher orders hsession hremove)

/-- A snapshot with the id of a session is that session's. -/
theorem snapshot_some (h : Agrees w) {snapshot : Registry.StreamSessionLifecycleSnapshot}
    (hmem : snapshot ∈ w.registry.sessionLifecycleSnapshots) :
    (snapshot.kind = .publisher ∧ ∃ s, w.registry.publishersBySessionId.find? snapshot.sessionId =
      some s ∧ snapshot.streamId = s.streamId ∧ snapshot.sessionId = s.sessionId) ∨
    (snapshot.kind = .subscriber ∧ ∃ s, w.registered snapshot.sessionId = some s) := by
  rcases List.mem_append.mp hmem with hmem | hmem
  · obtain ⟨s, hs, rfl⟩ := List.mem_map.mp hmem
    obtain ⟨id, hid⟩ := AssocMap.mem_values.mp hs
    obtain ⟨rfl, -⟩ := h.publishers.bySessionId id s hid
    exact .inl ⟨rfl, s, hid, rfl, rfl⟩
  · obtain ⟨s, hs, rfl⟩ := List.mem_map.mp hmem
    obtain ⟨id, hid⟩ := AssocMap.mem_values.mp hs
    obtain ⟨rfl, -⟩ := h.subscribers.keys id s hid
    exact .inr ⟨rfl, s, hid⟩

theorem deleteSession (h : Agrees w) (orders : VisitOrders) (sessionId : Text) :
    Keeps w (w.deleteSession orders sessionId) := by
  unfold Server.deleteSession
  simp only
  split_ifs
  · exact keeps_unchanged w _
  · cases hfind : w.registry.sessionLifecycleSnapshots.find? fun s =>
        decide (s.sessionId = sessionId) with
    | none => exact keeps_unchanged w _
    | some snapshot =>
        rcases h.snapshot_some (List.mem_of_find?_eq_some hfind) with
          ⟨hkind, s, hs, hstream, hsession⟩ | ⟨hkind, s, hs⟩
        · obtain ⟨w', hremove, -⟩ := h.removePublisher hs orders
          have hchanged := Changed.removePublisher orders hs hremove
          rw [← hstream, ← hsession] at hremove
          simp only [hkind, hs]
          exact removal _ _ hremove hchanged
        · have hfound : w.registry.subscribersBySessionId.find? snapshot.sessionId = some s := hs
          obtain ⟨w', hremove, -⟩ := h.removeSubscriber hs
          simp only [hkind, hfound]
          exact removal _ _ hremove (.removeSubscriber hs hremove)

theorem publisherInactivityTimeout (h : Agrees w) (orders : VisitOrders) (transport : ℕ) :
    Relation.ReflTransGen Changed w (w.publisherInactivityTimeout orders transport) := by
  unfold Server.publisherInactivityTimeout
  cases ht : w.publisherTransports[transport]? with
  | none => exact .refl
  | some t =>
      let taken : Server := { w with
        publisherTransports :=
          w.publisherTransports.modify transport WhipSessionTransport.takeInactivityHandler }
      have htake : Changed w taken := .takePublisherTimer transport
      simp only
      split_ifs with hclosed
      · exact .refl
      · cases hhandler : t.inactivityTimeoutHandler with
        | none => exact .single htake
        | some captured =>
            obtain rfl := h.publishers.handlers transport t ht captured hhandler
            simp only
            cases hs : w.registry.publishersBySessionId.find? t.sessionId with
            | none => exact .single htake
            | some s =>
                obtain ⟨s', hs', hindex⟩ :=
                  h.publishers.registered_of_open transport t ht (by simpa using hclosed)
                obtain rfl := Option.some.inj (hs.symm.trans hs')
                obtain ⟨t', ht', -, -, hsession, hstream⟩ := h.publishers.transports _ s hs
                rw [hindex, ht, Option.some.injEq] at ht'
                subst ht'
                have htaken := h.changed htake
                obtain ⟨w', hremove, -⟩ := htaken.removePublisher hs orders
                have hchanged := Changed.removePublisher (w := taken) orders hs hremove
                rw [← hstream, ← hsession] at hremove
                change Relation.ReflTransGen Changed w ((taken.removePublisher orders t.sessionId s
                  t.streamId t.sessionId).toOption.getD taken)
                rw [hremove]
                exact (Relation.ReflTransGen.single htake).tail hchanged

theorem subscriberInactivityTimeout (h : Agrees w) (transport : ℕ) :
    Relation.ReflTransGen Changed w (w.subscriberInactivityTimeout transport) := by
  unfold Server.subscriberInactivityTimeout
  cases w.lock transport with
  | none => exact .refl
  | some t =>
      have htake : Changed w { w with
          subscriberTransports :=
            w.subscriberTransports.modify transport WhepSessionTransport.takeInactivityHandler } :=
        .takeSubscriberTimer transport
      cases hhandler : t.inactivityTimeoutHandler with
      | none =>
          simp only [hhandler]
          exact .single htake
      | some sessionId =>
          cases hs : w.registry.subscribersBySessionId.find? sessionId with
          | none =>
              simp only [hhandler, hs]
              exact .single htake
          | some s =>
              obtain ⟨w', hremove, -⟩ := (h.changed htake).removeSubscriber hs
              simp only [hhandler, hs, hremove, Except.toOption, Option.getD_some]
              exact (Relation.ReflTransGen.single htake).tail (.removeSubscriber hs hremove)

theorem publisherRecoveryTimeout (w : Server) (orders : VisitOrders) (transport : ℕ) :
    Relation.ReflTransGen Changed w (w.publisherRecoveryTimeout orders transport) := by
  unfold Server.publisherRecoveryTimeout
  cases w.lock transport with
  | none => exact .refl
  | some t =>
      simp only
      split_ifs
      · exact .refl
      · exact .single (.failPublisher orders transport)

theorem perform (h : Agrees w) {e : Event} {w' : Server} {response : Option HttpResponse}
    (hperform : w.perform e = some (w', response)) :
    Relation.ReflTransGen Changed w w' ∧ ∀ r, response = some r → r.isError → w' = w := by
  unfold Server.perform at hperform
  obtain ⟨operation, orders⟩ := e
  have answered : ∀ {answer : Server × HttpResponse}, Keeps w answer →
      some (answer.1, some answer.2) = some (w', response) →
      Relation.ReflTransGen Changed w w' ∧ ∀ r, response = some r → r.isError → w' = w := by
    rintro answer ⟨hchanges, herror⟩ heq
    obtain ⟨rfl, rfl⟩ := Prod.mk.inj (Option.some.inj heq)
    refine ⟨hchanges, ?_⟩
    rintro r hr
    obtain rfl := Option.some.inj hr
    exact herror
  have unanswered : ∀ {next : Server}, Relation.ReflTransGen Changed w next →
      some (next, none) = some (w', response) →
      Relation.ReflTransGen Changed w w' ∧ ∀ r, response = some r → r.isError → w' = w := by
    intro next hchanges heq
    obtain ⟨rfl, rfl⟩ := Prod.mk.inj (Option.some.inj heq)
    exact ⟨hchanges, fun r hr => by cases hr⟩
  cases operation with
  | createPublisher streamId request =>
      obtain ⟨answer, hcreate, heq⟩ := Option.bind_eq_some_iff.mp hperform
      exact answered (createPublisher hcreate) heq
  | createSubscriber streamId request =>
      obtain ⟨answer, hcreate, heq⟩ := Option.bind_eq_some_iff.mp hperform
      exact answered (createSubscriber hcreate) heq
  | deletePublisherSession sessionId =>
      exact answered (h.deletePublisherSession orders sessionId) hperform
  | deleteSubscriberSession sessionId =>
      exact answered (h.deleteSubscriberSession sessionId) hperform
  | deleteSession sessionId => exact answered (h.deleteSession orders sessionId) hperform
  | deleteStream streamId => exact answered (h.deleteStream orders streamId) hperform
  | publisherInactivityTimeout transport =>
      exact unanswered (h.publisherInactivityTimeout orders transport) hperform
  | subscriberInactivityTimeout transport =>
      exact unanswered (h.subscriberInactivityTimeout transport) hperform
  | publisherRecoveryTimeout transport =>
      exact unanswered (publisherRecoveryTimeout w orders transport) hperform

end Agrees

theorem agrees_initial : Agrees {} := by
  refine ⟨⟨?_, ?_, ?_, ?_⟩, ⟨?_, ?_, ?_, ?_, ?_, ?_⟩, ?_⟩
  all_goals simp [Server.registered]

theorem Agrees.changes {Inv : Server → Prop}
    (hchange : ∀ w w', Agrees w → Inv w → Changed w w' → Inv w') {w w' : Server}
    (h : Agrees w) (hinv : Inv w) (hchanges : Relation.ReflTransGen Changed w w') :
    Agrees w' ∧ Inv w' := by
  induction hchanges with
  | refl => exact ⟨h, hinv⟩
  | tail _ hchanged ih => exact ⟨ih.1.changed hchanged, hchange _ _ ih.1 ih.2 hchanged⟩

/-- What agreeing states keep through every change holds in every run. -/
theorem invariant_of_changed {Inv : Server → Prop} (hinit : Inv {})
    (hchange : ∀ w w', Agrees w → Inv w → Changed w w' → Inv w') {events : List Event}
    {w : Server} (h : Server.system.Run events w) : Agrees w ∧ Inv w := by
  induction h with
  | start hs =>
      obtain rfl := hs
      exact ⟨agrees_initial, hinit⟩
  | step _ hstep hbefore =>
      obtain ⟨⟨next, response⟩, hperform, rfl⟩ := Option.map_eq_some_iff.mp hstep
      exact hbefore.1.changes hchange hbefore.2 (hbefore.1.perform hperform).1

theorem run_agrees {events : List Event} {w : Server} (h : Server.system.Run events w) :
    Agrees w := (invariant_of_changed trivial (fun _ _ _ _ _ => trivial) h).1

/-! ## The registry and the router -/

/-- What the registry, the router and the transports of a state have to do with each other. -/
structure RegistryMatchesRouter (w : Server) : Prop where
  samePublishers : ∀ s, (∃ streamId, w.registry.publishersByStreamId.find? streamId = some s) ↔
    ∃ id, w.registry.publishersBySessionId.find? id = some s
  publisherKeys : ∀ streamId s, w.registry.publishersByStreamId.find? streamId = some s →
    s.streamId = streamId
  onePublisher : ∀ id id' s s', w.registry.publishersBySessionId.find? id = some s →
    w.registry.publishersBySessionId.find? id' = some s' → s.streamId = s'.streamId → s = s'
  publisherIds : ∀ id s, w.registry.publishersBySessionId.find? id = some s → s.sessionId = id
  subscriberIds : ∀ id s, w.registry.subscribersBySessionId.find? id = some s → s.sessionId = id
  distinctIds : ∀ id, w.registry.publishersBySessionId.find? id = none ∨
    w.registry.subscribersBySessionId.find? id = none
  sources : ∀ streamId,
    (w.router.publisherSourcesByStreamId.find? streamId).map MediaPublisherSource.sessionId =
      (w.registry.publishersByStreamId.find? streamId).map StreamSession.sessionId
  subscriptions : ∀ id, w.router.subscriptionsBySessionId.find? id =
    (w.registry.subscribersBySessionId.find? id).map fun s => ⟨s.streamId, s.transport⟩
  openPublishers : ∀ id s, w.registry.publishersBySessionId.find? id = some s →
    ∃ t, w.publisherTransports[s.transport]? = some t ∧ t.closed = false
  openSubscribers : ∀ id s, w.registry.subscribersBySessionId.find? id = some s →
    ∃ t, w.subscriberTransports[s.transport]? = some t ∧ t.closed = false
  closedPublishers : ∀ (i : ℕ) (t : WhipSessionTransport), w.publisherTransports[i]? = some t →
    (∀ id s, w.registry.publishersBySessionId.find? id = some s → s.transport ≠ i) →
    t.closed = true
  closedSubscribers : ∀ (i : ℕ) (t : WhepSessionTransport), w.subscriberTransports[i]? = some t →
    (∀ id s, w.registry.subscribersBySessionId.find? id = some s → s.transport ≠ i) →
    t.closed = true ∧
      ∀ id s, w.router.subscriptionsBySessionId.find? id = some s → s.transport ≠ i

theorem Agrees.registryMatchesRouter {w : Server} (h : Agrees w) : RegistryMatchesRouter w := by
  obtain ⟨hsubscribers, hpublishers, hdistinct⟩ := h
  constructor
  · intro s
    constructor
    · rintro ⟨streamId, hs⟩
      exact ⟨_, (hpublishers.byStreamId streamId s hs).2⟩
    · rintro ⟨id, hs⟩
      exact ⟨_, (hpublishers.bySessionId id s hs).2.2.2⟩
  · exact fun streamId s hs => (hpublishers.byStreamId streamId s hs).1
  · intro id id' s s' hs hs' heq
    have hstream := (hpublishers.bySessionId id s hs).2.2.2
    rw [heq, (hpublishers.bySessionId id' s' hs').2.2.2, Option.some.injEq] at hstream
    exact hstream.symm
  · exact fun id s hs => (hpublishers.bySessionId id s hs).1
  · exact fun id s hs => (hsubscribers.keys id s hs).1
  · intro id
    cases hid : w.registry.subscribersBySessionId.find? id with
    | none => exact .inr rfl
    | some s => exact .inl (hdistinct id s hid)
  · intro streamId
    have hsources := congrArg (Option.map Prod.fst) (hpublishers.sources streamId)
    simpa only [Option.map_map, Function.comp_def] using hsources
  · exact hsubscribers.subscriptions
  · intro id s hs
    obtain ⟨t, ht, hopen, -⟩ := hpublishers.transports id s hs
    exact ⟨t, ht, hopen⟩
  · intro id s hs
    obtain ⟨t, ht, hserves⟩ := hsubscribers.transports id s hs
    exact ⟨t, ht, hserves.not_closed⟩
  · intro i t ht hnobody
    by_contra hopen
    obtain ⟨s, hs, hindex⟩ := hpublishers.registered_of_open i t ht (by simpa using hopen)
    exact hnobody _ s hs hindex
  · intro i t ht hnobody
    refine ⟨?_, ?_⟩
    · by_contra hopen
      obtain ⟨s, hs, hindex⟩ := hsubscribers.registered_of_open i t ht (by simpa using hopen)
      exact hnobody _ s hs hindex
    · intro id subscription hsubscription hindex
      rw [hsubscribers.subscriptions, Option.map_eq_some_iff] at hsubscription
      obtain ⟨s, hs, rfl⟩ := hsubscription
      exact hnobody id s hs hindex

/-- The registry and the router agree after every operation, and an operation which answers with
an error changes nothing. -/
theorem run_registry_matches_router {events : List Event} {w : Server}
    (h : Server.system.Run events w) :
    RegistryMatchesRouter w ∧ ∀ e w' response, w.perform e = some (w', some response) →
      response.isError → w' = w := by
  have hagrees := run_agrees h
  exact ⟨hagrees.registryMatchesRouter, fun e w' response hperform =>
    (hagrees.perform hperform).2 response rfl⟩

def storedOrders : VisitOrders := ⟨.asStored, .asStored⟩

/-- A request with nothing wrong outside the offer, and one session id drawn for it. -/
def offerRequest (description : SessionDescription) (drawn : UInt8) : OfferRequest where
  applicationSdp := true
  bodySize := 1
  description := .ok description
  localUdpPort := some 5000
  transportStart := .ok ()
  answerOptions := .ok WhipPublisher.localOptions
  drawnSessionIds := [⟨List.replicate 24 drawn, List.length_replicate⟩]
  drawnSsrcs := [1, 2]
  cname := ascii "sw-0"

def vp8Offer (direction : String) : SessionDescription :=
  WhipPublisher.publisherDescription "BUNDLE 0"
    [{ WhipPublisher.vp8Section "0" with
        attributes :=
          [⟨ascii "mid", ascii "0"⟩, { key := ascii direction }, { key := ascii "rtcp-mux" },
            ⟨ascii "rtpmap", ascii "96 VP8/90000"⟩] }]

def publishLive : Event :=
  ⟨.createPublisher (ascii "live") (offerRequest (vp8Offer "sendonly") 48), storedOrders⟩

def watchLive : Event :=
  ⟨.createSubscriber (ascii "live") (offerRequest (vp8Offer "recvonly") 49), storedOrders⟩

def publishedServer : Server := (Server.step {} publishLive).getD {}

def watchedServer : Server := (publishedServer.step watchLive).getD {}

theorem watchedServer_run : Server.system.Run [publishLive, watchLive] watchedServer := by
  have hpublish : Server.step {} publishLive = some publishedServer := by decide +kernel
  have hwatch : publishedServer.step watchLive = some watchedServer := by decide +kernel
  exact .step (.step (.start rfl) hpublish) hwatch

theorem run_registry_matches_router_watched :
    RegistryMatchesRouter watchedServer ∧
      (watchedServer.deleteStream storedOrders (ascii "other")).1 = watchedServer := by
  have hmatches := run_registry_matches_router watchedServer_run
  have hstatus : 400 ≤ (watchedServer.deleteStream storedOrders (ascii "other")).2.status := by
    decide +kernel
  exact ⟨hmatches.1, hmatches.2 ⟨.deleteStream (ascii "other"), storedOrders⟩ _ _ rfl hstatus⟩

end SimpleWebrtc.SessionServer
