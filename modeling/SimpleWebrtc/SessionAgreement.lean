import SimpleWebrtc.SessionServer

/-!
# The registry, the router and the transports agree

A subscriber session is registered, subscribed and served by an open transport,
or it is none of these. The sessions which are being removed are taken out of
the registry before they are closed, so the agreement is stated against a lookup
of registered sessions and closing a session removes it from that lookup.
-/
namespace SimpleWebrtc.SessionServer
open Library Library.Text SdpSummary SdpAnswer RewriterConfig MediaFanout StreamRegistry WhepSession

/-- The open transport of a registered subscriber. -/
structure Serves (t : WhepSessionTransport) (session : StreamSession) : Prop where
  not_closed : t.closed = false
  owned : t.owned = true
  streamId : t.streamId = session.streamId
  sessionId : t.sessionId = session.sessionId

structure SubscribersAgree (registered : Text → Option StreamSession) (w : Server) : Prop where
  keys : ∀ id s, registered id = some s → s.sessionId = id ∧ s.sessionId ≠ [] ∧ s.streamId ≠ []
  transports : ∀ id s, registered id = some s →
    ∃ t, w.subscriberTransports[s.transport]? = some t ∧ Serves t s
  subscriptions : ∀ id, w.router.subscriptionsBySessionId.find? id =
    (registered id).map fun s => ⟨s.streamId, s.transport⟩
  registered_of_open : ∀ i t, w.subscriberTransports[i]? = some t → t.closed = false →
    ∃ s, registered t.sessionId = some s ∧ s.transport = i

namespace SubscribersAgree
variable {registered : Text → Option StreamSession} {w : Server}

/-- A transport serves one session. -/
theorem transport_inj (h : SubscribersAgree registered w) {id id' : Text} {s s' : StreamSession}
    (hs : registered id = some s) (hs' : registered id' = some s')
    (heq : s.transport = s'.transport) : id = id' := by
  obtain ⟨t, ht, hserves⟩ := h.transports id s hs
  obtain ⟨t', ht', hserves'⟩ := h.transports id' s' hs'
  rw [heq, ht', Option.some.injEq] at ht
  subst ht
  rw [← (h.keys id s hs).1, ← (h.keys id' s' hs').1, ← hserves.sessionId, hserves'.sessionId]

theorem closeSubscriber_eq (h : SubscribersAgree registered w) {s : StreamSession}
    (hs : registered s.sessionId = some s) :
    w.closeSubscriber s =
      { w with
        router :=
          { w.router.cancelKeyframeRequestsForSubscriber s.sessionId with
            subscriptionsBySessionId := w.router.subscriptionsBySessionId.erase s.sessionId }
        subscriberTransports :=
          w.subscriberTransports.modify s.transport WhepSessionTransport.shutDown } := by
  obtain ⟨t, ht, hserves⟩ := h.transports _ s hs
  have hsubscription := h.subscriptions s.sessionId
  rw [hs, Option.map_some] at hsubscription
  have hunsubscribe : w.router.unsubscribe s.sessionId =
      { w.router.cancelKeyframeRequestsForSubscriber s.sessionId with
        subscriptionsBySessionId := w.router.subscriptionsBySessionId.erase s.sessionId } := by
    simp [MediaFanoutRouter.unsubscribe, hsubscription, (h.keys _ s hs).2.1]
  simp [Server.closeSubscriber, Server.closeSubscriberTransport, ht, hserves.owned,
    hserves.not_closed, hserves.sessionId, hunsubscribe]

/-- Closing a session takes it out of the agreement. -/
theorem closeSubscriber (h : SubscribersAgree registered w) {s : StreamSession}
    (hs : registered s.sessionId = some s) :
    SubscribersAgree (Function.update registered s.sessionId none) (w.closeSubscriber s) := by
  rw [h.closeSubscriber_eq hs]
  constructor
  · intro id s' hs'
    by_cases hid : id = s.sessionId
    · simp [hid] at hs'
    · exact h.keys id s' (by simpa [hid] using hs')
  · intro id s' hs'
    by_cases hid : id = s.sessionId
    · simp [hid] at hs'
    · have hregistered : registered id = some s' := by simpa [hid] using hs'
      have hne : s.transport ≠ s'.transport := fun heq =>
        hid (h.transport_inj hregistered hs heq.symm)
      obtain ⟨t, ht, hserves⟩ := h.transports id s' hregistered
      exact ⟨t, by simp [hne, ht], hserves⟩
  · intro id
    simp only [AssocMap.find?_erase, Function.update_apply, h.subscriptions]
    split_ifs <;> rfl
  · intro i t ht hopen
    by_cases hi : s.transport = i
    · subst hi
      obtain ⟨t', ht', -⟩ := h.transports _ s hs
      simp only [List.getElem?_modify, ht', if_true, Option.map_eq_map, Option.map_some,
        Option.some.injEq] at ht
      subst ht
      simp [WhepSessionTransport.shutDown] at hopen
    · have hold : w.subscriberTransports[i]? = some t := by
        simpa [List.getElem?_modify, hi] using ht
      obtain ⟨s', hs', htransport⟩ := h.registered_of_open i t hold hopen
      have hid : t.sessionId ≠ s.sessionId := by
        intro heq
        rw [heq, hs, Option.some.injEq] at hs'
        exact hi (hs' ▸ htransport)
      exact ⟨s', by simpa [hid] using hs', htransport⟩

/-- The agreement reads a state's lookup, its subscriptions and its transports. -/
theorem congr (h : SubscribersAgree registered w) {registered' : Text → Option StreamSession}
    {w' : Server} (hregistered : registered' = registered)
    (hsubscriptions : w'.router.subscriptionsBySessionId = w.router.subscriptionsBySessionId)
    (htransports : w'.subscriberTransports = w.subscriberTransports) :
    SubscribersAgree registered' w' := by
  subst hregistered
  exact ⟨h.keys, htransports ▸ h.transports, hsubscriptions ▸ h.subscriptions,
    htransports ▸ h.registered_of_open⟩

theorem closeSubscribers (h : SubscribersAgree registered w) (sessions : List StreamSession)
    (hs : ∀ s ∈ sessions, registered s.sessionId = some s)
    (hnodup : (sessions.map StreamSession.sessionId).Nodup) :
    SubscribersAgree
      (fun id => if id ∈ sessions.map StreamSession.sessionId then none else registered id)
      (w.closeSubscribers sessions) := by
  induction sessions generalizing registered w with
  | nil => simpa [Server.closeSubscribers] using h
  | cons s sessions ih =>
      rw [List.map_cons, List.nodup_cons] at hnodup
      have hrest : ∀ s' ∈ sessions,
          Function.update registered s.sessionId none s'.sessionId = some s' := by
        intro s' hs'
        have hne : s'.sessionId ≠ s.sessionId := fun heq =>
          hnodup.1 (heq ▸ List.mem_map_of_mem hs')
        simpa [hne] using hs s' (List.mem_cons_of_mem _ hs')
      have hclosed := ih (h.closeSubscriber (hs s (by simp))) hrest hnodup.2
      refine hclosed.congr ?_ rfl rfl
      funext id
      by_cases hid : id = s.sessionId
      · simp [hid]
      · simp [hid]

end SubscribersAgree

/-! ## What the subscribers cannot change -/

/-- The publishers' side of two states is the same. -/
structure SamePublishers (w w' : Server) : Prop where
  byStreamId : w'.registry.publishersByStreamId = w.registry.publishersByStreamId
  bySessionId : w'.registry.publishersBySessionId = w.registry.publishersBySessionId
  sources : w'.router.publisherSourcesByStreamId = w.router.publisherSourcesByStreamId
  nextGeneration : w'.router.nextSourceGeneration = w.router.nextSourceGeneration
  transports : w'.publisherTransports = w.publisherTransports

theorem SamePublishers.refl (w : Server) : SamePublishers w w := ⟨rfl, rfl, rfl, rfl, rfl⟩

theorem SamePublishers.trans {w w' w'' : Server} (h : SamePublishers w w')
    (h' : SamePublishers w' w'') : SamePublishers w w'' :=
  ⟨h'.byStreamId.trans h.byStreamId, h'.bySessionId.trans h.bySessionId,
    h'.sources.trans h.sources, h'.nextGeneration.trans h.nextGeneration,
    h'.transports.trans h.transports⟩

theorem samePublishers_foldl {α : Type*} {f : Server → α → Server}
    (hf : ∀ w a, SamePublishers w (f w a)) (w : Server) (as : List α) :
    SamePublishers w (as.foldl f w) := by
  induction as generalizing w with
  | nil => exact .refl w
  | cons a as ih => exact (hf w a).trans (ih (f w a))

theorem unsubscribe_sources (r : MediaFanoutRouter) (id : Text) :
    (r.unsubscribe id).publisherSourcesByStreamId = r.publisherSourcesByStreamId ∧
      (r.unsubscribe id).nextSourceGeneration = r.nextSourceGeneration := by
  unfold MediaFanoutRouter.unsubscribe
  split
  · exact ⟨rfl, rfl⟩
  · split <;> exact ⟨rfl, rfl⟩

theorem closeSubscriber_samePublishers (w : Server) (s : StreamSession) :
    SamePublishers w (w.closeSubscriber s) := by
  unfold Server.closeSubscriber Server.closeSubscriberTransport
  cases w.subscriberTransports[s.transport]? with
  | none => exact .refl w
  | some t =>
      obtain ⟨hsources, hnext⟩ := unsubscribe_sources w.router t.sessionId
      simp only
      split_ifs
      · exact .refl w
      · exact ⟨rfl, rfl, hsources, hnext, rfl⟩
      · exact .refl w

theorem closeSubscriber_registry (w : Server) (s : StreamSession) :
    (w.closeSubscriber s).registry = w.registry := by
  unfold Server.closeSubscriber Server.closeSubscriberTransport
  cases w.subscriberTransports[s.transport]? with
  | none => rfl
  | some t =>
      simp only
      split_ifs <;> rfl

/-! ## The failure of a publisher -/

def Server.registered (w : Server) (id : Text) : Option StreamSession :=
  w.registry.subscribersBySessionId.find? id

theorem closeSubscribers_registry (w : Server) (sessions : List StreamSession) :
    (w.closeSubscribers sessions).registry = w.registry := by
  induction sessions generalizing w with
  | nil => rfl
  | cons s sessions ih => exact (ih (w.closeSubscriber s)).trans (closeSubscriber_registry w s)

/-- The sessions the failure handler takes out of the registry. -/
def Server.subscribersOf (w : Server) (streamId : Text) : List StreamSession :=
  (w.registry.removeSubscriberSessionsByStreamId streamId).2

theorem SubscribersAgree.mem_subscribersOf {w : Server} (h : SubscribersAgree w.registered w)
    {streamId : Text} {s : StreamSession} :
    s ∈ w.subscribersOf streamId ↔ w.registered s.sessionId = some s ∧ s.streamId = streamId := by
  simp only [Server.subscribersOf, Registry.removeSubscriberSessionsByStreamId, List.mem_filter,
    AssocMap.mem_values, decide_eq_true_eq]
  constructor
  · rintro ⟨⟨id, hid⟩, hstream⟩
    obtain rfl := (h.keys id s hid).1
    exact ⟨hid, hstream⟩
  · rintro ⟨hregistered, hstream⟩
    exact ⟨⟨_, hregistered⟩, hstream⟩

theorem SubscribersAgree.subscribersOf_nodup {w : Server} (h : SubscribersAgree w.registered w)
    (streamId : Text) : ((w.subscribersOf streamId).map StreamSession.sessionId).Nodup := by
  have hkeys : w.registry.subscribersBySessionId.values.map StreamSession.sessionId =
      w.registry.subscribersBySessionId.entries.map Prod.fst := by
    rw [AssocMap.values, List.map_map]
    refine List.map_congr_left fun e he => ?_
    exact (h.keys e.1 e.2 (AssocMap.find?_eq_some.mpr he)).1
  refine List.Nodup.sublist (List.filter_sublist.map _) ?_
  rw [hkeys]
  exact w.registry.subscribersBySessionId.nodup

/-- All sessions of the stream leave, and nobody else. -/
theorem SubscribersAgree.handlePublisherFailure {w : Server}
    (h : SubscribersAgree w.registered w) (orders : VisitOrders) (streamId : Text) :
    SubscribersAgree (w.handlePublisherFailure orders streamId).registered
      (w.handlePublisherFailure orders streamId) ∧
    SamePublishers w (w.handlePublisherFailure orders streamId) ∧
    ∀ id, (w.handlePublisherFailure orders streamId).registered id =
      (w.registered id).filter fun s => decide (s.streamId ≠ streamId) := by
  have hperm := orders.closing.perm (w.subscribersOf streamId)
  have hregistry : (w.handlePublisherFailure orders streamId).registry =
      (w.registry.removeSubscriberSessionsByStreamId streamId).1 :=
    closeSubscribers_registry _ _
  have hregistered : ∀ id, (w.handlePublisherFailure orders streamId).registered id =
      (w.registered id).filter fun s => decide (s.streamId ≠ streamId) := by
    intro id
    rw [Server.registered, hregistry]
    exact AssocMap.find?_filter _ _ _
  refine ⟨?_, ?_, hregistered⟩
  · have hleft : SubscribersAgree w.registered
        { w with registry := (w.registry.removeSubscriberSessionsByStreamId streamId).1 } :=
      h.congr rfl rfl rfl
    have hclosed := hleft.closeSubscribers (orders.closing.visit (w.subscribersOf streamId))
      (fun s hs => (h.mem_subscribersOf.mp ((hperm.mem_iff).mp hs)).1)
      (((hperm.map _).nodup_iff).mpr (h.subscribersOf_nodup streamId))
    refine hclosed.congr ?_ rfl rfl
    funext id
    rw [hregistered]
    cases hid : w.registered id with
    | none => simp
    | some s =>
        obtain rfl := (h.keys id s hid).1
        have hmem : s.sessionId ∈
            (orders.closing.visit (w.subscribersOf streamId)).map StreamSession.sessionId ↔
              s.streamId = streamId := by
          rw [(hperm.map _).mem_iff, List.mem_map]
          constructor
          · rintro ⟨s', hs', heq⟩
            obtain ⟨hs', hstream⟩ := h.mem_subscribersOf.mp hs'
            rw [heq, hid, Option.some.injEq] at hs'
            exact hs' ▸ hstream
          · intro hstream
            exact ⟨s, h.mem_subscribersOf.mpr ⟨hid, hstream⟩, rfl⟩
        by_cases hstream : s.streamId = streamId
        · simp [hmem, hstream]
        · simp [hmem, hstream]
  · have hleft : SamePublishers w
        { w with registry := (w.registry.removeSubscriberSessionsByStreamId streamId).1 } :=
      ⟨rfl, rfl, rfl, rfl, rfl⟩
    exact hleft.trans (samePublishers_foldl closeSubscriber_samePublishers _ _)

/-- The transport serves the same session in the same way. -/
structure SameSession (t t' : WhepSessionTransport) : Prop where
  closed : t'.closed = t.closed
  owned : t'.owned = t.owned
  streamId : t'.streamId = t.streamId
  sessionId : t'.sessionId = t.sessionId

theorem SubscribersAgree.modify {registered : Text → Option StreamSession} {w : Server}
    (h : SubscribersAgree registered w) (transport : ℕ)
    {f : WhepSessionTransport → WhepSessionTransport} (hf : ∀ t, SameSession t (f t)) :
    SubscribersAgree registered
      { w with subscriberTransports := w.subscriberTransports.modify transport f } := by
  refine ⟨h.keys, ?_, h.subscriptions, ?_⟩
  · intro id s hs
    obtain ⟨t, ht, hserves⟩ := h.transports id s hs
    by_cases hi : transport = s.transport
    · refine ⟨f t, by simp [hi, ht], ?_⟩
      exact ⟨(hf t).closed.trans hserves.not_closed, (hf t).owned.trans hserves.owned,
        (hf t).streamId.trans hserves.streamId, (hf t).sessionId.trans hserves.sessionId⟩
    · exact ⟨t, by simp [hi, ht], hserves⟩
  · intro i t' ht' hopen
    by_cases hi : transport = i
    · simp only [List.getElem?_modify, hi, if_true, Option.map_eq_map, Option.map_eq_some_iff]
        at ht'
      obtain ⟨t, ht, rfl⟩ := ht'
      rw [(hf t).sessionId]
      exact h.registered_of_open i t ht ((hf t).closed ▸ hopen)
    · exact h.registered_of_open i t' (by simpa [List.getElem?_modify, hi] using ht') hopen

/-- What an operation on a subscriber may do: the agreement stays, the publishers stay, and no
session is registered. -/
structure SubscribersKept (w w' : Server) : Prop where
  agree : SubscribersAgree w'.registered w'
  publishers : SamePublishers w w'
  fewer : ∀ id s, w'.registered id = some s → w.registered id = some s

theorem SubscribersKept.refl {w : Server} (h : SubscribersAgree w.registered w) :
    SubscribersKept w w := ⟨h, .refl w, fun _ _ hs => hs⟩

theorem SubscribersKept.trans {w w' w'' : Server} (h : SubscribersKept w w')
    (h' : SubscribersKept w' w'') : SubscribersKept w w'' :=
  ⟨h'.agree, h.publishers.trans h'.publishers, fun id s hs => h.fewer id s (h'.fewer id s hs)⟩

theorem subscribersKept_foldl {α : Type*} {f : Server → α → Server}
    (hf : ∀ w a, SubscribersAgree w.registered w → SubscribersKept w (f w a)) {w : Server}
    (h : SubscribersAgree w.registered w) (as : List α) : SubscribersKept w (as.foldl f w) := by
  induction as generalizing w with
  | nil => exact .refl h
  | cons a as ih => exact (hf w a h).trans (ih (hf w a h).agree)

theorem SubscribersAgree.kept_modify {w : Server} (h : SubscribersAgree w.registered w)
    (transport : ℕ) {f : WhepSessionTransport → WhepSessionTransport}
    (hf : ∀ t, SameSession t (f t)) :
    SubscribersKept w
      { w with subscriberTransports := w.subscriberTransports.modify transport f } :=
  ⟨h.modify transport hf, ⟨rfl, rfl, rfl, rfl, rfl⟩, fun _ _ hs => hs⟩

theorem SubscribersAgree.kept_failure {w : Server} (h : SubscribersAgree w.registered w)
    (orders : VisitOrders) (streamId : Text) :
    SubscribersKept w (w.handlePublisherFailure orders streamId) := by
  obtain ⟨hagree, hpublishers, hregistered⟩ := h.handlePublisherFailure orders streamId
  refine ⟨hagree, hpublishers, fun id s hs => ?_⟩
  rw [hregistered, Option.filter_eq_some_iff] at hs
  exact hs.1

theorem SubscribersAgree.kept_notifyFailure {w : Server} (h : SubscribersAgree w.registered w)
    (orders : VisitOrders) (transport : ℕ) :
    SubscribersKept w (w.notifyPublisherFailure orders transport) := by
  unfold Server.notifyPublisherFailure
  cases w.subscriberTransports[transport]? with
  | none => exact .refl h
  | some t =>
      have hcleared := h.kept_modify transport
        (f := WhepSessionTransport.takeFailureHandler) fun t => ⟨rfl, rfl, rfl, rfl⟩
      cases hhandler : t.publisherFailureHandler with
      | none => simpa only [hhandler] using hcleared
      | some streamId =>
          simp only [hhandler]
          exact hcleared.trans (hcleared.agree.kept_failure orders streamId)

/-! ## Notifications keep the agreement -/

theorem rebuildRtpRewriter_sameSession (t : WhepSessionTransport) :
    SameSession t t.rebuildRtpRewriter.1 := by
  unfold WhepSessionTransport.rebuildRtpRewriter
  split
  · exact ⟨rfl, rfl, rfl, rfl⟩
  · split <;> exact ⟨rfl, rfl, rfl, rfl⟩

theorem acceptPublisherSource_sameSession (update : MediaPublisherSourceUpdate)
    (t : WhepSessionTransport) : SameSession t (t.acceptPublisherSource update).1 := by
  have hrebuild := rebuildRtpRewriter_sameSession
  unfold WhepSessionTransport.acceptPublisherSource
  simp only
  split_ifs
  · obtain ⟨hclosed, howned, hstream, hsession⟩ := hrebuild
      { ({ t.resetKeyframeRecovery.clearPublisherSenderTimings with
            firSequenceTracker := AssocMap.empty } : WhepSessionTransport) with
        publisherSourceGeneration := update.generation, publisherSource := update.source }
    exact ⟨hclosed, howned, hstream, hsession⟩
  · obtain ⟨hclosed, howned, hstream, hsession⟩ := hrebuild
      { t.resetKeyframeRecovery with
        publisherSourceGeneration := update.generation, publisherSource := update.source }
    exact ⟨hclosed, howned, hstream, hsession⟩

theorem refreshSenderTiming_sameSession (t : WhepSessionTransport) (sourceSsrc : UInt32) :
    SameSession t (t.refreshSenderTiming sourceSsrc) := by
  unfold WhepSessionTransport.refreshSenderTiming
  split
  · exact ⟨rfl, rfl, rfl, rfl⟩
  · split <;> exact ⟨rfl, rfl, rfl, rfl⟩

theorem handlePublisherSenderTiming_sameSession (timing : MediaPublisherSenderTiming)
    (t : WhepSessionTransport) : SameSession t (t.handlePublisherSenderTiming timing) := by
  unfold WhepSessionTransport.handlePublisherSenderTiming
  split
  · exact ⟨rfl, rfl, rfl, rfl⟩
  · split_ifs
    · exact ⟨rfl, rfl, rfl, rfl⟩
    · obtain ⟨hclosed, howned, hstream, hsession⟩ := refreshSenderTiming_sameSession
        { t with
          publisherSenderTimings :=
            t.publisherSenderTimings.insertOrAssign timing.sourceSsrc timing } timing.sourceSsrc
      exact ⟨hclosed, howned, hstream, hsession⟩

theorem cancelKeyframeRequests_frame (r : MediaFanoutRouter) (id : Text) :
    (r.cancelKeyframeRequests id).subscriptionsBySessionId = r.subscriptionsBySessionId ∧
      (r.cancelKeyframeRequests id).publisherSourcesByStreamId = r.publisherSourcesByStreamId ∧
      (r.cancelKeyframeRequests id).nextSourceGeneration = r.nextSourceGeneration := by
  unfold MediaFanoutRouter.cancelKeyframeRequests
  split_ifs <;> exact ⟨rfl, rfl, rfl⟩

/-- The state in which a transport has taken over an update of its source. -/
def Server.accepted (w : Server) (update : MediaPublisherSourceUpdate) (transport : ℕ)
    (sessionId : Text) : Server :=
  { w with
    router := w.router.cancelKeyframeRequests sessionId
    subscriberTransports := w.subscriberTransports.modify transport fun t =>
      (t.acceptPublisherSource update).1 }

theorem SubscribersAgree.kept_accepted {w : Server} (h : SubscribersAgree w.registered w)
    (update : MediaPublisherSourceUpdate) (transport : ℕ) (sessionId : Text) :
    SubscribersKept w (w.accepted update transport sessionId) := by
  obtain ⟨hsubscriptions, hsources, hnext⟩ := cancelKeyframeRequests_frame w.router sessionId
  have hmodified := h.modify transport (acceptPublisherSource_sameSession update)
  exact ⟨hmodified.congr rfl hsubscriptions rfl, ⟨rfl, rfl, hsources, hnext, rfl⟩,
    fun _ _ hs => hs⟩

/-- What the source handler of an open transport does with an update which is not outdated. -/
theorem handlePublisherSource_eq {w : Server} {transport : ℕ} {t : WhepSessionTransport}
    (ht : w.lock transport = some t) {update : MediaPublisherSourceUpdate}
    (hgeneration : t.publisherSourceGeneration ≤ update.generation) (orders : VisitOrders) :
    Server.handlePublisherSource orders update w transport =
      if (t.acceptPublisherSource update).2 then w.accepted update transport t.sessionId
      else (w.accepted update transport t.sessionId).notifyPublisherFailure orders transport := by
  simp only [Server.handlePublisherSource, ht, Nat.not_lt.mpr hgeneration, if_false]
  rfl

theorem SubscribersAgree.kept_source (orders : VisitOrders) (update : MediaPublisherSourceUpdate)
    (w : Server) (transport : ℕ) (h : SubscribersAgree w.registered w) :
    SubscribersKept w (Server.handlePublisherSource orders update w transport) := by
  cases ht : w.lock transport with
  | none =>
      simp only [Server.handlePublisherSource, ht]
      exact .refl h
  | some t =>
      by_cases hgeneration : update.generation < t.publisherSourceGeneration
      · simp only [Server.handlePublisherSource, ht, hgeneration, if_true]
        exact .refl h
      · have haccepted := h.kept_accepted update transport t.sessionId
        rw [handlePublisherSource_eq ht (Nat.not_lt.mp hgeneration)]
        split_ifs
        · exact haccepted
        · exact haccepted.trans (haccepted.agree.kept_notifyFailure orders transport)

theorem SubscribersAgree.kept_notification {w : Server} (h : SubscribersAgree w.registered w)
    (orders : VisitOrders) (streamId : Text) (update : MediaPublisherSourceUpdate) :
    SubscribersKept w (w.notifyPublisherSource orders streamId update) :=
  subscribersKept_foldl (SubscribersAgree.kept_source orders update) h _

theorem getElem?_snoc {α : Type*} (xs : List α) (x : α) (i : ℕ) :
    (xs ++ [x])[i]? = if i = xs.length then some x else xs[i]? := by
  rw [List.getElem?_append]
  split_ifs with hlt heq heq
  · omega
  · rfl
  · simp [heq]
  · rw [List.getElem?_eq_none, List.getElem?_eq_none]
    · omega
    · simp only [List.length_singleton]
      omega

/-! ## The publishers -/

structure PublishersAgree (w : Server) : Prop where
  byStreamId : ∀ streamId s, w.registry.publishersByStreamId.find? streamId = some s →
    s.streamId = streamId ∧ w.registry.publishersBySessionId.find? s.sessionId = some s
  bySessionId : ∀ id s, w.registry.publishersBySessionId.find? id = some s →
    s.sessionId = id ∧ s.sessionId ≠ [] ∧ s.streamId ≠ [] ∧
      w.registry.publishersByStreamId.find? s.streamId = some s
  sources : ∀ streamId,
    (w.router.publisherSourcesByStreamId.find? streamId).map (fun s => (s.sessionId, s.offer)) =
      (w.registry.publishersByStreamId.find? streamId).map
        fun s => (s.sessionId, s.remoteOfferSummary)
  transports : ∀ id s, w.registry.publishersBySessionId.find? id = some s →
    ∃ t, w.publisherTransports[s.transport]? = some t ∧ t.closed = false ∧ t.owned = true ∧
      t.sessionId = s.sessionId ∧ t.streamId = s.streamId
  registered_of_open : ∀ i t, w.publisherTransports[i]? = some t → t.closed = false →
    ∃ s, w.registry.publishersBySessionId.find? t.sessionId = some s ∧ s.transport = i
  handlers : ∀ (i : ℕ) (t : WhipSessionTransport), w.publisherTransports[i]? = some t →
    ∀ captured, t.inactivityTimeoutHandler = some captured → captured = (t.streamId, t.sessionId)

namespace PublishersAgree
variable {w : Server}

theorem of_same (h : PublishersAgree w) {w' : Server} (hsame : SamePublishers w w') :
    PublishersAgree w' := by
  obtain ⟨hstream, hsession, hsources, -, htransports⟩ := hsame
  constructor
  · rw [hstream, hsession]
    exact h.byStreamId
  · rw [hstream, hsession]
    exact h.bySessionId
  · rw [hsources, hstream]
    exact h.sources
  · rw [hsession, htransports]
    exact h.transports
  · rw [hsession, htransports]
    exact h.registered_of_open
  · rw [htransports]
    exact h.handlers

theorem source (h : PublishersAgree w) {id : Text} {s : StreamSession}
    (hs : w.registry.publishersBySessionId.find? id = some s) :
    ∃ source, w.router.publisherSourcesByStreamId.find? s.streamId = some source ∧
      source.sessionId = s.sessionId ∧ source.offer = s.remoteOfferSummary := by
  have hsources := h.sources s.streamId
  rw [(h.bySessionId id s hs).2.2.2, Option.map_some, Option.map_eq_some_iff] at hsources
  obtain ⟨source, hsource, heq⟩ := hsources
  exact ⟨source, hsource, congrArg Prod.fst heq, congrArg Prod.snd heq⟩

/-- A publisher leaves: its entries, its source and its transport. -/
theorem remove (h : PublishersAgree w) {id : Text} {s : StreamSession}
    (hs : w.registry.publishersBySessionId.find? id = some s) {w' : Server}
    (hstream : w'.registry.publishersByStreamId = w.registry.publishersByStreamId.erase s.streamId)
    (hsession : w'.registry.publishersBySessionId = w.registry.publishersBySessionId.erase id)
    (hsources : w'.router.publisherSourcesByStreamId =
      w.router.publisherSourcesByStreamId.erase s.streamId)
    (htransports : w'.publisherTransports =
      w.publisherTransports.modify s.transport WhipSessionTransport.shutDown) :
    PublishersAgree w' := by
  obtain ⟨rfl, -, -, hregistered⟩ := h.bySessionId id s hs
  have hsame : ∀ s', w.registry.publishersByStreamId.find? s'.streamId = some s' →
      s'.streamId = s.streamId → s' = s := by
    intro s' hs' heq
    rw [heq, hregistered] at hs'
    exact (Option.some.inj hs').symm
  constructor
  · intro streamId s' hs'
    rw [hstream, AssocMap.find?_erase] at hs'
    split_ifs at hs' with hne
    obtain ⟨rfl, hs'session⟩ := h.byStreamId streamId s' hs'
    refine ⟨rfl, ?_⟩
    rw [hsession, AssocMap.find?_erase, if_neg, hs'session]
    intro heq
    rw [heq, hs, Option.some.injEq] at hs'session
    exact hne (hs'session ▸ rfl)
  · intro id' s' hs'
    rw [hsession, AssocMap.find?_erase] at hs'
    split_ifs at hs' with hne
    obtain ⟨rfl, hne_nil, hstream_ne, hs'stream⟩ := h.bySessionId id' s' hs'
    refine ⟨rfl, hne_nil, hstream_ne, ?_⟩
    rw [hstream, AssocMap.find?_erase, if_neg, hs'stream]
    exact fun heq => hne (congrArg StreamSession.sessionId (hsame s' hs'stream heq))
  · intro streamId
    rw [hsources, hstream, AssocMap.find?_erase, AssocMap.find?_erase]
    split_ifs
    · rfl
    · exact h.sources streamId
  · intro id' s' hs'
    rw [hsession, AssocMap.find?_erase] at hs'
    split_ifs at hs' with hne
    obtain ⟨t', ht', hopen', howned', hid', hstream'⟩ := h.transports id' s' hs'
    obtain ⟨t, ht, -, -, hid, -⟩ := h.transports _ s hs
    have hindex : s.transport ≠ s'.transport := by
      intro heq
      rw [heq, ht', Option.some.injEq] at ht
      subst ht
      exact hne ((h.bySessionId id' s' hs').1 ▸ (hid'.symm.trans hid))
    exact ⟨t', by simp [htransports, hindex, ht'], hopen', howned', hid', hstream'⟩
  · intro i t' ht' hopen'
    by_cases hi : s.transport = i
    · subst hi
      obtain ⟨t, ht, hopen, -, -, -⟩ := h.transports _ s hs
      simp only [htransports, List.getElem?_modify, ht, if_true, Option.map_eq_map,
        Option.map_some, Option.some.injEq] at ht'
      subst ht'
      simp [WhipSessionTransport.shutDown, hopen] at hopen'
    · have hold : w.publisherTransports[i]? = some t' := by
        simpa [htransports, List.getElem?_modify, hi] using ht'
      obtain ⟨s', hs', hindex⟩ := h.registered_of_open i t' hold hopen'
      refine ⟨s', ?_, hindex⟩
      rw [hsession, AssocMap.find?_erase, if_neg, hs']
      intro heq
      rw [heq, hs, Option.some.injEq] at hs'
      exact hi (hs' ▸ hindex)
  · intro i t' ht' captured hcaptured
    rw [htransports, List.getElem?_modify] at ht'
    split_ifs at ht' with hi
    · simp only [Option.map_eq_map, Option.map_eq_some_iff] at ht'
      obtain ⟨t, ht, rfl⟩ := ht'
      by_cases hclosed : t.closed = true
      · simp only [WhipSessionTransport.shutDown, hclosed, if_true] at hcaptured ⊢
        exact h.handlers i t ht captured hcaptured
      · simp [WhipSessionTransport.shutDown, hclosed] at hcaptured
    · exact h.handlers i t' (by simpa using ht') captured hcaptured

/-- A publisher arrives: its entries, its source and its transport. -/
theorem add (h : PublishersAgree w) {s : StreamSession}
    (hunused : w.registry.publishersBySessionId.find? s.sessionId = none)
    (hfree : w.registry.publishersByStreamId.find? s.streamId = none)
    (hid : s.sessionId ≠ []) (hstream_ne : s.streamId ≠ [])
    (htransport : s.transport = w.publisherTransports.length)
    (t : WhipSessionTransport) (hopen : t.closed = false) (howned : t.owned = true)
    (hstreamId : t.streamId = s.streamId) (hsessionId : t.sessionId = s.sessionId)
    (hhandler : t.inactivityTimeoutHandler = some (t.streamId, t.sessionId))
    (source : MediaPublisherSource) (hsourceId : source.sessionId = s.sessionId)
    (hoffer : source.offer = s.remoteOfferSummary) {w' : Server}
    (hstream : w'.registry.publishersByStreamId =
      w.registry.publishersByStreamId.insertOrAssign s.streamId s)
    (hsession : w'.registry.publishersBySessionId =
      w.registry.publishersBySessionId.insertOrAssign s.sessionId s)
    (hsources : w'.router.publisherSourcesByStreamId =
      w.router.publisherSourcesByStreamId.insertOrAssign s.streamId source)
    (htransports : w'.publisherTransports = w.publisherTransports ++ [t]) :
    PublishersAgree w' := by
  have hnew : w'.publisherTransports[s.transport]? = some t := by
    rw [htransports, getElem?_snoc, if_pos htransport]
  have hold : ∀ i t', w'.publisherTransports[i]? = some t' →
      (i = s.transport ∧ t' = t) ∨ w.publisherTransports[i]? = some t' := by
    intro i t' ht'
    rw [htransports, getElem?_snoc] at ht'
    split_ifs at ht' with hi
    · exact .inl ⟨hi.trans htransport.symm, (Option.some.inj ht').symm⟩
    · exact .inr ht'
  constructor
  · intro streamId s' hs'
    rw [hstream, AssocMap.find?_insertOrAssign] at hs'
    rw [hsession, AssocMap.find?_insertOrAssign]
    split_ifs at hs' with hkey
    · obtain rfl := Option.some.inj hs'
      exact ⟨hkey.symm, if_pos rfl⟩
    · obtain ⟨hstream', hsession'⟩ := h.byStreamId streamId s' hs'
      refine ⟨hstream', ?_⟩
      rw [if_neg, hsession']
      intro heq
      rw [heq, hunused] at hsession'
      cases hsession'
  · intro id s' hs'
    rw [hsession, AssocMap.find?_insertOrAssign] at hs'
    rw [hstream, AssocMap.find?_insertOrAssign]
    split_ifs at hs' with hkey
    · obtain rfl := Option.some.inj hs'
      exact ⟨hkey.symm, hid, hstream_ne, if_pos rfl⟩
    · obtain ⟨hid', hne, hne', hstream'⟩ := h.bySessionId id s' hs'
      refine ⟨hid', hne, hne', ?_⟩
      rw [if_neg, hstream']
      intro heq
      rw [heq, hfree] at hstream'
      cases hstream'
  · intro streamId
    rw [hsources, hstream, AssocMap.find?_insertOrAssign, AssocMap.find?_insertOrAssign]
    split_ifs
    · simp [hsourceId, hoffer]
    · exact h.sources streamId
  · intro id s' hs'
    rw [hsession, AssocMap.find?_insertOrAssign] at hs'
    split_ifs at hs' with hkey
    · obtain rfl := Option.some.inj hs'
      exact ⟨t, hnew, hopen, howned, hsessionId, hstreamId⟩
    · obtain ⟨t', ht', hrest⟩ := h.transports id s' hs'
      refine ⟨t', ?_, hrest⟩
      rw [htransports, List.getElem?_append_left (List.getElem?_eq_some_iff.mp ht').1, ht']
  · intro i t' ht' hopen'
    rw [hsession]
    rcases hold i t' ht' with ⟨rfl, rfl⟩ | ht'
    · exact ⟨s, by rw [hsessionId, AssocMap.find?_insertOrAssign_self], rfl⟩
    · obtain ⟨s', hs', hindex⟩ := h.registered_of_open i t' ht' hopen'
      refine ⟨s', ?_, hindex⟩
      rw [AssocMap.find?_insertOrAssign, if_neg, hs']
      intro heq
      rw [heq, hunused] at hs'
      cases hs'
  · intro i t' ht' captured hcaptured
    rcases hold i t' ht' with ⟨rfl, rfl⟩ | ht'
    · exact (Option.some.inj (hhandler.symm.trans hcaptured)).symm
    · exact h.handlers i t' ht' captured hcaptured

theorem modify (h : PublishersAgree w) (transport : ℕ)
    {f : WhipSessionTransport → WhipSessionTransport}
    (hclosed : ∀ t, (f t).closed = t.closed) (howned : ∀ t, (f t).owned = t.owned)
    (hids : ∀ t, ((f t).streamId, (f t).sessionId) = (t.streamId, t.sessionId))
    (hhandler : ∀ t captured, (f t).inactivityTimeoutHandler = some captured →
      t.inactivityTimeoutHandler = some captured) :
    PublishersAgree
      { w with publisherTransports := w.publisherTransports.modify transport f } := by
  have hold : ∀ (i : ℕ) (t' : WhipSessionTransport),
      (w.publisherTransports.modify transport f)[i]? = some t' →
      ∃ t : WhipSessionTransport, w.publisherTransports[i]? = some t ∧ (t' = t ∨ t' = f t) := by
    intro i t' ht'
    rw [List.getElem?_modify] at ht'
    split_ifs at ht'
    · obtain ⟨t, ht, rfl⟩ := Option.map_eq_some_iff.mp ht'
      exact ⟨t, ht, .inr rfl⟩
    · exact ⟨t', by simpa using ht', .inl rfl⟩
  refine ⟨h.byStreamId, h.bySessionId, h.sources, ?_, ?_, ?_⟩
  · intro id s hs
    obtain ⟨t, ht, hopen, how, hsession, hstream⟩ := h.transports id s hs
    have hid := hids t
    rw [Prod.mk.injEq] at hid
    by_cases hi : transport = s.transport
    · exact ⟨f t, by simp [hi, ht], (hclosed t).trans hopen, (howned t).trans how,
        hid.2.trans hsession, hid.1.trans hstream⟩
    · exact ⟨t, by simp [hi, ht], hopen, how, hsession, hstream⟩
  · intro i t' ht' hopen'
    obtain ⟨t, ht, rfl | rfl⟩ := hold i t' ht'
    · exact h.registered_of_open i t' ht hopen'
    · rw [(Prod.mk.inj (hids t)).2]
      exact h.registered_of_open i t ht ((hclosed t) ▸ hopen')
  · intro i t' ht' captured hcaptured
    obtain ⟨t, ht, rfl | rfl⟩ := hold i t' ht'
    · exact h.handlers i t' ht captured hcaptured
    · rw [h.handlers i t ht captured (hhandler t captured hcaptured), hids]

end PublishersAgree
end SimpleWebrtc.SessionServer
