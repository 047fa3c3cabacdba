import SimpleWebrtc.SessionRuns

/-!
# Replacing the publisher of a stream

The failure handler of a subscriber acts on its stream, not on its session: one
subscriber which cannot be served by the new source takes all subscribers of the
stream with it, in whatever order they are told. So exactly the incompatible
ones leave only when the subscribers of the stream are of one kind.
-/
namespace SimpleWebrtc.SessionServer
open Library Library.Text SdpSummary SdpAnswer RewriterConfig MediaFanout StreamRegistry WhepSession

/-- Between two operations every open transport can fail once, for its own stream, and is behind
the generation which comes next. -/
structure Prepared (w : Server) : Prop where
  handlers : ∀ (i : ℕ) (t : WhepSessionTransport), w.subscriberTransports[i]? = some t →
    t.closed = false → t.publisherFailureHandler = some t.streamId
  generations : ∀ (i : ℕ) (t : WhepSessionTransport), w.subscriberTransports[i]? = some t →
    t.closed = false → t.publisherSourceGeneration < w.router.nextSourceGeneration
  streams : ∀ streamId generation,
    w.router.publisherSourceGenerationsByStreamId.find? streamId = some generation →
      generation < w.router.nextSourceGeneration
  started : 0 < w.router.nextSourceGeneration

/-- The session's transport can be configured for a source. -/
def Compatible (w : Server) (source : MediaPublisherSource) (s : StreamSession) : Prop :=
  ∃ t config, w.subscriberTransports[s.transport]? = some t ∧ t.configFor source = .ok config

/-- The session's transport is open and forwards the source under the new configuration. -/
def ConfiguredFor (w w' : Server) (source : MediaPublisherSource) (s : StreamSession) : Prop :=
  ∃ t t' config, w.subscriberTransports[s.transport]? = some t ∧
    w'.subscriberTransports[s.transport]? = some t' ∧ t.configFor source = .ok config ∧
    t'.publisherSource = some source ∧ t'.publisherSourceGeneration = source.generation ∧
    t'.rtpRewriter = t.rtpRewriter.setConfig config

/-- Of all sessions exactly the incompatible ones of the source's stream are removed and closed. -/
structure OnlyIncompatibleLeave (w w' : Server) (source : MediaPublisherSource) : Prop where
  leave : ∀ id s, w.registered id = some s → s.streamId = source.streamId →
    ¬Compatible w source s → w'.registered id = none ∧
      ∃ t, w'.subscriberTransports[s.transport]? = some t ∧ t.closed = true
  stay : ∀ id s, w.registered id = some s →
    (s.streamId = source.streamId → Compatible w source s) → w'.registered id = some s ∧
      w'.router.subscriptionsBySessionId.find? id = some ⟨s.streamId, s.transport⟩ ∧
      (∃ t, w'.subscriberTransports[s.transport]? = some t ∧ t.closed = false) ∧
      (s.streamId = source.streamId → ConfiguredFor w w' source s)

/-! ## One handler -/

theorem lock_some {w : Server} {transport : ℕ} {t : WhepSessionTransport} :
    w.lock transport = some t ↔
      w.subscriberTransports[transport]? = some t ∧ t.closed = false := by
  simp [Server.lock, Option.filter_eq_some_iff]

theorem acceptPublisherSource_failureHandler (update : MediaPublisherSourceUpdate)
    (t : WhepSessionTransport) :
    (t.acceptPublisherSource update).1.publisherFailureHandler = t.publisherFailureHandler := by
  unfold WhepSessionTransport.acceptPublisherSource WhepSessionTransport.rebuildRtpRewriter
  simp only
  split_ifs
  all_goals
    split
    · rfl
    · split <;> rfl

theorem acceptPublisherSource_generation (update : MediaPublisherSourceUpdate)
    (t : WhepSessionTransport) :
    (t.acceptPublisherSource update).1.publisherSourceGeneration = update.generation := by
  unfold WhepSessionTransport.acceptPublisherSource WhepSessionTransport.rebuildRtpRewriter
  simp only
  split_ifs
  all_goals
    split
    · rfl
    · split <;> rfl

theorem handlePublisherSenderTiming_source (timing : MediaPublisherSenderTiming)
    (t : WhepSessionTransport) :
    (t.handlePublisherSenderTiming timing).publisherFailureHandler = t.publisherFailureHandler ∧
      (t.handlePublisherSenderTiming timing).publisherSourceGeneration =
        t.publisherSourceGeneration := by
  unfold WhepSessionTransport.handlePublisherSenderTiming WhepSessionTransport.refreshSenderTiming
  split
  · exact ⟨rfl, rfl⟩
  · split_ifs
    · exact ⟨rfl, rfl⟩
    · split
      · exact ⟨rfl, rfl⟩
      · split <;> exact ⟨rfl, rfl⟩

variable {w : Server} {orders : VisitOrders} {update : MediaPublisherSourceUpdate}

/-- One incompatible session ends all sessions of its stream. -/
theorem handlePublisherSource_incompatible (hagree : SubscribersAgree w.registered w)
    {transport : ℕ} {t : WhepSessionTransport} (ht : w.lock transport = some t)
    (hgeneration : t.publisherSourceGeneration ≤ update.generation)
    (hincompatible : (t.acceptPublisherSource update).2 = false) {streamId : Text}
    (hhandler : t.publisherFailureHandler = some streamId) (id : Text) :
    (Server.handlePublisherSource orders update w transport).registered id =
      (w.registered id).filter fun s => decide (s.streamId ≠ streamId) := by
  have haccepted := (hagree.kept_accepted update transport t.sessionId).agree
  have htaken := haccepted.modify transport (f := WhepSessionTransport.takeFailureHandler)
    fun t => ⟨rfl, rfl, rfl, rfl⟩
  have hcell : (w.accepted update transport t.sessionId).subscriberTransports[transport]? =
      some (t.acceptPublisherSource update).1 := by
    simp [Server.accepted, (lock_some.mp ht).1]
  rw [handlePublisherSource_eq ht hgeneration, hincompatible, if_neg Bool.false_ne_true]
  simp only [Server.notifyPublisherFailure, hcell, acceptPublisherSource_failureHandler, hhandler]
  exact (htaken.handlePublisherFailure orders streamId).2.2 id

/-- The handlers of closed transports do nothing. -/
theorem foldl_closed {refs : List ℕ} (h : ∀ i ∈ refs, w.lock i = none) :
    refs.foldl (Server.handlePublisherSource orders update) w = w := by
  induction refs with
  | nil => rfl
  | cons i refs ih =>
      have hfirst : Server.handlePublisherSource orders update w i = w := by
        rw [Server.handlePublisherSource, h i (by simp)]
      rw [List.foldl_cons, hfirst]
      exact ih fun j hj => h j (List.mem_cons_of_mem i hj)

theorem lock_accepted {transport i : ℕ} (hne : transport ≠ i) (sessionId : Text) :
    (w.accepted update transport sessionId).lock i = w.lock i := by
  simp [Server.lock, Server.accepted, hne]

/-- Compatible transports are configured one after the other. -/
theorem foldl_compatible (orders : VisitOrders) {refs : List ℕ} (hnodup : refs.Nodup)
    (h : ∀ i ∈ refs, ∃ t, w.lock i = some t ∧ t.publisherSourceGeneration ≤ update.generation ∧
      (t.acceptPublisherSource update).2 = true) :
    (refs.foldl (Server.handlePublisherSource orders update) w).registry = w.registry ∧
    (refs.foldl (Server.handlePublisherSource orders update) w).router.subscriptionsBySessionId =
      w.router.subscriptionsBySessionId ∧
    ∀ i, (refs.foldl (Server.handlePublisherSource orders update) w).subscriberTransports[i]? =
      if i ∈ refs then
        (w.subscriberTransports[i]?).map fun t => (t.acceptPublisherSource update).1
      else w.subscriberTransports[i]? := by
  induction refs generalizing w with
  | nil => simp
  | cons i refs ih =>
      obtain ⟨hnot, hnodup⟩ := List.nodup_cons.mp hnodup
      obtain ⟨t, ht, hgeneration, hcompatible⟩ := h i (by simp)
      obtain ⟨hsubscriptions, -, -⟩ := cancelKeyframeRequests_frame w.router t.sessionId
      have hrest : ∀ j ∈ refs, ∃ t', (w.accepted update i t.sessionId).lock j = some t' ∧
          t'.publisherSourceGeneration ≤ update.generation ∧
          (t'.acceptPublisherSource update).2 = true := by
        intro j hj
        have hne : i ≠ j := fun heq => hnot (heq ▸ hj)
        obtain ⟨t', ht', hrest⟩ := h j (List.mem_cons_of_mem i hj)
        exact ⟨t', (lock_accepted hne _).trans ht', hrest⟩
      obtain ⟨hregistry, hrouter, htransports⟩ := ih hnodup hrest
      rw [List.foldl_cons, handlePublisherSource_eq ht hgeneration, if_pos hcompatible]
      refine ⟨hregistry, hrouter.trans hsubscriptions, fun j => ?_⟩
      rw [htransports]
      by_cases hij : i = j
      · subst hij
        simp [Server.accepted, hnot]
      · simp [Server.accepted, hij, Ne.symm hij]

/-- A transport which is to be told of the source, with the session it serves. -/
structure Awaits (w : Server) (update : MediaPublisherSourceUpdate) (streamId : Text)
    (transport : ℕ) (t : WhepSessionTransport) (s : StreamSession) : Prop where
  lock : w.lock transport = some t
  generation : t.publisherSourceGeneration ≤ update.generation
  handler : t.publisherFailureHandler = some streamId
  registered : w.registered s.sessionId = some s
  streamId : s.streamId = streamId
  transport : s.transport = transport

/-- Once the sessions of a stream have left, the transports which served them are closed. -/
theorem lock_of_left {w' : Server} (hagree : SubscribersAgree w.registered w)
    (hagree' : SubscribersAgree w'.registered w') {streamId : Text}
    (hleft : ∀ id, w'.registered id =
      (w.registered id).filter fun s => decide (s.streamId ≠ streamId))
    {s : StreamSession} (hs : w.registered s.sessionId = some s) (hstream : s.streamId = streamId) :
    w'.lock s.transport = none := by
  rw [Option.eq_none_iff_forall_ne_some]
  intro t ht
  obtain ⟨ht, hopen⟩ := lock_some.mp ht
  obtain ⟨s', hs', hindex⟩ := hagree'.registered_of_open _ t ht hopen
  rw [hleft, Option.filter_eq_some_iff, decide_eq_true_eq] at hs'
  have hid := hagree.transport_inj hs'.1 hs hindex
  rw [hid, hs, Option.some.injEq] at hs'
  exact hs'.2 (hs'.1 ▸ hstream)

/-- One incompatible transport among those which are told is enough. -/
theorem foldl_incompatible (hagree : SubscribersAgree w.registered w) {streamId : Text}
    {refs : List ℕ} (hnodup : refs.Nodup)
    (h : ∀ i ∈ refs, ∃ t s, Awaits w update streamId i t s)
    (hincompatible : ∃ i ∈ refs, ∃ t, w.lock i = some t ∧
      (t.acceptPublisherSource update).2 = false) (id : Text) :
    (refs.foldl (Server.handlePublisherSource orders update) w).registered id =
      (w.registered id).filter fun s => decide (s.streamId ≠ streamId) := by
  induction refs generalizing w with
  | nil =>
      obtain ⟨i, hi, -⟩ := hincompatible
      cases hi
  | cons i refs ih =>
      obtain ⟨hnot, hnodup⟩ := List.nodup_cons.mp hnodup
      obtain ⟨t, s, hawaits⟩ := h i (by simp)
      have hkept := SubscribersAgree.kept_source orders update w i hagree
      rw [List.foldl_cons]
      cases hcompatible : (t.acceptPublisherSource update).2 with
      | true =>
          have hstep : Server.handlePublisherSource orders update w i =
              w.accepted update i t.sessionId := by
            rw [handlePublisherSource_eq hawaits.lock hawaits.generation, if_pos hcompatible]
          have hlock : ∀ j ∈ refs,
              (Server.handlePublisherSource orders update w i).lock j = w.lock j := by
            intro j hj
            have hne : i ≠ j := fun heq => hnot (heq ▸ hj)
            rw [hstep, lock_accepted hne]
          have hregistered : (Server.handlePublisherSource orders update w i).registered =
              w.registered := by rw [hstep]; rfl
          rw [← hregistered]
          refine ih hkept.agree hnodup ?_ ?_
          · intro j hj
            obtain ⟨t', s', hawaits'⟩ := h j (List.mem_cons_of_mem i hj)
            exact ⟨t', s', (hlock j hj).trans hawaits'.lock, hawaits'.generation,
              hawaits'.handler, hregistered ▸ hawaits'.registered, hawaits'.streamId,
              hawaits'.transport⟩
          · obtain ⟨j, hj, t', ht', hfalse⟩ := hincompatible
            rcases List.mem_cons.mp hj with rfl | hj
            · rw [hawaits.lock, Option.some.injEq] at ht'
              subst ht'
              rw [hcompatible] at hfalse
              cases hfalse
            · exact ⟨j, hj, t', (hlock j hj).trans ht', hfalse⟩
      | false =>
          have hleft : ∀ id, (Server.handlePublisherSource orders update w i).registered id =
              (w.registered id).filter fun s => decide (s.streamId ≠ streamId) :=
            handlePublisherSource_incompatible hagree hawaits.lock hawaits.generation hcompatible
              hawaits.handler
          rw [foldl_closed]
          · exact hleft id
          · intro j hj
            obtain ⟨t', s', hawaits'⟩ := h j (List.mem_cons_of_mem i hj)
            rw [← hawaits'.transport]
            exact lock_of_left hagree hkept.agree hleft hawaits'.registered hawaits'.streamId

/-! ## All handlers -/

theorem streamTransports_nodup (hagree : SubscribersAgree w.registered w) (streamId : Text) :
    (w.router.streamTransports streamId).Nodup := by
  have hentries : w.router.subscriptionsBySessionId.entries.Nodup :=
    w.router.subscriptionsBySessionId.nodup.of_map
  have heq : w.router.streamTransports streamId =
      (w.router.subscriptionsBySessionId.entries.filter fun e =>
        decide (e.2.streamId = streamId)).map fun e => e.2.transport := by
    simp only [MediaFanoutRouter.streamTransports, AssocMap.values, List.filter_map, List.map_map]
    rfl
  rw [heq]
  refine List.Nodup.map_on ?_ (hentries.filter _)
  intro e he e' he' htransport
  have hsession : ∀ e ∈ w.router.subscriptionsBySessionId.entries,
      ∃ s, w.registered e.1 = some s ∧ e.2 = ⟨s.streamId, s.transport⟩ := by
    intro e he
    have hfind := AssocMap.find?_eq_some.mpr he
    rw [hagree.subscriptions, Option.map_eq_some_iff] at hfind
    obtain ⟨s, hs, heq⟩ := hfind
    exact ⟨s, hs, heq.symm⟩
  obtain ⟨s, hs, hsub⟩ := hsession e (List.mem_of_mem_filter he)
  obtain ⟨s', hs', hsub'⟩ := hsession e' (List.mem_of_mem_filter he')
  rw [hsub, hsub'] at htransport
  have hid := hagree.transport_inj hs hs' htransport
  rw [hid, hs', Option.some.injEq] at hs
  exact Prod.ext hid (by rw [hsub, hsub', hs])

/-- The transports of a stream are those of its registered sessions. -/
theorem mem_streamTransports_iff (hagree : SubscribersAgree w.registered w) {streamId : Text}
    {transport : ℕ} : transport ∈ w.router.streamTransports streamId ↔
      ∃ s, w.registered s.sessionId = some s ∧ s.streamId = streamId ∧ s.transport = transport := by
  simp only [MediaFanoutRouter.mem_streamTransports, hagree.subscriptions,
    Option.map_eq_some_iff, Subscription.mk.injEq]
  constructor
  · rintro ⟨id, s, hs, hstream, hindex⟩
    obtain rfl := (hagree.keys id s hs).1
    exact ⟨s, hs, hstream, hindex⟩
  · rintro ⟨s, hs, hstream, hindex⟩
    exact ⟨_, s, hs, hstream, hindex⟩

/-! ## What closing leaves prepared -/

/-- Nothing happened to the subscribers' transports but that some were closed. -/
structure OnlyCloses (w w' : Server) : Prop where
  length : w'.subscriberTransports.length = w.subscriberTransports.length
  stillOpen : ∀ (i : ℕ) (t : WhepSessionTransport), w'.subscriberTransports[i]? = some t →
    t.closed = false → w.subscriberTransports[i]? = some t
  generations : w'.router.publisherSourceGenerationsByStreamId =
    w.router.publisherSourceGenerationsByStreamId
  next : w'.router.nextSourceGeneration = w.router.nextSourceGeneration

namespace OnlyCloses
variable {w w' w'' : Server}

theorem refl (w : Server) : OnlyCloses w w := ⟨rfl, fun _ _ ht _ => ht, rfl, rfl⟩

theorem trans (h : OnlyCloses w w') (h' : OnlyCloses w' w'') : OnlyCloses w w'' :=
  ⟨h'.length.trans h.length,
    fun i t ht hopen => h.stillOpen i t (h'.stillOpen i t ht hopen) hopen,
    h'.generations.trans h.generations, h'.next.trans h.next⟩

theorem unsubscribe_generations (r : MediaFanoutRouter) (id : Text) :
    (r.unsubscribe id).publisherSourceGenerationsByStreamId =
      r.publisherSourceGenerationsByStreamId := by
  unfold MediaFanoutRouter.unsubscribe
  split
  · rfl
  · split <;> rfl

/-- The transport of one session is modified so that it is not open afterwards. -/
theorem of_modify (w : Server) (transport : ℕ) {f : WhepSessionTransport → WhepSessionTransport}
    (hf : ∀ t, w.subscriberTransports[transport]? = some t → (f t).closed = true) :
    OnlyCloses w
      { w with subscriberTransports := w.subscriberTransports.modify transport f } := by
  refine ⟨List.length_modify .., ?_, rfl, rfl⟩
  intro i t' ht' hopen
  rw [List.getElem?_modify] at ht'
  split_ifs at ht' with hi
  · obtain ⟨t, ht, rfl⟩ := Option.map_eq_some_iff.mp ht'
    rw [hf t (hi ▸ ht)] at hopen
    cases hopen
  · simpa using ht'

theorem closeSubscriber (w : Server) (s : StreamSession) : OnlyCloses w (w.closeSubscriber s) := by
  unfold Server.closeSubscriber Server.closeSubscriberTransport
  cases w.subscriberTransports[s.transport]? with
  | none => exact .refl w
  | some t =>
      obtain ⟨-, hnext⟩ := unsubscribe_sources w.router t.sessionId
      have hclosed := of_modify w s.transport (f := WhepSessionTransport.shutDown) fun _ _ => rfl
      simp only
      split_ifs
      · exact .refl w
      · exact ⟨hclosed.length, hclosed.stillOpen, unsubscribe_generations _ _, hnext⟩
      · exact .refl w

theorem closeSubscribers (w : Server) (sessions : List StreamSession) :
    OnlyCloses w (w.closeSubscribers sessions) := by
  induction sessions generalizing w with
  | nil => exact .refl w
  | cons s sessions ih => exact (closeSubscriber w s).trans (ih (w.closeSubscriber s))

theorem handlePublisherFailure (w : Server) (orders : VisitOrders) (streamId : Text) :
    OnlyCloses w (w.handlePublisherFailure orders streamId) := by
  have hregistry : OnlyCloses w
      { w with registry := (w.registry.removeSubscriberSessionsByStreamId streamId).1 } :=
    ⟨rfl, fun _ _ ht _ => ht, rfl, rfl⟩
  exact hregistry.trans (closeSubscribers _ _)

/-- The transport whose failure is reported is closed with the others of its stream. -/
theorem notifyPublisherFailure (hagree : SubscribersAgree w.registered w) (hprepared : Prepared w)
    (orders : VisitOrders) (transport : ℕ) :
    OnlyCloses w (w.notifyPublisherFailure orders transport) := by
  unfold Server.notifyPublisherFailure
  cases ht : w.subscriberTransports[transport]? with
  | none => exact .refl w
  | some t =>
      let taken : Server := { w with
        subscriberTransports :=
          w.subscriberTransports.modify transport WhepSessionTransport.takeFailureHandler }
      have hcell : taken.subscriberTransports[transport]? = some t.takeFailureHandler := by
        simp [taken, ht]
      cases hhandler : t.publisherFailureHandler with
      | none =>
          simp only [hhandler]
          refine of_modify w transport fun t' ht' => ?_
          rw [ht, Option.some.injEq] at ht'
          subst ht'
          by_contra hopen
          have hopen' : t.closed = false :=
            Bool.eq_false_iff.mpr hopen
          have hsome := hprepared.handlers transport t ht hopen'
          rw [hhandler] at hsome
          cases hsome
      | some streamId =>
          simp only [hhandler]
          have hagreeTaken : SubscribersAgree taken.registered taken :=
            hagree.modify transport fun t => ⟨rfl, rfl, rfl, rfl⟩
          obtain ⟨hagree', -, hleft⟩ := hagreeTaken.handlePublisherFailure orders streamId
          have hcloses := handlePublisherFailure taken orders streamId
          refine ⟨hcloses.length.trans (List.length_modify ..), ?_, hcloses.generations,
            hcloses.next⟩
          intro i t' ht' hopen
          have hbefore := hcloses.stillOpen i t' ht' hopen
          by_cases hi : i = transport
          · subst hi
            rw [hcell, Option.some.injEq] at hbefore
            have hopen' : t.closed = false :=
              (congrArg WhepSessionTransport.closed hbefore).trans hopen
            have hstream := hprepared.handlers i t ht hopen'
            rw [hhandler, Option.some.injEq] at hstream
            obtain ⟨s, hs, hindex⟩ := hagree.registered_of_open i t ht hopen'
            obtain ⟨t'', ht'', hserves⟩ := hagree.transports _ s hs
            rw [hindex, ht, Option.some.injEq] at ht''
            subst ht''
            rw [hserves.sessionId] at hs
            have hnone := lock_of_left hagreeTaken hagree' hleft hs
              (hserves.streamId.symm.trans hstream.symm)
            rw [hindex] at hnone
            rw [lock_some.mpr ⟨ht', hopen⟩] at hnone
            cases hnone
          · simpa [taken, Ne.symm hi] using hbefore

end OnlyCloses

namespace Prepared
variable {w w' : Server}

theorem of_closes (h : Prepared w) (hcloses : OnlyCloses w w') : Prepared w' where
  handlers i t ht hopen := h.handlers i t (hcloses.stillOpen i t ht hopen) hopen
  generations i t ht hopen := by
    rw [hcloses.next]
    exact h.generations i t (hcloses.stillOpen i t ht hopen) hopen
  streams := by
    rw [hcloses.generations, hcloses.next]
    exact h.streams
  started := by
    rw [hcloses.next]
    exact h.started

/-- An open transport may change as long as its handler stays and its generation is old. -/
theorem modify (h : Prepared w) (transport : ℕ) {f : WhepSessionTransport → WhepSessionTransport}
    (hclosed : ∀ t, (f t).closed = t.closed)
    (hhandler : ∀ t, (f t).publisherFailureHandler = t.publisherFailureHandler)
    (hstream : ∀ t, (f t).streamId = t.streamId)
    (hgeneration : ∀ t, (f t).publisherSourceGeneration = t.publisherSourceGeneration ∨
      (f t).publisherSourceGeneration < w.router.nextSourceGeneration) :
    Prepared { w with subscriberTransports := w.subscriberTransports.modify transport f } := by
  have hold : ∀ (i : ℕ) (t' : WhepSessionTransport),
      (w.subscriberTransports.modify transport f)[i]? = some t' →
      ∃ t : WhepSessionTransport, w.subscriberTransports[i]? = some t ∧ (t' = t ∨ t' = f t) := by
    intro i t' ht'
    rw [List.getElem?_modify] at ht'
    split_ifs at ht'
    · obtain ⟨t, ht, rfl⟩ := Option.map_eq_some_iff.mp ht'
      exact ⟨t, ht, .inr rfl⟩
    · exact ⟨t', by simpa using ht', .inl rfl⟩
  refine ⟨?_, ?_, h.streams, h.started⟩
  · intro i t' ht' hopen
    obtain ⟨t, ht, rfl | rfl⟩ := hold i t' ht'
    · exact h.handlers i t' ht hopen
    · rw [hhandler, hstream]
      exact h.handlers i t ht (hclosed t ▸ hopen)
  · intro i t' ht' hopen
    obtain ⟨t, ht, rfl | rfl⟩ := hold i t' ht'
    · exact h.generations i t' ht hopen
    · rcases hgeneration t with hsame | hlt
      · rw [hsame]
        exact h.generations i t ht (hclosed t ▸ hopen)
      · exact hlt

/-- Only the transports and two fields of the router are looked at. -/
theorem congr (h : Prepared w) (htransports : w'.subscriberTransports = w.subscriberTransports)
    (hgenerations : w'.router.publisherSourceGenerationsByStreamId =
      w.router.publisherSourceGenerationsByStreamId)
    (hnext : w'.router.nextSourceGeneration = w.router.nextSourceGeneration) : Prepared w' :=
  h.of_closes ⟨by rw [htransports], fun i t ht _ => htransports ▸ ht, hgenerations, hnext⟩

theorem cancelled (h : Prepared w) (id : Text) :
    Prepared { w with router := w.router.cancelKeyframeRequests id } := by
  refine h.congr rfl ?_ (cancelKeyframeRequests_frame w.router id).2.2
  unfold MediaFanoutRouter.cancelKeyframeRequests
  split_ifs <;> rfl

theorem accepted (h : Prepared w) {update : MediaPublisherSourceUpdate}
    (hgeneration : update.generation < w.router.nextSourceGeneration) (transport : ℕ)
    (sessionId : Text) : Prepared (w.accepted update transport sessionId) := by
  obtain ⟨-, -, hnext⟩ := cancelKeyframeRequests_frame w.router sessionId
  have hsame := acceptPublisherSource_sameSession update
  refine (h.cancelled sessionId).modify transport (fun t => (hsame t).closed)
    (acceptPublisherSource_failureHandler update) (fun t => (hsame t).streamId) fun t => .inr ?_
  rw [acceptPublisherSource_generation, hnext]
  exact hgeneration

theorem handlePublisherSource (hagree : SubscribersAgree w.registered w) (h : Prepared w)
    {update : MediaPublisherSourceUpdate}
    (hgeneration : update.generation < w.router.nextSourceGeneration) (orders : VisitOrders)
    (transport : ℕ) : Prepared (Server.handlePublisherSource orders update w transport) := by
  cases ht : w.lock transport with
  | none => simpa only [Server.handlePublisherSource, ht] using h
  | some t =>
      by_cases hold : update.generation < t.publisherSourceGeneration
      · simpa only [Server.handlePublisherSource, ht, hold, if_true] using h
      · have haccepted := h.accepted hgeneration transport t.sessionId
        have hagreeAccepted := (hagree.kept_accepted update transport t.sessionId).agree
        rw [handlePublisherSource_eq ht (Nat.not_lt.mp hold)]
        split_ifs
        · exact haccepted
        · exact haccepted.of_closes
            (.notifyPublisherFailure hagreeAccepted haccepted orders transport)

theorem notification (hagree : SubscribersAgree w.registered w) (h : Prepared w)
    {update : MediaPublisherSourceUpdate}
    (hgeneration : update.generation < w.router.nextSourceGeneration) (orders : VisitOrders)
    (streamId : Text) : Prepared (w.notifyPublisherSource orders streamId update) := by
  unfold Server.notifyPublisherSource
  generalize orders.notifying.visit (w.router.streamTransports streamId) = transports
  induction transports generalizing w with
  | nil => exact h
  | cons transport transports ih =>
      have hkept := SubscribersAgree.kept_source orders update w transport hagree
      refine ih hkept.agree (h.handlePublisherSource hagree hgeneration orders transport) ?_
      rw [hkept.publishers.nextGeneration]
      exact hgeneration

/-- A stream moves on to the next generation. -/
theorem beginGeneration (h : Prepared w) (streamId : Text)
    (sources : AssocMap Text MediaPublisherSource) :
    Prepared { w with router := w.router.beginGeneration streamId sources } := by
  refine ⟨h.handlers, ?_, ?_, Nat.succ_pos _⟩
  · intro i t ht hopen
    exact Nat.lt_succ_of_lt (h.generations i t ht hopen)
  · intro streamId' generation hgeneration
    simp only [MediaFanoutRouter.beginGeneration, MediaFanoutRouter.cancelStreamKeyframeRequests,
      AssocMap.find?_insertOrAssign] at hgeneration ⊢
    split_ifs at hgeneration
    · obtain rfl := Option.some.inj hgeneration
      exact Nat.lt_succ_self _
    · exact Nat.lt_succ_of_lt (h.streams streamId' generation hgeneration)

theorem setPublisherSource (hagree : SubscribersAgree w.registered w) (h : Prepared w)
    (orders : VisitOrders) (streamId sessionId : Text) (offer : WebrtcOfferSummary) :
    Prepared (w.setPublisherSource orders streamId sessionId offer).1 := by
  unfold Server.setPublisherSource MediaFanoutRouter.setPublisherSource
  split_ifs
  · exact h
  · refine notification ?_ (h.beginGeneration streamId _) (Nat.lt_succ_self _) orders streamId
    exact hagree.congr rfl rfl rfl

theorem clearPublisherSource (hagree : SubscribersAgree w.registered w) (h : Prepared w)
    (orders : VisitOrders) (streamId sessionId : Text) :
    Prepared (w.clearPublisherSource orders streamId sessionId) := by
  unfold Server.clearPublisherSource MediaFanoutRouter.clearPublisherSource
  split_ifs
  · exact h
  · cases w.router.publisherSourcesByStreamId.find? streamId with
    | none => exact h
    | some source =>
        simp only
        split_ifs
        · exact h
        · refine notification ?_ (h.beginGeneration streamId _) (Nat.lt_succ_self _) orders streamId
          exact hagree.congr rfl rfl rfl

theorem closePublisher_frame (w : Server) (s : StreamSession) :
    (w.closePublisher s).registry = w.registry ∧ (w.closePublisher s).router = w.router ∧
      (w.closePublisher s).subscriberTransports = w.subscriberTransports := by
  unfold Server.closePublisher
  split
  · exact ⟨rfl, rfl, rfl⟩
  · split_ifs <;> exact ⟨rfl, rfl, rfl⟩

theorem removePublisher (hagree : SubscribersAgree w.registered w) (h : Prepared w)
    {orders : VisitOrders} {id : Text} {s : StreamSession}
    (hremove : w.removePublisher orders id s s.streamId s.sessionId = .ok w') : Prepared w' := by
  unfold Server.removePublisher Registry.removePublisherSession at hremove
  cases hfind : w.registry.publishersBySessionId.find? id with
  | none => simp [hfind] at hremove
  | some publisher =>
      simp only [hfind, Except.ok.injEq] at hremove
      subst hremove
      let removed : Server := { w with
        registry := { w.registry with
          publishersByStreamId := w.registry.publishersByStreamId.erase publisher.streamId
          publishersBySessionId := w.registry.publishersBySessionId.erase id } }
      obtain ⟨hregistry, hrouter, htransports⟩ := closePublisher_frame removed s
      refine clearPublisherSource ?_ ?_ orders _ _
      · refine hagree.congr ?_ ?_ htransports
        · funext id
          rw [Server.registered, hregistry]
          rfl
        · rw [hrouter]
      · refine h.congr htransports ?_ ?_
        · rw [hrouter]
        · rw [hrouter]

theorem timings (h : Prepared w) (transport : ℕ) (timings : List MediaPublisherSenderTiming) :
    Prepared (timings.foldl (Server.handlePublisherSenderTiming transport) w) := by
  induction timings generalizing w with
  | nil => exact h
  | cons timing timings ih =>
      refine ih ?_
      have hsame := handlePublisherSenderTiming_sameSession timing
      unfold Server.handlePublisherSenderTiming
      cases w.lock transport with
      | none => exact h
      | some t =>
          exact h.modify transport (fun t => (hsame t).closed)
            (fun t => (handlePublisherSenderTiming_source timing t).1)
            (fun t => (hsame t).streamId)
            fun t => .inl (handlePublisherSenderTiming_source timing t).2

/-- A new subscriber is prepared, and told of the source its stream has. -/
theorem startSubscriber (h : Prepared w) {s : StreamSession} (hid : s.sessionId ≠ [])
    (hstream : s.streamId ≠ []) (htransport : s.transport = w.subscriberTransports.length)
    {source : MediaPublisherSource}
    (hsource : w.router.publisherSourcesByStreamId.find? s.streamId = some source)
    {target : WhepRtpRewriterTarget} {config : RtpRewriter.RewriterConfig}
    (hconfig : makeWhepRtpRewriterConfig source.sessionId source.offer target = .ok config)
    (orders : VisitOrders) : Prepared (w.startSubscriber orders s target) := by
  have hsubscribed : Prepared (w.subscribed s target) := by
    have hold : ∀ (i : ℕ) (t : WhepSessionTransport),
        (w.subscribed s target).subscriberTransports[i]? = some t →
        t = subscriberTransport s target ∨ w.subscriberTransports[i]? = some t := by
      intro i t ht
      rw [Server.subscribed, getElem?_snoc] at ht
      split_ifs at ht
      · exact .inl (Option.some.inj ht).symm
      · exact .inr ht
    refine ⟨?_, ?_, h.streams, h.started⟩
    · intro i t ht hopen
      rcases hold i t ht with rfl | ht
      · rfl
      · exact h.handlers i t ht hopen
    · intro i t ht hopen
      rcases hold i t ht with rfl | ht
      · exact h.started
      · exact h.generations i t ht hopen
  have hgeneration : (firstUpdate w.router s.streamId).generation <
      w.router.nextSourceGeneration := by
    unfold firstUpdate
    cases hfind : w.router.publisherSourceGenerationsByStreamId.find? s.streamId with
    | none => exact h.started
    | some generation => exact h.streams s.streamId generation hfind
  have htold : Prepared (w.told orders s target) := by
    refine Prepared.timings ?_ _ _
    rw [handlePublisherSource_eq (subscribed_lock htransport) (Nat.zero_le _),
      if_pos (subscribed_compatible hsource hconfig)]
    exact hsubscribed.accepted hgeneration _ _
  rw [startSubscriber_eq hid hstream htransport]
  exact htold.modify s.transport (fun _ => rfl) (fun _ => rfl) (fun _ => rfl) fun _ => .inl rfl

theorem changed (hagrees : Agrees w) (h : Prepared w) (hchanged : Changed w w') :
    Prepared w' := by
  have hagree := hagrees.subscribers
  cases hchanged with
  | startPublisher orders hstream hcreated =>
      obtain ⟨-, -, rfl⟩ := Registry.createPublisherSession_ok hcreated
      refine congr (setPublisherSource ?_ ?_ orders _ _ _) rfl rfl rfl
      · exact hagree.congr rfl rfl rfl
      · exact h.congr rfl rfl rfl
  | @startSubscriber _ _ _ registry s _ _ _ orders hstream hcreated hpublisher hconfig =>
      obtain ⟨⟨rfl, -, htransport, hid, -, -⟩, -⟩ :=
        Registry.createSubscriberSession_ok hcreated
      have hregistered : Prepared { w with registry } := h.congr rfl rfl rfl
      obtain ⟨hstreamId, hsession⟩ := hagrees.publishers.byStreamId _ _ hpublisher
      obtain ⟨source, hsource, hsourceId, hoffer⟩ := hagrees.publishers.source hsession
      rw [hstreamId] at hsource
      rw [← hsourceId, ← hoffer] at hconfig
      exact hregistered.startSubscriber hid hstream htransport hsource hconfig orders
  | removePublisher orders hs hremove => exact h.removePublisher hagree hremove
  | removeSubscriber hs hremove =>
      unfold Server.removeSubscriber Registry.removeSubscriberSession at hremove
      split at hremove
      · cases hremove
      · obtain rfl := Except.ok.inj hremove
        refine of_closes ?_ (.closeSubscriber _ _)
        exact h.congr rfl rfl rfl
  | takePublisherTimer transport => exact h.congr rfl rfl rfl
  | takeSubscriberTimer transport =>
      exact h.modify transport (fun _ => rfl) (fun _ => rfl) (fun _ => rfl) fun _ => .inl rfl
  | failPublisher orders transport =>
      exact h.of_closes (.notifyPublisherFailure hagree h orders transport)

end Prepared

theorem prepared_initial : Prepared {} := by
  refine ⟨?_, ?_, ?_, Nat.one_pos⟩
  all_goals simp

theorem run_prepared {events : List Event} {w : Server} (h : Server.system.Run events w) :
    Agrees w ∧ Prepared w :=
  invariant_of_changed prepared_initial (fun _ _ hagrees => Prepared.changed hagrees) h

/-! ## Who leaves -/

/-- The source a replacement installs. -/
def Server.nextSource (w : Server) (streamId publisherSessionId : Text)
    (publisherOffer : WebrtcOfferSummary) : MediaPublisherSource :=
  ⟨streamId, publisherSessionId, w.router.nextSourceGeneration, publisherOffer⟩

/-- The state in which the first of the stream's subscribers is told of the source. -/
def Server.replaced (w : Server) (source : MediaPublisherSource) : Server :=
  { w with
    router := w.router.beginGeneration source.streamId
      (w.router.publisherSourcesByStreamId.insertOrAssign source.streamId source) }

def updateTo (source : MediaPublisherSource) : MediaPublisherSourceUpdate where
  generation := source.generation
  source := some source

/-- The sessions which are told of a source. -/
def Server.Watches (w : Server) (streamId : Text) (s : StreamSession) : Prop :=
  w.registered s.sessionId = some s ∧ s.streamId = streamId

section Replacement
variable {streamId publisherSessionId : Text} {publisherOffer : WebrtcOfferSummary}
  {source : MediaPublisherSource}

theorem setPublisherSource_eq (hstream : streamId ≠ []) (hid : publisherSessionId ≠ []) :
    (w.setPublisherSource orders streamId publisherSessionId publisherOffer).1 =
      (w.replaced (w.nextSource streamId publisherSessionId publisherOffer)).notifyPublisherSource
        orders streamId (updateTo (w.nextSource streamId publisherSessionId publisherOffer)) := by
  simp only [Server.setPublisherSource, MediaFanoutRouter.setPublisherSource, hstream, hid,
    or_self, if_false]
  rfl

theorem compatible_iff {s : StreamSession} {t : WhepSessionTransport}
    (ht : w.subscriberTransports[s.transport]? = some t) :
    Compatible w source s ↔ (t.acceptPublisherSource (updateTo source)).2 = true := by
  rw [WhepSessionTransport.acceptPublisherSource_compatible_iff rfl]
  constructor
  · rintro ⟨t', config, ht', hconfig⟩
    rw [ht, Option.some.injEq] at ht'
    subst ht'
    exact ⟨config, hconfig⟩
  · rintro ⟨config, hconfig⟩
    exact ⟨t, config, ht, hconfig⟩

theorem awaits (hagree : SubscribersAgree w.registered w) (hprepared : Prepared w)
    (hgeneration : source.generation = w.router.nextSourceGeneration) {s : StreamSession}
    (hs : w.Watches source.streamId s) :
    ∃ t, w.subscriberTransports[s.transport]? = some t ∧
      Awaits (w.replaced source) (updateTo source) source.streamId s.transport t s := by
  obtain ⟨hregistered, hstream⟩ := hs
  obtain ⟨t, ht, hserves⟩ := hagree.transports _ s hregistered
  have hhandler := hprepared.handlers _ t ht hserves.not_closed
  have hold := hprepared.generations _ t ht hserves.not_closed
  refine ⟨t, ht, lock_some.mpr ⟨ht, hserves.not_closed⟩, ?_, ?_, hregistered, hstream, rfl⟩
  · exact (hgeneration ▸ hold).le
  · rw [hhandler, hserves.streamId, hstream]

/-- The transports which are told, in the order in which they are. -/
def Server.toldOf (w : Server) (orders : VisitOrders) (streamId : Text) : List ℕ :=
  orders.notifying.visit (w.router.streamTransports streamId)

theorem toldOf_nodup (hagree : SubscribersAgree w.registered w) :
    (w.toldOf orders streamId).Nodup :=
  ((orders.notifying.perm _).nodup_iff).mpr (streamTransports_nodup hagree streamId)

theorem mem_toldOf (hagree : SubscribersAgree w.registered w) {transport : ℕ} :
    transport ∈ w.toldOf orders streamId ↔
      ∃ s, w.Watches streamId s ∧ s.transport = transport := by
  rw [Server.toldOf, VisitOrder.mem_visit, mem_streamTransports_iff hagree]
  constructor
  · rintro ⟨s, hs, hstream, hindex⟩
    exact ⟨s, ⟨hs, hstream⟩, hindex⟩
  · rintro ⟨s, ⟨hs, hstream⟩, hindex⟩
    exact ⟨s, hs, hstream, hindex⟩

/-- When all sessions of the stream are compatible, nobody leaves. -/
theorem all_compatible (hagree : SubscribersAgree w.registered w) (hprepared : Prepared w)
    (hgeneration : source.generation = w.router.nextSourceGeneration)
    (hcompatible : ∀ s, w.Watches source.streamId s → Compatible w source s) :
    OnlyIncompatibleLeave w
      ((w.replaced source).notifyPublisherSource orders source.streamId (updateTo source))
      source := by
  have hready : ∀ i ∈ w.toldOf orders source.streamId, ∃ t, (w.replaced source).lock i = some t ∧
      t.publisherSourceGeneration ≤ (updateTo source).generation ∧
      (t.acceptPublisherSource (updateTo source)).2 = true := by
    intro i hi
    obtain ⟨s, hs, rfl⟩ := (mem_toldOf hagree).mp hi
    obtain ⟨t, ht, hawaits⟩ := awaits hagree hprepared hgeneration hs
    exact ⟨t, hawaits.lock, hawaits.generation, (compatible_iff ht).mp (hcompatible s hs)⟩
  obtain ⟨hregistry, hsubscriptions, htransports⟩ :=
    foldl_compatible orders (toldOf_nodup hagree) hready
  constructor
  · intro id s hs hstream hincompatible
    obtain rfl := (hagree.keys id s hs).1
    exact absurd (hcompatible s ⟨hs, hstream⟩) hincompatible
  · intro id s hs _
    obtain rfl := (hagree.keys id s hs).1
    obtain ⟨t, ht, hserves⟩ := hagree.transports _ s hs
    have hsubscription : w.router.subscriptionsBySessionId.find? s.sessionId =
        some ⟨s.streamId, s.transport⟩ := by
      rw [hagree.subscriptions, hs]
      rfl
    have hafter := htransports s.transport
    refine ⟨?_, ?_, ?_, ?_⟩
    · rw [← hs]
      exact congrArg (fun r : Registry => r.subscribersBySessionId.find? s.sessionId) hregistry
    · exact (congrArg (fun m => AssocMap.find? m s.sessionId) hsubscriptions).trans hsubscription
    · by_cases htold : s.transport ∈ w.toldOf orders source.streamId
      · rw [if_pos htold] at hafter
        refine ⟨(t.acceptPublisherSource (updateTo source)).1, ?_, ?_⟩
        · exact hafter.trans (congrArg (Option.map _) ht)
        · exact (acceptPublisherSource_sameSession _ t).closed.trans hserves.not_closed
      · rw [if_neg htold] at hafter
        exact ⟨t, hafter.trans ht, hserves.not_closed⟩
    · intro hstream
      obtain ⟨t', config, ht', hconfig⟩ := hcompatible s ⟨hs, hstream⟩
      have htold : s.transport ∈ w.toldOf orders source.streamId :=
        (mem_toldOf hagree).mpr ⟨s, ⟨hs, hstream⟩, rfl⟩
      rw [if_pos htold] at hafter
      have hupdate : (updateTo source).source = some source := rfl
      obtain ⟨hsource, hgen, hrewriter⟩ :=
        WhepSessionTransport.acceptPublisherSource_configured hupdate hconfig
      exact ⟨t', _, config, ht', hafter.trans (congrArg (Option.map _) ht'), hconfig, hsource,
        hgen, hrewriter⟩

/-- When one session of the stream is incompatible, all of them leave. -/
theorem some_incompatible (orders : VisitOrders) (hagree : SubscribersAgree w.registered w)
    (hprepared : Prepared w)
    (hgeneration : source.generation = w.router.nextSourceGeneration)
    (hincompatible : ∃ s, w.Watches source.streamId s ∧ ¬Compatible w source s) (id : Text) :
    ((w.replaced source).notifyPublisherSource orders source.streamId
        (updateTo source)).registered id =
      (w.registered id).filter fun s => decide (s.streamId ≠ source.streamId) := by
  have hreplaced : SubscribersAgree (w.replaced source).registered (w.replaced source) :=
    hagree.congr rfl rfl rfl
  refine foldl_incompatible hreplaced (toldOf_nodup hagree) ?_ ?_ id
  · intro i hi
    obtain ⟨s, hs, rfl⟩ := (mem_toldOf hagree).mp hi
    obtain ⟨t, -, hawaits⟩ := awaits hagree hprepared hgeneration hs
    exact ⟨t, s, hawaits⟩
  · obtain ⟨s, hs, hnot⟩ := hincompatible
    obtain ⟨t, ht, hawaits⟩ := awaits hagree hprepared hgeneration hs
    refine ⟨s.transport, (mem_toldOf hagree).mpr ⟨s, hs, rfl⟩, t, hawaits.lock, ?_⟩
    rw [compatible_iff ht] at hnot
    simpa using hnot

theorem notifyPublisherFailure_length (w : Server) (orders : VisitOrders) (transport : ℕ) :
    (w.notifyPublisherFailure orders transport).subscriberTransports.length =
      w.subscriberTransports.length := by
  unfold Server.notifyPublisherFailure
  cases w.subscriberTransports[transport]? with
  | none => rfl
  | some t =>
      cases hhandler : t.publisherFailureHandler with
      | none => simp [hhandler]
      | some streamId =>
          simp only [hhandler]
          exact (OnlyCloses.handlePublisherFailure _ orders streamId).length.trans
            (List.length_modify ..)

theorem handlePublisherSource_length (w : Server) (transport : ℕ) :
    (Server.handlePublisherSource orders update w transport).subscriberTransports.length =
      w.subscriberTransports.length := by
  cases ht : w.lock transport with
  | none => simp only [Server.handlePublisherSource, ht]
  | some t =>
      by_cases hold : update.generation < t.publisherSourceGeneration
      · simp only [Server.handlePublisherSource, ht, hold, if_true]
      · have haccepted : (w.accepted update transport t.sessionId).subscriberTransports.length =
            w.subscriberTransports.length := List.length_modify ..
        rw [handlePublisherSource_eq ht (Nat.not_lt.mp hold)]
        split_ifs
        · exact haccepted
        · exact (notifyPublisherFailure_length _ orders transport).trans haccepted

theorem notifyPublisherSource_length (w : Server) (streamId : Text) :
    (w.notifyPublisherSource orders streamId update).subscriberTransports.length =
      w.subscriberTransports.length := by
  unfold Server.notifyPublisherSource
  generalize orders.notifying.visit (w.router.streamTransports streamId) = transports
  induction transports generalizing w with
  | nil => rfl
  | cons transport transports ih => exact (ih _).trans (handlePublisherSource_length w transport)

/-- When no session of the stream is compatible, exactly the incompatible ones leave. -/
theorem none_compatible (hagree : SubscribersAgree w.registered w) (hprepared : Prepared w)
    (hgeneration : source.generation = w.router.nextSourceGeneration)
    (hincompatible : ∃ s, w.Watches source.streamId s ∧ ¬Compatible w source s)
    (hnone : ∀ s, w.Watches source.streamId s → ¬Compatible w source s) :
    OnlyIncompatibleLeave w
      ((w.replaced source).notifyPublisherSource orders source.streamId (updateTo source))
      source := by
  have hreplaced : SubscribersAgree (w.replaced source).registered (w.replaced source) :=
    hagree.congr rfl rfl rfl
  have hafter := (hreplaced.kept_notification orders source.streamId (updateTo source)).agree
  have hleft := some_incompatible orders hagree hprepared hgeneration hincompatible
  constructor
  · intro id s hs hstream _
    obtain rfl := (hagree.keys id s hs).1
    refine ⟨by rw [hleft, hs]; simp [hstream], ?_⟩
    have hlock := lock_of_left hreplaced hafter hleft hs hstream
    obtain ⟨t, ht, -⟩ := hagree.transports _ s hs
    have hlt : s.transport < ((w.replaced source).notifyPublisherSource orders source.streamId
        (updateTo source)).subscriberTransports.length := by
      rw [notifyPublisherSource_length]
      exact (List.getElem?_eq_some_iff.mp ht).1
    refine ⟨_, List.getElem?_eq_getElem hlt, ?_⟩
    by_contra hopen
    rw [lock_some.mpr ⟨List.getElem?_eq_getElem hlt, Bool.eq_false_iff.mpr hopen⟩] at hlock
    cases hlock
  · intro id s hs hcompatible
    obtain rfl := (hagree.keys id s hs).1
    have hstream : s.streamId ≠ source.streamId := fun heq =>
      hnone s ⟨hs, heq⟩ (hcompatible heq)
    have hs' : ((w.replaced source).notifyPublisherSource orders source.streamId
        (updateTo source)).registered s.sessionId = some s := by
      rw [hleft, hs]
      simp [hstream]
    obtain ⟨t, ht, hserves⟩ := hafter.transports _ s hs'
    refine ⟨hs', ?_, ⟨t, ht, hserves.not_closed⟩, fun heq => absurd heq hstream⟩
    rw [hafter.subscriptions, hs']
    rfl

theorem only_incompatible_leave (hagree : SubscribersAgree w.registered w)
    (hprepared : Prepared w)
    (hgeneration : source.generation = w.router.nextSourceGeneration) :
    OnlyIncompatibleLeave w
      ((w.replaced source).notifyPublisherSource orders source.streamId (updateTo source))
      source ↔
      (∀ s, w.Watches source.streamId s → Compatible w source s) ∨
        ∀ s, w.Watches source.streamId s → ¬Compatible w source s := by
  by_cases hall : ∀ s, w.Watches source.streamId s → Compatible w source s
  · exact iff_of_true (all_compatible hagree hprepared hgeneration hall) (.inl hall)
  · have hincompatible : ∃ s, w.Watches source.streamId s ∧ ¬Compatible w source s := by
      simpa only [not_forall, exists_prop] using hall
    constructor
    · intro hleave
      refine .inr fun s hs hcompatible => ?_
      have hstays := (hleave.stay s.sessionId s hs.1 fun _ => hcompatible).1
      rw [some_incompatible orders hagree hprepared hgeneration hincompatible, hs.1] at hstays
      simp [hs.2] at hstays
    · rintro (hall' | hnone)
      · exact absurd hall' hall
      · exact none_compatible hagree hprepared hgeneration hincompatible hnone

end Replacement

/-- The viewers a replacement of the publisher disconnects are exactly the incompatible ones when
all viewers of the stream are compatible with the new source, or none is. -/
theorem run_only_incompatible_leave {events : List Event} {w : Server}
    (h : Server.system.Run events w) (orders : VisitOrders) (streamId : Text)
    {publisherSessionId : Text} (hid : publisherSessionId ≠ [])
    (publisherOffer : WebrtcOfferSummary) :
    OnlyIncompatibleLeave w
      (w.setPublisherSource orders streamId publisherSessionId publisherOffer).1
      (w.nextSource streamId publisherSessionId publisherOffer) ↔
      (∀ s, w.Watches streamId s →
        Compatible w (w.nextSource streamId publisherSessionId publisherOffer) s) ∨
      ∀ s, w.Watches streamId s →
        ¬Compatible w (w.nextSource streamId publisherSessionId publisherOffer) s := by
  obtain ⟨hagrees, hprepared⟩ := run_prepared h
  by_cases hstream : streamId = []
  · subst hstream
    have hnobody : ∀ id s, w.registered id = some s → s.streamId ≠ [] := fun id s hs =>
      (hagrees.subscribers.keys id s hs).2.2
    refine iff_of_true ⟨?_, ?_⟩ (.inl fun s hs => absurd hs.2 (hnobody _ s hs.1))
    · exact fun id s hs hstream => absurd hstream (hnobody id s hs)
    · intro id s hs _
      obtain ⟨t, ht, hserves⟩ := hagrees.subscribers.transports id s hs
      refine ⟨hs, ?_, ⟨t, ht, hserves.not_closed⟩, fun hstream => absurd hstream (hnobody id s hs)⟩
      refine (hagrees.subscribers.subscriptions id).trans ?_
      rw [hs]
      rfl
  · rw [setPublisherSource_eq hstream hid]
    exact only_incompatible_leave hagrees.subscribers hprepared rfl

def nextId : Text := ascii "next"

theorem run_only_incompatible_leave_watched :
    OnlyIncompatibleLeave watchedServer
      (watchedServer.setPublisherSource storedOrders (ascii "live") nextId
        { bundleMids := [], media := [] }).1
      (watchedServer.nextSource (ascii "live") nextId { bundleMids := [], media := [] }) ↔
      (∀ s, watchedServer.Watches (ascii "live") s → Compatible watchedServer
        (watchedServer.nextSource (ascii "live") nextId { bundleMids := [], media := [] }) s) ∨
      ∀ s, watchedServer.Watches (ascii "live") s → ¬Compatible watchedServer
        (watchedServer.nextSource (ascii "live") nextId { bundleMids := [], media := [] }) s :=
  run_only_incompatible_leave watchedServer_run storedOrders (ascii "live") (by decide) _

def opusSection (direction mid : String) : MediaDescription :=
  { WhipPublisher.publisherSection "audio" mid "111" "111 opus/48000/2" with
    attributes :=
      [⟨ascii "mid", ascii mid⟩, { key := ascii direction }, { key := ascii "rtcp-mux" },
        ⟨ascii "rtpmap", ascii "111 opus/48000/2"⟩] }

def publishBoth : Event :=
  ⟨.createPublisher (ascii "live") (offerRequest
    (WhipPublisher.publisherDescription "BUNDLE 0 1"
      [opusSection "sendonly" "0", WhipPublisher.vp8Section "1"]) 48), storedOrders⟩

def watchAudio : Event :=
  ⟨.createSubscriber (ascii "live") (offerRequest
    (WhipPublisher.publisherDescription "BUNDLE 0" [opusSection "recvonly" "0"]) 49), storedOrders⟩

def watchVideo : Event :=
  ⟨.createSubscriber (ascii "live") (offerRequest (vp8Offer "recvonly") 50), storedOrders⟩

def deleteLive : Event := ⟨.deleteStream (ascii "live"), storedOrders⟩

/-- A viewer of the audio and a viewer of the video, whose publisher has gone. -/
def abandonedServer : Server :=
  ([publishBoth, watchAudio, watchVideo, deleteLive].foldlM Server.step {}).getD {}

theorem abandonedServer_run :
    Server.system.Run [publishBoth, watchAudio, watchVideo, deleteLive] abandonedServer := by
  have hexec : [publishBoth, watchAudio, watchVideo, deleteLive].foldlM Server.step {} =
      some abandonedServer := by decide +kernel
  have hstart : Server.system.Run [] {} := .start rfl
  exact hstart.exec hexec

/-- The offer of a publisher which has only video. -/
def videoOffer : WebrtcOfferSummary :=
  ((preparePublisher (offerRequest (vp8Offer "sendonly") 51) (ascii "live")).toOption.map
    PreparedPublisher.runtimeOffer).getD { bundleMids := [], media := [] }

def videoViewerId : Text := List.replicate 24 50

/-- The viewer of the video could watch the new publisher, and is disconnected. -/
theorem replacement_disconnects_compatible :
    Server.system.Run [publishBoth, watchAudio, watchVideo, deleteLive] abandonedServer ∧
      ¬OnlyIncompatibleLeave abandonedServer
        (abandonedServer.setPublisherSource storedOrders (ascii "live") nextId videoOffer).1
        (abandonedServer.nextSource (ascii "live") nextId videoOffer) := by
  refine ⟨abandonedServer_run, fun hleave => ?_⟩
  have hviewer : ((abandonedServer.registered videoViewerId).bind fun s =>
      (abandonedServer.subscriberTransports[s.transport]?).bind fun t =>
        (t.configFor (abandonedServer.nextSource (ascii "live") nextId videoOffer)).toOption).isSome =
        true := by decide +kernel
  have hgone : (abandonedServer.setPublisherSource storedOrders (ascii "live") nextId
      videoOffer).1.registered videoViewerId = none := by decide +kernel
  obtain ⟨config, hsome⟩ := Option.isSome_iff_exists.mp hviewer
  obtain ⟨s, hs, hsome⟩ := Option.bind_eq_some_iff.mp hsome
  obtain ⟨t, ht, hsome⟩ := Option.bind_eq_some_iff.mp hsome
  cases hconfig : t.configFor (abandonedServer.nextSource (ascii "live") nextId videoOffer) with
  | error message =>
      rw [hconfig] at hsome
      cases hsome
  | ok config =>
      have hstays := (hleave.stay videoViewerId s hs fun _ => ⟨t, config, ht, hconfig⟩).1
      rw [hgone] at hstays
      cases hstays

end SimpleWebrtc.SessionServer
