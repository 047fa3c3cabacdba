import SimpleWebrtc.SourceByes

/-!
# Subscribers come and go

While a generation lasts, a subscriber which leaves takes its subscription and
its requests with it, and one which joins is told the source of the stream and
the timings the router has. Neither brings back what was forgotten of a source.
-/
namespace SimpleWebrtc.WhipMedia
open Library Library.Text MediaFanout WhepSession WhepMedia RewriterConfig SdpSummary

/-! ## Leaving -/

theorem unsubscribe_sources (r : MediaFanoutRouter) (id : Text) :
    (r.unsubscribe id).publisherSourcesByStreamId = r.publisherSourcesByStreamId ∧
      (r.unsubscribe id).publisherSourceGenerationsByStreamId =
        r.publisherSourceGenerationsByStreamId ∧
      (r.unsubscribe id).publisherSenderTimingsByStreamId =
        r.publisherSenderTimingsByStreamId := by
  unfold MediaFanoutRouter.unsubscribe
  split_ifs
  · exact ⟨rfl, rfl, rfl⟩
  · cases r.subscriptionsBySessionId.find? id with
    | none => exact ⟨rfl, rfl, rfl⟩
    | some _ => exact ⟨rfl, rfl, rfl⟩

theorem unsubscribe_subscriptions (r : MediaFanoutRouter) (id id' : Text) :
    (r.unsubscribe id).subscriptionsBySessionId.find? id' =
      if id' = id ∧ id ≠ [] then none else r.subscriptionsBySessionId.find? id' := by
  unfold MediaFanoutRouter.unsubscribe
  by_cases hid : id = []
  · simp [hid]
  · cases hfind : r.subscriptionsBySessionId.find? id with
    | none =>
        simp only [hid, if_false, ne_eq, not_false_eq_true, and_true]
        split_ifs with heq
        · rw [heq, hfind]
        · rfl
    | some _ => simp [hid, AssocMap.find?_erase]

/-- Requests and subscriptions get fewer, but for one new subscription, and every other transport
stays as it is or is no longer subscribed. -/
structure Narrows (id : Text) (new : Subscription) (m m' : MediaSystem) : Prop where
  sources : m'.router.publisherSourcesByStreamId = m.router.publisherSourcesByStreamId
  generations : m'.router.publisherSourceGenerationsByStreamId =
    m.router.publisherSourceGenerationsByStreamId
  timings : m'.router.publisherSenderTimingsByStreamId = m.router.publisherSenderTimingsByStreamId
  requests : ∀ key state', m'.router.keyframeRequests.find? key = some state' →
    ∃ state, m.router.keyframeRequests.find? key = some state
  subscriptions : ∀ id' s, m'.router.subscriptionsBySessionId.find? id' = some s →
    m.router.subscriptionsBySessionId.find? id' = some s ∨ id' = id ∧ s = new
  transports : ∀ i ≠ new.transport, m'.transports[i]? = m.transports[i]? ∨
    ∀ t, m.transports[i]? = some t → t.session.sessionId ≠ [] → ∀ s,
      m'.router.subscriptionsBySessionId.find? t.session.sessionId = some s → s = new

namespace Narrows
variable {id : Text} {new : Subscription} {m m' m'' : MediaSystem}

theorem of_routing (hrouting : m'.router = m.router)
    (htransports : ∀ i ≠ new.transport, m'.transports[i]? = m.transports[i]?) :
    Narrows id new m m' := by
  refine ⟨by rw [hrouting], by rw [hrouting], by rw [hrouting], ?_, ?_,
    fun i hi => .inl (htransports i hi)⟩
  · intro key state' hstate
    rw [hrouting] at hstate
    exact ⟨state', hstate⟩
  · intro id' s hs
    rw [hrouting] at hs
    exact .inl hs

theorem refl (m : MediaSystem) : Narrows id new m m := of_routing rfl fun _ _ => rfl

theorem trans (h : Narrows id new m m') (h' : Narrows id new m' m'') : Narrows id new m m'' where
  sources := h'.sources.trans h.sources
  generations := h'.generations.trans h.generations
  timings := h'.timings.trans h.timings
  requests := by
    intro key state'' hstate
    obtain ⟨state', hstate'⟩ := h'.requests key state'' hstate
    exact h.requests key state' hstate'
  subscriptions := by
    intro id' s hs
    rcases h'.subscriptions id' s hs with hold | hnew
    · exact h.subscriptions id' s hold
    · exact .inr hnew
  transports := by
    intro i hi
    rcases h.transports i hi with heq | hleft
    · have hrest := h'.transports i hi
      rw [heq] at hrest
      exact hrest
    · right
      intro t ht hnamed s hs
      rcases h'.subscriptions _ s hs with hold | ⟨-, hnew⟩
      · exact hleft t ht hnamed s hold
      · exact hnew

theorem foldl {α : Type*} {f : MediaSystem → α → MediaSystem}
    (hf : ∀ m a, Narrows id new m (f m a)) (m : MediaSystem) (as : List α) :
    Narrows id new m (as.foldl f m) := by
  induction as generalizing m with
  | nil => exact refl m
  | cons a as ih => exact (hf m a).trans (ih (f m a))

theorem closeTransport (m : MediaSystem) (transport : ℕ) :
    Narrows id new m (m.closeTransport transport) := by
  unfold MediaSystem.closeTransport
  split
  · exact refl m
  · rename_i t ht
    obtain ⟨hat, -⟩ := lock_some.mp ht
    obtain ⟨hsources, hgenerations, htimings⟩ :=
      unsubscribe_sources m.router t.session.sessionId
    refine ⟨hsources, hgenerations, htimings, ?_, ?_, ?_⟩
    · intro key state' hstate
      obtain ⟨state, hfind, -⟩ := Shrinks.unsubscribe m.router t.session.sessionId key state' hstate
      exact ⟨state, hfind⟩
    · intro id' s hs
      rw [show MediaSystem.router _ = m.router.unsubscribe t.session.sessionId from rfl,
        unsubscribe_subscriptions] at hs
      split_ifs at hs
      exact .inl hs
    · intro i hi
      by_cases heq : transport = i
      · right
        intro t' ht' hnamed s hs
        subst heq
        rw [hat, Option.some.injEq] at ht'
        subst ht'
        rw [show MediaSystem.router _ = m.router.unsubscribe t.session.sessionId from rfl,
          unsubscribe_subscriptions, if_pos ⟨rfl, hnamed⟩] at hs
        cases hs
      · exact .inl (List.getElem?_set_ne heq)

theorem cancelKeyframeRequests (m : MediaSystem) (id' : Text) {transports : List MediaTransport}
    (htransports : ∀ i ≠ new.transport, transports[i]? = m.transports[i]?) :
    Narrows id new m
      { routing := m.routing.perform (.cancelKeyframeRequests id'), transports } := by
  have hfollows : RoutesFollow 0 m.router (m.router.cancelKeyframeRequests id') :=
    .cancelKeyframeRequests m.router id'
  refine ⟨hfollows.sources, hfollows.generations, hfollows.timings, ?_, ?_,
    fun i hi => .inl (htransports i hi)⟩
  · intro key state' hstate
    obtain ⟨state, hfind, -⟩ := Shrinks.cancelKeyframeRequests m.router id' key state' hstate
    exact ⟨state, hfind⟩
  · intro id'' s hs
    rw [show MediaSystem.router _ = m.router.cancelKeyframeRequests id' from rfl,
      hfollows.subscriptions] at hs
    exact .inl hs

theorem closeSubscribers (m : MediaSystem) (order : VisitOrder ℕ) (streamId : Text) :
    Narrows id new m (m.closeSubscribers order streamId) :=
  foldl closeTransport m _

theorem notifyPublisherFailure (m : MediaSystem) (order : VisitOrder ℕ) :
    Narrows id new m (m.notifyPublisherFailure order new.transport) := by
  unfold MediaSystem.notifyPublisherFailure
  split
  · exact refl m
  · rename_i t ht
    have htaken : Narrows id new m { m with
        transports := m.transports.set new.transport
          { t with session := t.session.takeFailureHandler } } :=
      of_routing rfl fun i hi => List.getElem?_set_ne hi.symm
    simp only
    split
    · exact htaken
    · exact htaken.trans (closeSubscribers _ order _)

theorem handlePublisherSource (m : MediaSystem) (order : VisitOrder ℕ)
    (update : MediaPublisherSourceUpdate) :
    Narrows id new m (MediaSystem.handlePublisherSource order update m new.transport) := by
  unfold MediaSystem.handlePublisherSource
  split
  · exact refl m
  · rename_i t ht
    split_ifs
    · exact refl m
    · simp only
      have haccepted : Narrows id new m
          { routing := m.routing.perform (.cancelKeyframeRequests t.session.sessionId)
            transports := m.transports.set new.transport (t.acceptPublisherSource update).1 } :=
        cancelKeyframeRequests m _ fun i hi => List.getElem?_set_ne hi.symm
      split_ifs
      · exact haccepted
      · exact haccepted.trans (notifyPublisherFailure _ order)

theorem tell (m : MediaSystem) (f : MediaTransport → MediaTransport) :
    Narrows id new m (m.tell f new.transport) :=
  of_routing (by rw [MediaSystem.router, MediaSystem.tell_routing]; rfl)
    fun _ hi => MediaSystem.tell_other hi.symm

end Narrows

/-! ## Joining -/

/-- The new subscription with the router. -/
def subscribed (m : MediaSystem) (streamId sessionId : Text) (target : WhepRtpRewriterTarget) :
    MediaSystem where
  routing := m.routing.perform (.subscribe streamId sessionId m.transports.length)
  transports := m.transports ++ [MediaTransport.create streamId sessionId target]

theorem subscribe_perform (s : RouterState) {streamId sessionId : Text} {transport : ℕ}
    {result : MediaFanoutRouter × MediaPublisherSourceUpdate × List MediaPublisherSenderTiming}
    (h : s.router.subscribe streamId sessionId transport = some result) :
    (s.perform (.subscribe streamId sessionId transport)).router = result.1 := by
  simp only [RouterState.perform, h]
  rfl

theorem append_other {transports : List MediaTransport} {i : ℕ} (hi : i ≠ transports.length)
    (t : MediaTransport) : (transports ++ [t])[i]? = transports[i]? := by
  rcases Nat.lt_or_gt_of_ne hi with hlt | hgt
  · exact List.getElem?_append_left hlt
  · have hlength : (transports ++ [t]).length = transports.length + 1 := by simp
    rw [List.getElem?_eq_none (by omega), List.getElem?_eq_none hgt.le]

theorem subscribed_narrows (m : MediaSystem) (streamId sessionId : Text)
    (target : WhepRtpRewriterTarget) :
    Narrows sessionId ⟨streamId, m.transports.length⟩ m
      (subscribed m streamId sessionId target) := by
  have htransports : ∀ i ≠ m.transports.length,
      (subscribed m streamId sessionId target).transports[i]? = m.transports[i]? :=
    fun i hi => append_other hi _
  cases hresult : m.routing.router.subscribe streamId sessionId m.transports.length with
  | none =>
      refine .of_routing ?_ htransports
      simp only [MediaSystem.router, subscribed, RouterState.perform, hresult]
  | some result =>
      have hrouter : (subscribed m streamId sessionId target).router =
          { m.router with
            subscriptionsBySessionId := m.router.subscriptionsBySessionId.insertOrAssign sessionId
              ⟨streamId, m.transports.length⟩ } := by
        rw [MediaSystem.router, subscribed, subscribe_perform m.routing hresult]
        unfold MediaFanoutRouter.subscribe at hresult
        split_ifs at hresult
        rw [← Option.some.inj hresult]
        rfl
      refine ⟨by rw [hrouter], by rw [hrouter], by rw [hrouter], ?_, ?_,
        fun i hi => .inl (htransports i hi)⟩
      · intro key state' hstate
        rw [hrouter] at hstate
        exact ⟨state', hstate⟩
      · intro id' s hs
        rw [hrouter, AssocMap.find?_insertOrAssign] at hs
        split_ifs at hs with hid
        · exact .inr ⟨hid, (Option.some.inj hs).symm⟩
        · exact .inl hs

/-- What a joining session is told. -/
def told (m : MediaSystem) (streamId : Text) : MediaPublisherSourceUpdate where
  generation := (m.router.publisherSourceGenerationsByStreamId.find? streamId).getD 0
  source := m.router.publisherSourcesByStreamId.find? streamId

def toldTimings (m : MediaSystem) (streamId : Text) : List MediaPublisherSenderTiming :=
  ((m.router.publisherSenderTimingsByStreamId.find? streamId).map AssocMap.values).getD []

/-- A session which joins is told the source, then every timing, and is adopted. -/
theorem join_cases (m : MediaSystem) (order : VisitOrder ℕ) (streamId sessionId : Text)
    (target : WhepRtpRewriterTarget) :
    m.join order streamId sessionId target = { m with
      transports := m.transports ++ [MediaTransport.create streamId sessionId target] } ∨
    sessionId ≠ [] ∧ ∃ m', m' = (toldTimings m streamId).foldl
        (fun m' timing =>
          m'.tell (MediaTransport.handlePublisherSenderTiming timing) m.transports.length)
        (MediaSystem.handlePublisherSource order (told m streamId)
          (subscribed m streamId sessionId target) m.transports.length) ∧
      m.join order streamId sessionId target = { m' with
        transports := m'.transports.modify m.transports.length fun t =>
          { t with session := t.session.adopt } } := by
  unfold MediaSystem.join
  simp only [MediaSystem.router]
  cases hresult : m.routing.router.subscribe streamId sessionId m.transports.length with
  | none => exact .inl rfl
  | some result =>
      right
      unfold MediaFanoutRouter.subscribe at hresult
      split_ifs at hresult with hnamed
      rw [← Option.some.inj hresult]
      exact ⟨fun hsession => hnamed (.inr hsession), _, rfl, rfl⟩

theorem join_narrows (m : MediaSystem) (order : VisitOrder ℕ) (streamId sessionId : Text)
    (target : WhepRtpRewriterTarget) :
    Narrows sessionId ⟨streamId, m.transports.length⟩ m
      (m.join order streamId sessionId target) := by
  rcases join_cases m order streamId sessionId target with heq | ⟨-, m', hm', heq⟩
  · rw [heq]
    exact .of_routing rfl fun i hi => append_other hi _
  · have htold : Narrows sessionId ⟨streamId, m.transports.length⟩ m m' := by
      rw [hm']
      exact ((subscribed_narrows m streamId sessionId target).trans
        (.handlePublisherSource _ order _)).trans (.foldl (fun m _ => .tell m _) _ _)
    rw [heq]
    refine htold.trans (.of_routing rfl fun i hi => ?_)
    have hne : m.transports.length ≠ i := hi.symm
    simp [hne]

/-- A transport which was just told a source. -/
structure Starts (update : MediaPublisherSourceUpdate) (id : Text) (t : WhepSessionTransport) :
    Prop where
  closed : t.closed = false
  owned : t.owned = false
  sessionId : t.sessionId = id
  publisherSource : t.publisherSource = update.source
  generation : t.publisherSourceGeneration = update.generation
  waiting : t.keyframeWaitingSourceSsrcs = ∅
  timings : t.publisherSenderTimings = AssocMap.empty
  senders : ∀ targetSsrc sender, t.outboundRtcpSenders.find? targetSsrc = some sender →
    sender.senderTiming = none

/-- A transport which has no timing yet. -/
structure Unstarted (id : Text) (t : WhepSessionTransport) : Prop where
  closed : t.closed = false
  owned : t.owned = false
  sessionId : t.sessionId = id
  generation : t.publisherSourceGeneration = 0
  timings : t.publisherSenderTimings = AssocMap.empty
  senders : ∀ targetSsrc sender, t.outboundRtcpSenders.find? targetSsrc = some sender →
    sender.senderTiming = none

theorem create_unstarted (streamId sessionId : Text) (target : WhepRtpRewriterTarget) :
    Unstarted sessionId (MediaTransport.create streamId sessionId target).session := by
  refine ⟨rfl, rfl, rfl, rfl, rfl, ?_⟩
  intro targetSsrc sender hsender
  have hcleared : (MediaTransport.create streamId sessionId target).session.outboundRtcpSenders =
      (WhepSessionTransport.configureOutboundRtcpSenders target).mapValues fun _ sender =>
        { sender with senderTiming := none } := rfl
  rw [hcleared, AssocMap.find?_mapValues, Option.map_eq_some_iff] at hsender
  obtain ⟨_, -, rfl⟩ := hsender
  rfl

theorem acceptPublisherSource_starts {id : Text} {t : WhepSessionTransport} (h : Unstarted id t)
    (update : MediaPublisherSourceUpdate) : Starts update id (t.acceptPublisherSource update).1 := by
  have hrebuilt : ∀ t' : WhepSessionTransport, t'.closed = false → t'.owned = false →
      t'.sessionId = id → t'.publisherSource = update.source →
      t'.publisherSourceGeneration = update.generation → t'.keyframeWaitingSourceSsrcs = ∅ →
      t'.publisherSenderTimings = AssocMap.empty →
      (∀ targetSsrc sender, t'.outboundRtcpSenders.find? targetSsrc = some sender →
        sender.senderTiming = none) → Starts update id t'.rebuildRtpRewriter.1 := by
    intro t' hclosed howned hid hsource hgeneration hwaiting htimings hsenders
    unfold WhepSessionTransport.rebuildRtpRewriter
    split
    · exact ⟨hclosed, howned, hid, hsource, hgeneration, rfl, htimings, hsenders⟩
    · split
      · exact ⟨hclosed, howned, hid, hsource, hgeneration, rfl, htimings, hsenders⟩
      · exact ⟨hclosed, howned, hid, hsource, hgeneration, hwaiting, htimings, hsenders⟩
  unfold WhepSessionTransport.acceptPublisherSource
  simp only
  split_ifs
  · refine hrebuilt _ h.closed h.owned h.sessionId rfl rfl rfl rfl ?_
    intro targetSsrc sender hsender
    simp only [WhepSessionTransport.clearPublisherSenderTimings, AssocMap.find?_mapValues,
      Option.map_eq_some_iff] at hsender
    obtain ⟨_, -, rfl⟩ := hsender
    rfl
  · exact hrebuilt _ h.closed h.owned h.sessionId rfl rfl rfl h.timings h.senders

theorem closeTransports_other (m : MediaSystem) {transports : List ℕ} {i : ℕ}
    (hi : i ∉ transports) :
    (transports.foldl MediaSystem.closeTransport m).transports[i]? = m.transports[i]? := by
  induction transports generalizing m with
  | nil => rfl
  | cons transport transports ih =>
      rw [List.mem_cons, not_or] at hi
      rw [List.foldl_cons, ih _ hi.2]
      unfold MediaSystem.closeTransport
      split
      · rfl
      · exact List.getElem?_set_ne (Ne.symm hi.1)

/-- A transport which no session refers to is not closed with a stream. -/
theorem closeSubscribers_unowned {m : MediaSystem} {i : ℕ} {t : MediaTransport}
    (ht : m.transports[i]? = some t) (howned : t.session.owned = false) (order : VisitOrder ℕ)
    (streamId : Text) : (m.closeSubscribers order streamId).transports[i]? = some t := by
  have hi : i ∉ order.visit (m.sessionTransports streamId) := by
    rw [VisitOrder.mem_visit]
    intro hmem
    obtain ⟨-, hany⟩ := List.mem_filter.mp hmem
    obtain ⟨t', hlock, hcondition⟩ := (Option.any_eq_true _ _).mp hany
    obtain ⟨hat, -⟩ := lock_some.mp hlock
    rw [ht, Option.some.injEq] at hat
    rw [← hat, howned] at hcondition
    cases hcondition
  rw [MediaSystem.closeSubscribers, closeTransports_other m hi, ht]

theorem handlePublisherSource_starts {m : MediaSystem} {i : ℕ} {t : MediaTransport} {id : Text}
    (ht : m.transports[i]? = some t) (h : Unstarted id t.session) (order : VisitOrder ℕ)
    (update : MediaPublisherSourceUpdate) :
    ∃ t', (MediaSystem.handlePublisherSource order update m i).transports[i]? = some t' ∧
      Starts update id t'.session := by
  have hlt := (List.getElem?_eq_some_iff.mp ht).1
  have hstarts := acceptPublisherSource_starts h update
  unfold MediaSystem.handlePublisherSource
  simp only [lock_some.mpr ⟨ht, h.closed⟩, h.generation, Nat.not_lt_zero, if_false]
  split_ifs
  · exact ⟨_, List.getElem?_set_self hlt, hstarts⟩
  · let failed : MediaTransport := { (t.acceptPublisherSource update).1 with
      session := (t.acceptPublisherSource update).1.session.takeFailureHandler }
    have htaken : Starts update id failed.session :=
      ⟨hstarts.closed, hstarts.owned, hstarts.sessionId, hstarts.publisherSource,
        hstarts.generation, hstarts.waiting, hstarts.timings, hstarts.senders⟩
    have hat : ((m.transports.set i (t.acceptPublisherSource update).1).set i failed)[i]? =
        some failed := List.getElem?_set_self (by rwa [List.length_set])
    unfold MediaSystem.notifyPublisherFailure
    simp only [List.getElem?_set_self hlt]
    split
    · exact ⟨failed, hat, htaken⟩
    · exact ⟨failed, closeSubscribers_unowned hat htaken.owned order _, htaken⟩

/-- What each timing keeps of a transport, all of them do. -/
theorem tells_keep {P : WhepSessionTransport → Prop} {timings : List MediaPublisherSenderTiming}
    (hopen : ∀ t, P t → t.closed = false)
    (hstep : ∀ timing ∈ timings, ∀ t t', Learns timing t t' → P t → P t') {m : MediaSystem} {i : ℕ}
    {t : MediaTransport} (ht : m.transports[i]? = some t) (hp : P t.session) :
    ∃ t', (timings.foldl
      (fun m timing => m.tell (MediaTransport.handlePublisherSenderTiming timing) i)
        m).transports[i]? = some t' ∧ P t'.session := by
  induction timings generalizing m t with
  | nil => exact ⟨t, ht, hp⟩
  | cons timing timings ih =>
      rw [List.forall_mem_cons] at hstep
      have hlearns := Learns.handlePublisherSenderTiming timing t.session
      exact ih hstep.2 (MediaSystem.tell_self ht (hopen _ hp)) (hstep.1 _ _ hlearns hp)

theorem mem_toldTimings {m : MediaSystem} {streamId : Text} {timing : MediaPublisherSenderTiming} :
    timing ∈ toldTimings m streamId ↔
      ∃ sourceSsrc, StoresTiming m.router streamId sourceSsrc timing := by
  unfold toldTimings StoresTiming
  cases m.router.publisherSenderTimingsByStreamId.find? streamId with
  | none => simp
  | some timings => simp [AssocMap.mem_values]

/-- What is served of a transport which has just been told the stream's source. -/
theorem Starts.served {w : PublishedStream} (hw : Consistent [] w) {id : Text} (hid : id ≠ [])
    {t : WhepSessionTransport} (h : Starts (told w.media w.publisher.streamId) id t) :
    Served w id t := by
  obtain ⟨source, hsource, hsession, -⟩ := hw.current
  refine ⟨⟨hid, h.closed, h.sessionId, ⟨source, ?_, hsession⟩, ?_⟩, ?_, ?_, ?_⟩
  · rw [h.publisherSource, told, hsource]
  · rw [h.generation, told, hw.generation]
    rfl
  · rw [h.waiting]
    exact Finset.notMem_empty 0
  · intro sourceSsrc timing htiming
    rw [h.timings] at htiming
    cases htiming
  · intro targetSsrc sender timing hsender htiming
    rw [h.senders targetSsrc sender hsender] at htiming
    cases htiming

theorem Starts.forgets {update : MediaPublisherSourceUpdate} {id : Text} {t : WhepSessionTransport}
    (h : Starts update id t) (ssrc : UInt32) : Forgets t ssrc where
  timing := by
    rw [h.timings]
    rfl
  senders := by
    intro targetSsrc sender timing hsender htiming
    rw [h.senders targetSsrc sender hsender] at htiming
    cases htiming
  waiting := by
    rw [h.waiting]
    exact Finset.notMem_empty ssrc

/-- A joined session is served as if it had been there, and knows no more than the router. -/
theorem join_newest {w : PublishedStream} (hw : Consistent [] w) (order : VisitOrder ℕ)
    {sessionId : Text} (target : WhepRtpRewriterTarget)
    (hjoined : (w.media.join order w.publisher.streamId sessionId
      target).router.subscriptionsBySessionId.find? sessionId =
        some ⟨w.publisher.streamId, w.media.transports.length⟩) :
    ∃ t, (w.media.join order w.publisher.streamId sessionId
        target).transports[w.media.transports.length]? = some t ∧ Served w sessionId t.session ∧
      ∀ ssrc, w.Forgotten ssrc → Forgets t.session ssrc := by
  rcases join_cases w.media order w.publisher.streamId sessionId target with
    heq | ⟨hsession, m', hm', heq⟩
  · rw [heq] at hjoined
    obtain ⟨t, ht, -⟩ := hw.subscriptions sessionId _ hjoined
    rw [List.getElem?_eq_none (le_refl _)] at ht
    cases ht
  · obtain ⟨started, hstarted, hstarts⟩ := handlePublisherSource_starts
      (m := subscribed w.media w.publisher.streamId sessionId target)
      (List.getElem?_concat_length ..)
      (create_unstarted w.publisher.streamId sessionId target) order
      (told w.media w.publisher.streamId)
    let Known (t : WhepSessionTransport) : Prop :=
      Served w sessionId t ∧ ∀ ssrc, w.Forgotten ssrc → Forgets t ssrc
    have hknown : Known started.session :=
      ⟨hstarts.served hw hsession, fun ssrc _ => hstarts.forgets ssrc⟩
    have hlearn : ∀ timing ∈ toldTimings w.media w.publisher.streamId, ∀ t t',
        Learns timing t t' → Known t → Known t' := by
      intro timing hmem t t' hlearns ⟨hserved, hforgets⟩
      obtain ⟨ssrc, hstores⟩ := mem_toldTimings.mp hmem
      obtain ⟨rfl, -⟩ := hw.stored ssrc timing hstores
      refine ⟨hserved.learns hstores hlearns, fun ssrc hforgotten => ?_⟩
      apply (hforgets ssrc hforgotten).learns _ hlearns
      rintro rfl
      exact hforgotten.timing timing hstores
    obtain ⟨t, ht, hserved, hforgets⟩ := tells_keep (P := Known)
      (fun _ h => h.1.opened) hlearn hstarted hknown
    rw [heq]
    refine ⟨{ t with session := t.session.adopt }, ?_, ?_, ?_⟩
    · rw [← hm'] at ht
      simp [ht]
    · exact ⟨⟨hserved.named, hserved.opened, hserved.sessionId, hserved.publisherSource,
        hserved.generation⟩, hserved.waiting, hserved.timings, hserved.senders⟩
    · intro ssrc hforgotten
      obtain ⟨htiming, hsenders, hwaiting⟩ := hforgets ssrc hforgotten
      exact ⟨htiming, hsenders, hwaiting⟩

/-! ## The invariant -/

namespace Narrows
variable {w : PublishedStream} {id : Text} {new : Subscription} {m' : MediaSystem}

/-- The new subscription, if it is of the stream, is served. -/
structure Serves (w : PublishedStream) (id : Text) (new : Subscription) (m' : MediaSystem) :
    Prop where
  unused : w.media.transports[new.transport]? = none
  newest : new.streamId = w.publisher.streamId →
    m'.router.subscriptionsBySessionId.find? id = some new →
      ∃ t, m'.transports[new.transport]? = some t ∧ Served w id t.session ∧
        ∀ ssrc, w.Forgotten ssrc → Forgets t.session ssrc

/-- Who is subscribed was so before, with the same transport, or is the new one. -/
theorem subscriber (h : Narrows id new w.media m') (hw : Consistent [] w)
    (hserves : Serves w id new m') {id' : Text} {transport : ℕ}
    (hsubscription : m'.router.subscriptionsBySessionId.find? id' =
      some ⟨w.publisher.streamId, transport⟩) :
    ∃ t, m'.transports[transport]? = some t ∧ Served w id' t.session ∧
      ∀ ssrc, w.Forgotten ssrc → Forgets t.session ssrc := by
  rcases h.subscriptions id' _ hsubscription with hold | ⟨rfl, rfl⟩
  · obtain ⟨t, ht, hserved⟩ := hw.subscriptions id' transport hold
    have hne : transport ≠ new.transport := by
      rintro rfl
      rw [hserves.unused] at ht
      cases ht
    rcases h.transports transport hne with heq | hleft
    · exact ⟨t, heq.trans ht, hserved, fun ssrc hforgotten =>
        hforgotten.subscribers id' t.session ⟨transport, t, hold, ht, rfl⟩⟩
    · rw [← hserved.sessionId] at hsubscription
      have hnew := hleft t ht (hserved.sessionId.symm ▸ hserved.named) _ hsubscription
      exact absurd (congrArg Subscription.transport hnew) hne
  · exact hserves.newest rfl hsubscription

theorem consistent (h : Narrows id new w.media m') (hw : Consistent [] w)
    (hserves : Serves w id new m') : Consistent [] { w with media := m' } where
  streamId := hw.streamId
  sessionId := hw.sessionId
  generation_ne_zero := hw.generation_ne_zero
  current := by
    rw [IsCurrent, h.sources]
    exact hw.current
  generation := by
    rw [h.generations]
    exact hw.generation
  bounded := hw.bounded
  stored := by
    intro ssrc timing hstores
    rw [PublishedStream.Stores, StoresTiming, h.timings] at hstores
    exact hw.stored ssrc timing hstores
  requests := by
    intro key state' hstate hstream
    obtain ⟨state, hfind⟩ := h.requests key state' hstate
    exact hw.requests key state hfind hstream
  subscriptions := by
    intro id' transport hsubscription
    obtain ⟨t, ht, hserved, -⟩ := h.subscriber hw hserves hsubscription
    refine ⟨t, ht, ⟨⟨hserved.named, hserved.opened, hserved.sessionId, hserved.publisherSource,
      hserved.generation⟩, hserved.waiting, ?_, hserved.senders⟩⟩
    intro ssrc timing htiming
    obtain ⟨heq, stored, hstores⟩ := hserved.timings ssrc timing htiming
    refine ⟨heq, stored, ?_⟩
    rw [PublishedStream.Stores, StoresTiming, h.timings]
    exact hstores

theorem forgotten (h : Narrows id new w.media m') (hw : Consistent [] w)
    (hserves : Serves w id new m') {ssrc : UInt32} (hforgotten : w.Forgotten ssrc) :
    PublishedStream.Forgotten { w with media := m' } ssrc where
  timing := by
    intro timing hstores
    rw [PublishedStream.Stores, StoresTiming, h.timings] at hstores
    exact hforgotten.timing timing hstores
  requests := by
    intro key state' hstate hstream
    obtain ⟨state, hfind⟩ := h.requests key state' hstate
    exact hforgotten.requests key state hfind hstream
  subscribers := by
    rintro id' t ⟨transport, media, hsubscription, hmedia, rfl⟩
    obtain ⟨media', hmedia', -, hforgets⟩ := h.subscriber hw hserves hsubscription
    rw [hmedia, Option.some.injEq] at hmedia'
    subst hmedia'
    exact hforgets ssrc hforgotten

end Narrows

theorem join_serves {w : PublishedStream} (hw : Consistent [] w) (order : VisitOrder ℕ)
    (streamId sessionId : Text) (target : WhepRtpRewriterTarget) :
    Narrows.Serves w sessionId ⟨streamId, w.media.transports.length⟩
      (w.media.join order streamId sessionId target) where
  unused := List.getElem?_eq_none (le_refl _)
  newest := by
    rintro rfl hjoined
    exact join_newest hw order target hjoined

theorem leave_serves {w : PublishedStream} (hw : Consistent [] w) (transport : ℕ) :
    Narrows.Serves w [] ⟨[], w.media.transports.length⟩ (w.media.closeTransport transport) where
  unused := List.getElem?_eq_none (le_refl _)
  newest hstream := absurd hstream.symm hw.streamId

end SimpleWebrtc.WhipMedia
