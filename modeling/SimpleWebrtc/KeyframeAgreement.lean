import SimpleWebrtc.KeyframeRecovery
import SimpleWebrtc.SubscriberChanges

/-!
# What subscribers wait for and what the router asks for

The waits of all sessions and the requests of the router, over whole runs. While
a new source is told to one subscriber after the other, those still to be told
are listed with what they will be told; everyone else agrees with the router at
every moment, whatever the others do in between.
-/
namespace SimpleWebrtc.WhepMedia
open Library Library.Text SdpSummary MediaFanout WhepSession WhipMedia

/-! ## The invariant -/

/-- What the router knows of its sources. -/
structure Sound (r : MediaFanoutRouter) : Prop where
  started : 0 < r.nextSourceGeneration
  below : ∀ streamId generation,
    r.publisherSourceGenerationsByStreamId.find? streamId = some generation →
      generation < r.nextSourceGeneration
  sources : ∀ streamId source, r.publisherSourcesByStreamId.find? streamId = some source →
    source.sessionId ≠ [] ∧ source.generation ≠ 0 ∧
      r.publisherSourceGenerationsByStreamId.find? streamId = some source.generation

/-- The subscription of an open transport. -/
structure Opened (w : MediaSystem) (i : ℕ) (t : WhepSessionTransport) : Prop where
  sessionId : t.sessionId ≠ []
  streamId : t.streamId ≠ []
  subscription : w.router.subscriptionsBySessionId.find? t.sessionId = some ⟨t.streamId, i⟩
  generation : t.publisherSourceGeneration ≤ (told w t.streamId).generation

/-- Every open transport is subscribed, and all but those which are still to be told their source
agree with the router. `active` says whether the publisher is asked again for every entry. -/
structure Covered (active : Prop) (untold : List (ℕ × MediaPublisherSourceUpdate))
    (w : MediaSystem) : Prop where
  retrying : active → Retrying w.router
  sound : Sound w.router
  subscribed : ∀ id s, w.router.subscriptionsBySessionId.find? id = some s →
    ∃ t, w.lock s.transport = some t ∧ t.session.sessionId = id
  opened : ∀ i t, w.lock i = some t → Opened w i t.session
  listed : ∀ key id, Lists w.router key id →
    ∃ s, w.router.subscriptionsBySessionId.find? id = some s
  due : ∀ i t update, w.lock i = some t → (i, update) ∈ untold →
    update = told w t.session.streamId
  settled : ∀ i t, w.lock i = some t → (∀ update, (i, update) ∉ untold) →
    SubscribedTo w.router t.session ∧ Agrees [] [] w.router t.session

theorem told_congr {w w' : MediaSystem}
    (hsources : w'.router.publisherSourcesByStreamId = w.router.publisherSourcesByStreamId)
    (hgenerations : w'.router.publisherSourceGenerationsByStreamId =
      w.router.publisherSourceGenerationsByStreamId) (streamId : Text) :
    told w' streamId = told w streamId := by
  rw [told, told, hsources, hgenerations]

theorem Sound.congr {r r' : MediaFanoutRouter} (h : Sound r)
    (hsources : r'.publisherSourcesByStreamId = r.publisherSourcesByStreamId)
    (hgenerations : r'.publisherSourceGenerationsByStreamId =
      r.publisherSourceGenerationsByStreamId)
    (hnext : r'.nextSourceGeneration = r.nextSourceGeneration) : Sound r' where
  started := by
    rw [hnext]
    exact h.started
  below := by
    rw [hgenerations, hnext]
    exact h.below
  sources := by
    rw [hsources, hgenerations]
    exact h.sources

/-- A stream's source is of the generation the stream is told. -/
theorem Sound.told_generation {w : MediaSystem} (h : Sound w.router) {streamId : Text}
    {source : MediaPublisherSource} (hsource : (told w streamId).source = some source) :
    source.sessionId ≠ [] ∧ source.generation = (told w streamId).generation ∧
      (told w streamId).generation ≠ 0 := by
  obtain ⟨hsession, hnonzero, hgeneration⟩ := h.sources streamId source hsource
  have heq : (told w streamId).generation = source.generation := by
    rw [told, hgeneration]
    rfl
  rw [heq]
  exact ⟨hsession, rfl, hnonzero⟩

/-- A transport which has the source and the generation its stream is told. -/
theorem subscribedTo_of_told {w : MediaSystem} (hsound : Sound w.router) {i : ℕ}
    {t t' : WhepSessionTransport} (h : Opened w i t) (hsessionId : t'.sessionId = t.sessionId)
    (hstreamId : t'.streamId = t.streamId)
    (hsource : t'.publisherSource = (told w t.streamId).source)
    (hgeneration : t'.publisherSourceGeneration = (told w t.streamId).generation) :
    SubscribedTo w.router t' := by
  refine ⟨?_, ?_, ?_, ?_, ?_⟩
  · rw [hsessionId]
    exact h.sessionId
  · rw [hstreamId]
    exact h.streamId
  · rw [hsessionId, hstreamId, h.subscription]
    rfl
  · rw [hsource, hstreamId]
    rfl
  · intro source hsome
    rw [hgeneration]
    exact hsound.told_generation (hsource.symm.trans hsome)

theorem unsubscribe_next (r : MediaFanoutRouter) (id : Text) :
    (r.unsubscribe id).nextSourceGeneration = r.nextSourceGeneration := by
  unfold MediaFanoutRouter.unsubscribe
  split_ifs
  · rfl
  · cases r.subscriptionsBySessionId.find? id with
    | none => rfl
    | some _ => rfl

/-- A transport which has taken a source waits for nothing. -/
structure Accepts (update : MediaPublisherSourceUpdate) (t t' : WhepSessionTransport) : Prop where
  closed : t'.closed = t.closed
  streamId : t'.streamId = t.streamId
  sessionId : t'.sessionId = t.sessionId
  publisherSource : t'.publisherSource = update.source
  generation : t'.publisherSourceGeneration = update.generation
  waiting : t'.keyframeWaitingSourceSsrcs = ∅

theorem acceptPublisherSource_accepts (update : MediaPublisherSourceUpdate)
    (t : WhepSessionTransport) : Accepts update t (t.acceptPublisherSource update).1 := by
  unfold WhepSessionTransport.acceptPublisherSource WhepSessionTransport.rebuildRtpRewriter
  simp only
  split_ifs
  all_goals
    split
    · exact ⟨rfl, rfl, rfl, rfl, rfl, rfl⟩
    · split
      · exact ⟨rfl, rfl, rfl, rfl, rfl, rfl⟩
      · exact ⟨rfl, rfl, rfl, rfl, rfl, rfl⟩

namespace MediaSystem

theorem lock_set_self {w : MediaSystem} {i : ℕ} {t : MediaTransport} (ht : w.lock i = some t)
    (routing : RouterState) {t' : MediaTransport} (hopen : t'.session.closed = false) :
    lock { routing, transports := w.transports.set i t' } i = some t' := by
  obtain ⟨hat, -⟩ := lock_some.mp ht
  have hlt := (List.getElem?_eq_some_iff.mp hat).1
  exact lock_some.mpr ⟨List.getElem?_set_self hlt, hopen⟩

theorem lock_set_other (w : MediaSystem) {i j : ℕ} (hne : i ≠ j) (routing : RouterState)
    (t' : MediaTransport) :
    lock { routing, transports := w.transports.set i t' } j = w.lock j := by
  simp only [lock, List.getElem?_set_ne hne]

theorem sendRtp_eq_recover (delivery : Delivery) (sourceGeneration : ℕ) (plainRtp : List UInt8)
    (w : MediaSystem) (i : ℕ) :
    w.sendRtp delivery sourceGeneration plainRtp i =
      w.recover (fun w => w.sendRtp delivery.now (delivery.srtp i) sourceGeneration plainRtp) i := by
  unfold sendRtp recover
  cases w.lock i with
  | none => rfl
  | some t => rfl

end MediaSystem

namespace Covered
variable {active : Prop} {untold : List (ℕ × MediaPublisherSourceUpdate)} {w : MediaSystem}

/-- Two open transports have different sessions. -/
theorem distinct (h : Covered active untold w) {i j : ℕ} {t u : MediaTransport}
    (ht : w.lock i = some t) (hu : w.lock j = some u) (hne : i ≠ j) :
    u.session.sessionId ≠ t.session.sessionId := by
  intro heq
  have hsubscription := (h.opened j u hu).subscription
  rw [heq, (h.opened i t ht).subscription, Option.some.injEq] at hsubscription
  exact hne (congrArg Subscription.transport hsubscription)

/-- A notice for a transport which is gone concerns nobody. -/
theorem drop {i : ℕ} {update : MediaPublisherSourceUpdate}
    (h : Covered active ((i, update) :: untold) w) (hnone : w.lock i = none) :
    Covered active untold w := by
  refine ⟨h.retrying, h.sound, h.subscribed, h.opened, h.listed, ?_, ?_⟩
  · intro j t update' ht hmem
    exact h.due j t update' ht (List.mem_cons_of_mem _ hmem)
  · intro j t ht hnotice
    apply h.settled j t ht
    intro update' hmem
    rcases List.mem_cons.mp hmem with heq | hmem
    · obtain ⟨rfl, -⟩ := Prod.mk.injEq .. ▸ heq
      rw [hnone] at ht
      cases ht
    · exact hnotice update' hmem

/-- One transport, alone with the router, comes to agree with it. -/
theorem settle {i : ℕ} {update : MediaPublisherSourceUpdate}
    (h : Covered active ((i, update) :: untold) w) {t t' : MediaTransport}
    (ht : w.lock i = some t) {routing : RouterState}
    (hrouter : OthersStay t.session.sessionId w.router routing.router)
    (hopen : t'.session.closed = false) (hstreamId : t'.session.streamId = t.session.streamId)
    (hsessionId : t'.session.sessionId = t.session.sessionId)
    (hgeneration : t'.session.publisherSourceGeneration ≤
      (told w t.session.streamId).generation)
    (hsubscribed : SubscribedTo routing.router t'.session)
    (hagrees : Agrees [] [] routing.router t'.session) :
    Covered active untold { routing, transports := w.transports.set i t' } := by
  have hself := MediaSystem.lock_set_self ht routing hopen
  have hother : ∀ j, i ≠ j →
      MediaSystem.lock { routing, transports := w.transports.set i t' } j = w.lock j :=
    fun j hne => w.lock_set_other hne routing t'
  have htold : ∀ streamId, told { routing, transports := w.transports.set i t' } streamId =
      told w streamId := told_congr hrouter.sources hrouter.generations
  have hat := h.opened i t ht
  constructor
  · exact fun hactive => hrouter.retrying (h.retrying hactive)
  · exact h.sound.congr hrouter.sources hrouter.generations hrouter.nextSourceGeneration
  · intro id s hs
    rw [show MediaSystem.router _ = routing.router from rfl, hrouter.subscriptions] at hs
    obtain ⟨u, hu, hid⟩ := h.subscribed id s hs
    by_cases hi : i = s.transport
    · rw [← hi, ht, Option.some.injEq] at hu
      rw [← hi]
      exact ⟨t', hself, by rw [hsessionId, hu, hid]⟩
    · exact ⟨u, (hother _ hi).trans hu, hid⟩
  · intro j u hu
    by_cases hi : i = j
    · subst hi
      rw [hself, Option.some.injEq] at hu
      subst hu
      refine ⟨?_, ?_, ?_, ?_⟩
      · rw [hsessionId]
        exact hat.sessionId
      · rw [hstreamId]
        exact hat.streamId
      · rw [show MediaSystem.router _ = routing.router from rfl, hrouter.subscriptions,
          hsessionId, hstreamId]
        exact hat.subscription
      · rw [htold, hstreamId]
        exact hgeneration
    · rw [hother j hi] at hu
      obtain ⟨hsession, hstream, hsubscription, hold⟩ := h.opened j u hu
      refine ⟨hsession, hstream, ?_, ?_⟩
      · rw [show MediaSystem.router _ = routing.router from rfl, hrouter.subscriptions]
        exact hsubscription
      · rw [htold]
        exact hold
  · intro key id hlists
    rw [show MediaSystem.router _ = routing.router from rfl, hrouter.subscriptions]
    by_cases hid : id = t.session.sessionId
    · rw [hid]
      exact ⟨_, hat.subscription⟩
    · exact h.listed key id ((hrouter.others key id hid).mp hlists)
  · intro j u update' hu hmem
    rw [htold]
    by_cases hi : i = j
    · subst hi
      rw [hself, Option.some.injEq] at hu
      subst hu
      rw [hstreamId]
      exact h.due i t update' ht (List.mem_cons_of_mem _ hmem)
    · rw [hother j hi] at hu
      exact h.due j u update' hu (List.mem_cons_of_mem _ hmem)
  · intro j u hu hnotice
    by_cases hi : i = j
    · subst hi
      rw [hself, Option.some.injEq] at hu
      subst hu
      exact ⟨hsubscribed, hagrees⟩
    · rw [hother j hi] at hu
      obtain ⟨hsub, hagree⟩ := h.settled j u hu (by
        intro update' hmem
        rcases List.mem_cons.mp hmem with heq | hmem
        · exact hi (congrArg Prod.fst heq).symm
        · exact hnotice update' hmem)
      exact ⟨hrouter.subscribedTo hsub, hagree.of_same (.refl _) rfl (Finset.Subset.refl _)
        fun key => hrouter.others key _ (h.distinct ht hu hi)⟩

/-- A notice may always be pending for a transport which has it already. -/
theorem expect (h : Covered active untold w) {i : ℕ} {t : MediaTransport} (ht : w.lock i = some t) :
    Covered active ((i, told w t.session.streamId) :: untold) w := by
  refine ⟨h.retrying, h.sound, h.subscribed, h.opened, h.listed, ?_, ?_⟩
  · intro j u update hu hmem
    rcases List.mem_cons.mp hmem with heq | hmem
    · obtain ⟨rfl, rfl⟩ := Prod.mk.injEq .. ▸ heq
      rw [ht, Option.some.injEq] at hu
      rw [hu]
    · exact h.due j u update hu hmem
  · intro j u hu hnotice
    exact h.settled j u hu fun update hmem => hnotice update (List.mem_cons_of_mem _ hmem)

/-! ## Operations of one transport -/

theorem recover (h : Covered active untold w) {f : Recovering → Recovering} (hf : Recovers f)
    {i : ℕ} (hi : ∀ update, (i, update) ∉ untold) : Covered active untold (w.recover f i) := by
  unfold MediaSystem.recover
  split
  · exact h
  · rename_i t ht
    obtain ⟨hsubscribed, hagrees⟩ := h.settled i t ht hi
    obtain ⟨hkeeps, hagrees'⟩ := hf ⟨w.routing, t⟩ hsubscribed hagrees
    have hopen := (lock_some.mp ht).2
    apply (h.expect ht).settle ht hkeeps.router (hkeeps.session.closed.trans hopen)
      hkeeps.session.streamId hkeeps.session.sessionId _ (hkeeps.subscribedTo hsubscribed) hagrees'
    rw [hkeeps.session.generation]
    exact (h.opened i t ht).generation

/-- Transports change in what is neither their session nor their waits. -/
theorem touch (h : Covered active untold w) {transports : List MediaTransport}
    (hquiet : ∀ i : ℕ, transports[i]? = w.transports[i]? ∨ ∃ t t', w.transports[i]? = some t ∧
      transports[i]? = some t' ∧ Quiet t.session t'.session) :
    Covered active untold { w with transports } := by
  have hforth : ∀ i t, w.lock i = some t →
      ∃ t', MediaSystem.lock { w with transports } i = some t' ∧ Quiet t.session t'.session := by
    intro i t ht
    obtain ⟨hat, hopen⟩ := lock_some.mp ht
    rcases hquiet i with heq | ⟨u, t', hu, ht', hq⟩
    · exact ⟨t, lock_some.mpr ⟨heq.trans hat, hopen⟩, .refl _⟩
    · rw [hat, Option.some.injEq] at hu
      subst hu
      exact ⟨t', lock_some.mpr ⟨ht', hq.closed.trans hopen⟩, hq⟩
  have hback : ∀ i t', MediaSystem.lock { w with transports } i = some t' →
      ∃ t, w.lock i = some t ∧ Quiet t.session t'.session := by
    intro i t' ht'
    obtain ⟨hat, hopen⟩ := lock_some.mp ht'
    rcases hquiet i with heq | ⟨t, u, ht, hu, hq⟩
    · exact ⟨t', lock_some.mpr ⟨heq.symm.trans hat, hopen⟩, .refl _⟩
    · rw [show MediaSystem.transports { w with transports } = transports from rfl, hu,
        Option.some.injEq] at hat
      subst hat
      exact ⟨t, lock_some.mpr ⟨ht, hq.closed.symm.trans hopen⟩, hq⟩
  constructor
  · exact h.retrying
  · exact h.sound
  · intro id s hs
    obtain ⟨t, ht, hid⟩ := h.subscribed id s hs
    obtain ⟨t', ht', hq⟩ := hforth _ t ht
    exact ⟨t', ht', hq.sessionId.trans hid⟩
  · intro i t' ht'
    obtain ⟨t, ht, hq⟩ := hback i t' ht'
    obtain ⟨hsession, hstream, hsubscription, hgeneration⟩ := h.opened i t ht
    refine ⟨?_, ?_, ?_, ?_⟩
    · rw [hq.sessionId]
      exact hsession
    · rw [hq.streamId]
      exact hstream
    · rw [hq.sessionId, hq.streamId]
      exact hsubscription
    · rw [hq.generation, hq.streamId]
      exact hgeneration
  · exact h.listed
  · intro i t' update ht' hmem
    obtain ⟨t, ht, hq⟩ := hback i t' ht'
    rw [hq.streamId]
    exact h.due i t update ht hmem
  · intro i t' ht' hnotice
    obtain ⟨t, ht, hq⟩ := hback i t' ht'
    obtain ⟨hsubscribed, hagrees⟩ := h.settled i t ht hnotice
    exact ⟨hq.toSameSession.subscribedTo hsubscribed, hq.agrees hagrees⟩

theorem touch_set (h : Covered active untold w) {i : ℕ} {t t' : MediaTransport}
    (ht : w.transports[i]? = some t) (hquiet : Quiet t.session t'.session) :
    Covered active untold { w with transports := w.transports.set i t' } := by
  apply h.touch
  intro j
  by_cases hi : i = j
  · subst hi
    exact .inr ⟨t, t', ht, List.getElem?_set_self (List.getElem?_eq_some_iff.mp ht).1, hquiet⟩
  · exact .inl (List.getElem?_set_ne hi)

theorem touch_modify (h : Covered active untold w) (i : ℕ) {f : MediaTransport → MediaTransport}
    (hf : ∀ t, Quiet t.session (f t).session) :
    Covered active untold { w with transports := w.transports.modify i f } := by
  apply h.touch
  intro j
  rw [List.getElem?_modify]
  cases hat : w.transports[j]? with
  | none => exact .inl rfl
  | some t =>
      refine .inr ⟨t, _, rfl, rfl, ?_⟩
      split_ifs
      · exact hf t
      · exact .refl _

theorem tell (h : Covered active untold w) {f : MediaTransport → MediaTransport}
    (hf : ∀ t, Quiet t.session (f t).session) (i : ℕ) : Covered active untold (w.tell f i) := by
  unfold MediaSystem.tell
  split
  · exact h
  · rename_i t ht
    exact h.touch_set (lock_some.mp ht).1 (hf t)

/-- The router changes in what concerns neither sources nor subscriptions nor waits. -/
theorem reroute (h : Covered active untold w) {routing : RouterState}
    (hsubscriptions : routing.router.subscriptionsBySessionId = w.router.subscriptionsBySessionId)
    (hsources : routing.router.publisherSourcesByStreamId = w.router.publisherSourcesByStreamId)
    (hgenerations : routing.router.publisherSourceGenerationsByStreamId =
      w.router.publisherSourceGenerationsByStreamId)
    (hnext : routing.router.nextSourceGeneration = w.router.nextSourceGeneration)
    (hlists : ∀ key id, Lists routing.router key id ↔ Lists w.router key id)
    (hretrying : active → Retrying routing.router) :
    Covered active untold { w with routing } := by
  have htold : ∀ streamId, told { w with routing } streamId = told w streamId :=
    told_congr hsources hgenerations
  constructor
  · exact hretrying
  · exact h.sound.congr hsources hgenerations hnext
  · intro id s hs
    rw [show MediaSystem.router _ = routing.router from rfl, hsubscriptions] at hs
    exact h.subscribed id s hs
  · intro i t ht
    obtain ⟨hsession, hstream, hsubscription, hgeneration⟩ := h.opened i t ht
    refine ⟨hsession, hstream, ?_, ?_⟩
    · rw [show MediaSystem.router _ = routing.router from rfl, hsubscriptions]
      exact hsubscription
    · rw [htold]
      exact hgeneration
  · intro key id hlisted
    rw [show MediaSystem.router _ = routing.router from rfl, hsubscriptions]
    exact h.listed key id ((hlists key id).mp hlisted)
  · intro i t update ht hmem
    rw [htold]
    exact h.due i t update ht hmem
  · intro i t ht hnotice
    obtain ⟨hsubscribed, hagrees⟩ := h.settled i t ht hnotice
    refine ⟨⟨hsubscribed.sessionId, hsubscribed.streamId, ?_, ?_, hsubscribed.source⟩,
      hagrees.of_same (.refl _) rfl (Finset.Subset.refl _) fun key => hlists key _⟩
    · rw [show MediaSystem.router _ = routing.router from rfl, hsubscriptions]
      exact hsubscribed.subscription
    · rw [show MediaSystem.router _ = routing.router from rfl, hsources]
      exact hsubscribed.publisherSource

/-! ## Leaving -/

theorem closeTransport (h : Covered active untold w) (i : ℕ) :
    Covered active untold (w.closeTransport i) := by
  unfold MediaSystem.closeTransport
  split
  · exact h
  · rename_i t ht
    let router := w.router.unsubscribe t.session.sessionId
    let w' : MediaSystem :=
      { routing := w.routing.perform (.unsubscribe t.session.sessionId)
        transports := w.transports.set i { t with session := t.session.shutDown } }
    have hat := h.opened i t ht
    have hdelists : Delists (fun _ id => id = t.session.sessionId) w.router router :=
      .unsubscribe hat.sessionId hat.subscription
    obtain ⟨hsources, hgenerations, -⟩ := unsubscribe_sources w.router t.session.sessionId
    have hsubscriptions : ∀ id, id ≠ t.session.sessionId →
        router.subscriptionsBySessionId.find? id = w.router.subscriptionsBySessionId.find? id := by
      intro id hid
      rw [unsubscribe_subscriptions, if_neg fun hboth => hid hboth.1]
    have htold : ∀ streamId, told w' streamId = told w streamId := told_congr hsources hgenerations
    have hgone : ∀ j u, w'.lock j = some u → i ≠ j ∧ w.lock j = some u := by
      intro j u hu
      have hne : i ≠ j := by
        rintro rfl
        obtain ⟨hself, hopen⟩ := lock_some.mp hu
        rw [List.getElem?_set_self (List.getElem?_eq_some_iff.mp (lock_some.mp ht).1).1,
          Option.some.injEq] at hself
        rw [← hself] at hopen
        cases hopen
      exact ⟨hne, (w.lock_set_other hne _ _).symm.trans hu⟩
    constructor
    · exact fun hactive => hdelists.retrying (h.retrying hactive)
    · exact h.sound.congr hsources hgenerations (unsubscribe_next _ _)
    · intro id s hs
      by_cases hid : id = t.session.sessionId
      · rw [hid, show MediaSystem.router _ = router from rfl, unsubscribe_subscriptions,
          if_pos ⟨rfl, hat.sessionId⟩] at hs
        cases hs
      · rw [show MediaSystem.router _ = router from rfl, hsubscriptions id hid] at hs
        obtain ⟨u, hu, hsession⟩ := h.subscribed id s hs
        have hne : i ≠ s.transport := by
          intro heq
          rw [← heq, ht, Option.some.injEq] at hu
          rw [hu] at hid
          exact hid hsession.symm
        exact ⟨u, (w.lock_set_other hne _ _).trans hu, hsession⟩
    · intro j u hu
      obtain ⟨hne, hu⟩ := hgone j u hu
      obtain ⟨hsession, hstream, hsubscription, hgeneration⟩ := h.opened j u hu
      refine ⟨hsession, hstream, ?_, ?_⟩
      · rw [show MediaSystem.router _ = router from rfl, hsubscriptions _ (h.distinct ht hu hne)]
        exact hsubscription
      · rw [htold]
        exact hgeneration
    · intro key id hlists
      obtain ⟨hlists, hid⟩ := (hdelists.lists key id).mp hlists
      rw [show MediaSystem.router _ = router from rfl, hsubscriptions id hid]
      exact h.listed key id hlists
    · intro j u update hu hmem
      rw [htold]
      exact h.due j u update (hgone j u hu).2 hmem
    · intro j u hu hnotice
      obtain ⟨hne, hu⟩ := hgone j u hu
      have hsession := h.distinct ht hu hne
      obtain ⟨hsubscribed, hagrees⟩ := h.settled j u hu hnotice
      refine ⟨⟨hsubscribed.sessionId, hsubscribed.streamId, ?_, ?_, hsubscribed.source⟩,
        hagrees.of_same (.refl _) rfl (Finset.Subset.refl _) ?_⟩
      · rw [show MediaSystem.router _ = router from rfl, hsubscriptions _ hsession]
        exact hsubscribed.subscription
      · rw [show MediaSystem.router _ = router from rfl, hsources]
        exact hsubscribed.publisherSource
      · exact fun key => (hdelists.lists key _).trans (and_iff_left hsession)

theorem closeSubscribers (h : Covered active untold w) (order : VisitOrder ℕ) (streamId : Text) :
    Covered active untold (w.closeSubscribers order streamId) := by
  unfold MediaSystem.closeSubscribers
  generalize order.visit (w.sessionTransports streamId) = transports
  induction transports generalizing w with
  | nil => exact h
  | cons transport transports ih => exact ih (h.closeTransport transport)

theorem notifyPublisherFailure (h : Covered active untold w) (order : VisitOrder ℕ) (i : ℕ) :
    Covered active untold (w.notifyPublisherFailure order i) := by
  unfold MediaSystem.notifyPublisherFailure
  split
  · exact h
  · rename_i t ht
    have htaken : Covered active untold { w with
        transports := w.transports.set i { t with session := t.session.takeFailureHandler } } :=
      h.touch_set ht ⟨⟨rfl, rfl, rfl, rfl, rfl⟩, rfl, rfl⟩
    simp only
    split
    · exact htaken
    · exact htaken.closeSubscribers order _

/-! ## Being told a source -/

theorem handlePublisherSource {i : ℕ} {update : MediaPublisherSourceUpdate}
    (h : Covered active ((i, update) :: untold) w) (order : VisitOrder ℕ) :
    Covered active untold (MediaSystem.handlePublisherSource order update w i) := by
  unfold MediaSystem.handlePublisherSource
  split
  · rename_i hnone
    exact h.drop hnone
  · rename_i t ht
    have hat := h.opened i t ht
    obtain rfl := h.due i t update ht List.mem_cons_self
    rw [if_neg (Nat.not_lt.mpr hat.generation)]
    have haccepts := acceptPublisherSource_accepts (told w t.session.streamId) t.session
    have hrouter : OthersStay t.session.sessionId w.router
        (w.router.cancelKeyframeRequests t.session.sessionId) := .cancelKeyframeRequests _ _
    have hsubscribed := hrouter.subscribedTo (subscribedTo_of_told h.sound hat haccepts.sessionId
      haccepts.streamId haccepts.publisherSource haccepts.generation)
    have haccepted : Covered active untold
        { routing := w.routing.perform (.cancelKeyframeRequests t.session.sessionId)
          transports := w.transports.set i
            (t.acceptPublisherSource (told w t.session.streamId)).1 } := by
      apply h.settle ht hrouter (haccepts.closed.trans (lock_some.mp ht).2) haccepts.streamId
        haccepts.sessionId haccepts.generation.le hsubscribed
      refine ⟨?_, ?_, ?_⟩
      · intro sourceSsrc hmem
        exact absurd (haccepts.waiting ▸ hmem) (Finset.notMem_empty _)
      · intro key hlists
        exact absurd haccepts.sessionId
          ((Delists.cancelKeyframeRequests w.router hat.sessionId).lists key _ |>.mp hlists).2
      · intro sourceSsrc hmem
        exact absurd (haccepts.waiting ▸ hmem) (Finset.notMem_empty _)
    simp only
    split_ifs
    · exact haccepted
    · exact haccepted.notifyPublisherFailure order i

theorem notifyAll {update : MediaPublisherSourceUpdate} {transports : List ℕ}
    (h : Covered active (transports.map fun i => (i, update)) w) (order : VisitOrder ℕ) :
    Covered active [] (transports.foldl (MediaSystem.handlePublisherSource order update) w) := by
  induction transports generalizing w with
  | nil => exact h
  | cons i transports ih => exact ih (h.handlePublisherSource order)

end Covered
end SimpleWebrtc.WhepMedia
