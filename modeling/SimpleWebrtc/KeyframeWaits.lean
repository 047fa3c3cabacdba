import SimpleWebrtc.MediaEvents
import SimpleWebrtc.SourceTraces

/-!
# Who waits for a keyframe

The router lists the subscribers that wait for a keyframe of a source, and a
subscriber keeps the sources it waits for. Every operation of the router is told
by what it does to the list; a subscriber's own operations keep the two sides in
agreement, whatever else is in the list.
-/
namespace SimpleWebrtc.MediaFanout
open Library Library.Text SdpSummary

/-! ## The router's side -/

/-- A subscriber is listed as waiting for the keyframe of a key. -/
def Lists (r : MediaFanoutRouter) (key : KeyframeRequestKey) (id : Text) : Prop :=
  ∃ state, r.keyframeRequests.find? key = some state ∧ id ∈ state.waitingSubscriberSessionIds

/-- The publisher is asked again for every entry. -/
def Retrying (r : MediaFanoutRouter) : Prop :=
  ∀ key state, r.keyframeRequests.find? key = some state → state.retryActive = true

/-- Some no longer wait; who is left is retried for as before. -/
structure Delists (gone : KeyframeRequestKey → Text → Prop) (r r' : MediaFanoutRouter) : Prop where
  lists : ∀ key id, Lists r' key id ↔ Lists r key id ∧ ¬gone key id
  retrying : Retrying r → Retrying r'

namespace Delists
variable {r r' : MediaFanoutRouter} {gone : KeyframeRequestKey → Text → Prop}

theorem of_eq (h : r'.keyframeRequests = r.keyframeRequests) (hnone : ∀ key id, Lists r key id →
    ¬gone key id) : Delists gone r r' where
  lists key id := by
    rw [Lists, h]
    exact ⟨fun hlists => ⟨hlists, hnone key id hlists⟩, fun hlists => hlists.1⟩
  retrying hretrying key state hstate := by
    rw [h] at hstate
    exact hretrying key state hstate

theorem erase (h : ∃ key, r'.keyframeRequests = r.keyframeRequests.erase key ∧
    ∀ key' id, gone key' id ↔ key' = key) : Delists gone r r' := by
  obtain ⟨key, heq, hgone⟩ := h
  constructor
  · intro key' id
    simp only [Lists, heq, AssocMap.find?_erase, hgone]
    split_ifs with hkey
    · simp [hkey]
    · simp [hkey]
  · intro hretrying key' state hstate
    rw [heq, AssocMap.find?_erase] at hstate
    split_ifs at hstate
    exact hretrying key' state hstate

theorem cancelStreamKeyframeRequests (r : MediaFanoutRouter) (streamId : Text) :
    Delists (fun key _ => key.streamId = streamId) r (r.cancelStreamKeyframeRequests streamId) := by
  constructor
  · intro key id
    simp only [Lists, MediaFanoutRouter.cancelStreamKeyframeRequests, AssocMap.find?_filter,
      Option.filter_eq_some_iff, decide_eq_true_eq]
    constructor
    · rintro ⟨state, ⟨hstate, hkey⟩, hid⟩
      exact ⟨⟨state, hstate, hid⟩, hkey⟩
    · rintro ⟨⟨state, hstate, hid⟩, hkey⟩
      exact ⟨state, ⟨hstate, hkey⟩, hid⟩
  · intro hretrying key state hstate
    simp only [MediaFanoutRouter.cancelStreamKeyframeRequests, AssocMap.find?_filter,
      Option.filter_eq_some_iff] at hstate
    exact hretrying key state hstate.1

theorem cancelKeyframeRequestsForSubscriber (r : MediaFanoutRouter) (id : Text) :
    Delists (fun _ id' => id' = id) r (r.cancelKeyframeRequestsForSubscriber id) := by
  constructor
  · intro key id'
    simp only [Lists, MediaFanoutRouter.cancelKeyframeRequestsForSubscriber, AssocMap.find?_filter,
      AssocMap.find?_mapValues, Option.filter_eq_some_iff, Option.map_eq_some_iff,
      decide_eq_true_eq]
    constructor
    · rintro ⟨state', ⟨⟨state, hstate, rfl⟩, -⟩, hid⟩
      obtain ⟨hne, hid⟩ := Finset.mem_erase.mp hid
      exact ⟨⟨state, hstate, hid⟩, hne⟩
    · rintro ⟨⟨state, hstate, hid⟩, hne⟩
      have hid' := Finset.mem_erase.mpr ⟨hne, hid⟩
      exact ⟨_, ⟨⟨state, hstate, rfl⟩, Finset.ne_empty_of_mem hid'⟩, hid'⟩
  · intro hretrying key state hstate
    simp only [MediaFanoutRouter.cancelKeyframeRequestsForSubscriber, AssocMap.find?_filter,
      AssocMap.find?_mapValues, Option.filter_eq_some_iff, Option.map_eq_some_iff] at hstate
    obtain ⟨⟨state', hstate', rfl⟩, -⟩ := hstate
    exact hretrying key state' hstate'

theorem cancelKeyframeRequests (r : MediaFanoutRouter) {id : Text} (hid : id ≠ []) :
    Delists (fun _ id' => id' = id) r (r.cancelKeyframeRequests id) := by
  rw [MediaFanoutRouter.cancelKeyframeRequests, if_neg hid]
  exact cancelKeyframeRequestsForSubscriber r id

theorem unsubscribe {r : MediaFanoutRouter} {id : Text} {s : Subscription} (hid : id ≠ [])
    (hs : r.subscriptionsBySessionId.find? id = some s) :
    Delists (fun _ id' => id' = id) r (r.unsubscribe id) := by
  obtain ⟨hlists, hretrying⟩ := cancelKeyframeRequestsForSubscriber r id
  rw [MediaFanoutRouter.unsubscribe, if_neg hid, hs]
  exact ⟨hlists, hretrying⟩

theorem completeKeyframeRequest (r : MediaFanoutRouter) {streamId id publisherSessionId : Text}
    {sourceGeneration : ℕ} {mediaSsrc : UInt32}
    (hnamed : ¬(streamId = [] ∨ id = [] ∨ publisherSessionId = [] ∨ sourceGeneration = 0 ∨
      mediaSsrc = 0)) :
    Delists (fun key id' =>
        key = ⟨streamId, publisherSessionId, sourceGeneration, mediaSsrc⟩ ∧ id' = id) r
      (r.completeKeyframeRequest streamId id publisherSessionId sourceGeneration mediaSsrc) := by
  rw [MediaFanoutRouter.completeKeyframeRequest, if_neg hnamed]
  simp only
  cases hfind : r.keyframeRequests.find?
      ⟨streamId, publisherSessionId, sourceGeneration, mediaSsrc⟩ with
  | none =>
      refine of_eq rfl ?_
      rintro key id' ⟨state, hstate, -⟩ ⟨rfl, -⟩
      rw [hfind] at hstate
      cases hstate
  | some state =>
      simp only
      split_ifs with hempty
      · constructor
        · intro key id'
          simp only [Lists, AssocMap.find?_erase]
          split_ifs with hkey
          · subst hkey
            simp only [hfind, Option.some.injEq, exists_eq_left', false_and, exists_false, true_and,
              false_iff, not_and, not_not]
            intro hid
            by_contra hne
            have hmem := Finset.mem_erase.mpr ⟨hne, hid⟩
            rw [hempty] at hmem
            exact Finset.notMem_empty _ hmem
          · simp [hkey]
        · intro hretrying key' state' hstate
          rw [AssocMap.find?_erase] at hstate
          split_ifs at hstate
          exact hretrying key' state' hstate
      · constructor
        · intro key id'
          simp only [Lists, AssocMap.find?_insertOrAssign]
          split_ifs with hkey
          · subst hkey
            simp only [hfind, Option.some.injEq, exists_eq_left', Finset.mem_erase, true_and]
            exact and_comm
          · simp [hkey]
        · intro hretrying key' state' hstate
          rw [AssocMap.find?_insertOrAssign] at hstate
          split_ifs at hstate
          · cases hstate
            exact hretrying _ state hfind
          · exact hretrying key' state' hstate

theorem beginGeneration (r : MediaFanoutRouter) (streamId : Text)
    (sources : AssocMap Text MediaPublisherSource) :
    Delists (fun key _ => key.streamId = streamId) r (r.beginGeneration streamId sources) := by
  obtain ⟨hlists, hretrying⟩ := cancelStreamKeyframeRequests r streamId
  exact ⟨hlists, hretrying⟩

end Delists

/-- A request which is accepted lists its subscriber, and the publisher is asked for it. -/
theorem lists_requestKeyframe {r : MediaFanoutRouter} {streamId id publisherSessionId : Text}
    {sourceGeneration : ℕ} {mediaSsrc : UInt32} {result : MediaFanoutRouter × Bool}
    (h : r.requestKeyframe streamId id publisherSessionId sourceGeneration mediaSsrc =
      some result) (key : KeyframeRequestKey) (id' : Text) :
    Lists result.1 key id' ↔ Lists r key id' ∨
      key = ⟨streamId, publisherSessionId, sourceGeneration, mediaSsrc⟩ ∧ id' = id := by
  obtain ⟨-, heq⟩ := requestKeyframe_some h
  simp only [heq, Lists, AssocMap.find?_insertOrAssign]
  split_ifs with hkey
  · subst hkey
    simp only [Option.some.injEq, exists_eq_left', joinKeyframeRequest_waiting, Finset.mem_insert,
      true_and]
    cases r.keyframeRequests.find?
        ⟨streamId, publisherSessionId, sourceGeneration, mediaSsrc⟩ with
    | none => simp
    | some state => simp [or_comm]
  · simp [hkey]

theorem joinKeyframeRequest_retryActive (id : Text) (state : KeyframeRequestState) :
    (MediaFanoutRouter.joinKeyframeRequest id state).retryActive = true := by
  unfold MediaFanoutRouter.joinKeyframeRequest
  simp only
  split_ifs with hactive
  · exact hactive
  · rfl

theorem retrying_requestKeyframe {r : MediaFanoutRouter} {streamId id publisherSessionId : Text}
    {sourceGeneration : ℕ} {mediaSsrc : UInt32} {result : MediaFanoutRouter × Bool}
    (h : r.requestKeyframe streamId id publisherSessionId sourceGeneration mediaSsrc =
      some result) (hretrying : Retrying r) : Retrying result.1 := by
  obtain ⟨-, heq⟩ := requestKeyframe_some h
  intro key state hstate
  rw [heq, AssocMap.find?_insertOrAssign] at hstate
  split_ifs at hstate
  · cases hstate
    exact joinKeyframeRequest_retryActive _ _
  · exact hretrying key state hstate

end SimpleWebrtc.MediaFanout

namespace SimpleWebrtc.WhepMedia
open Library Library.Text RtpPacket RtpRewriter MediaFanout WhepSession VideoKeyframeDetector
  RtcpCompoundPacket

/-! ## The subscriber's side -/

/-- The subscription of a transport, which knows the source of its stream. -/
structure SubscribedTo (r : MediaFanoutRouter) (t : WhepSessionTransport) : Prop where
  sessionId : t.sessionId ≠ []
  streamId : t.streamId ≠ []
  subscription : (r.subscriptionsBySessionId.find? t.sessionId).map Subscription.streamId =
    some t.streamId
  publisherSource : t.publisherSource = r.publisherSourcesByStreamId.find? t.streamId
  source : ∀ source, t.publisherSource = some source →
    source.sessionId ≠ [] ∧ source.generation = t.publisherSourceGeneration ∧
      t.publisherSourceGeneration ≠ 0

/-- The key under which the router lists a transport that waits for a source. -/
def waitKey (t : WhepSessionTransport) (source : MediaPublisherSource) (sourceSsrc : UInt32) :
    KeyframeRequestKey :=
  ⟨t.streamId, source.sessionId, t.publisherSourceGeneration, sourceSsrc⟩

/-- The router lists a transport for the sources it waits for, but for those it is still to be
asked for, and for those whose keyframe it is still to be told of. -/
structure Agrees (asked done : List UInt32) (r : MediaFanoutRouter) (t : WhepSessionTransport) :
    Prop where
  requested : ∀ sourceSsrc ∈ t.keyframeWaitingSourceSsrcs, sourceSsrc ∉ asked →
    ∃ source, t.publisherSource = some source ∧
      Lists r (waitKey t source sourceSsrc) t.sessionId
  listed : ∀ key, Lists r key t.sessionId →
    (key.mediaSsrc ∈ t.keyframeWaitingSourceSsrcs ∨ key.mediaSsrc ∈ done) ∧ key.mediaSsrc ≠ 0 ∧
      ∃ source, t.publisherSource = some source ∧ key = waitKey t source key.mediaSsrc
  ready : ∀ sourceSsrc ∈ t.keyframeWaitingSourceSsrcs,
    sourceSsrc ∉ t.keyframeReadySourceSsrcs ∧ sourceSsrc ∉ done

/-- What the recovery leaves alone in a transport. -/
structure SameSession (t t' : WhepSessionTransport) : Prop where
  closed : t'.closed = t.closed
  streamId : t'.streamId = t.streamId
  sessionId : t'.sessionId = t.sessionId
  publisherSource : t'.publisherSource = t.publisherSource
  generation : t'.publisherSourceGeneration = t.publisherSourceGeneration

namespace SameSession
variable {t t' t'' : WhepSessionTransport}

theorem refl (t : WhepSessionTransport) : SameSession t t := ⟨rfl, rfl, rfl, rfl, rfl⟩

theorem trans (h : SameSession t t') (h' : SameSession t' t'') : SameSession t t'' where
  closed := h'.closed.trans h.closed
  streamId := h'.streamId.trans h.streamId
  sessionId := h'.sessionId.trans h.sessionId
  publisherSource := h'.publisherSource.trans h.publisherSource
  generation := h'.generation.trans h.generation

theorem of_follows {sourceSsrc : UInt32} (h : FollowsIn sourceSsrc t t') : SameSession t t' :=
  ⟨h.closed, h.streamId, h.sessionId, h.publisherSource, h.publisherSourceGeneration⟩

theorem waitKey_eq (h : SameSession t t') (source : MediaPublisherSource) (sourceSsrc : UInt32) :
    waitKey t' source sourceSsrc = waitKey t source sourceSsrc := by
  rw [waitKey, waitKey, h.streamId, h.generation]

theorem subscribedTo (h : SameSession t t') {r : MediaFanoutRouter} (ht : SubscribedTo r t) :
    SubscribedTo r t' := by
  constructor
  · rw [h.sessionId]
    exact ht.sessionId
  · rw [h.streamId]
    exact ht.streamId
  · rw [h.sessionId, h.streamId]
    exact ht.subscription
  · rw [h.publisherSource, h.streamId]
    exact ht.publisherSource
  · rw [h.publisherSource, h.generation]
    exact ht.source

end SameSession

/-- Agreement is about the waits and the list only. -/
theorem Agrees.of_same {asked done : List UInt32} {r r' : MediaFanoutRouter}
    {t t' : WhepSessionTransport} (h : Agrees asked done r t) (hsame : SameSession t t')
    (hwaiting : t'.keyframeWaitingSourceSsrcs = t.keyframeWaitingSourceSsrcs)
    (hready : t'.keyframeReadySourceSsrcs ⊆ t.keyframeReadySourceSsrcs)
    (hlists : ∀ key, Lists r' key t.sessionId ↔ Lists r key t.sessionId) :
    Agrees asked done r' t' where
  requested := by
    intro sourceSsrc hmem hasked
    rw [hwaiting] at hmem
    obtain ⟨source, hsource, hlisted⟩ := h.requested sourceSsrc hmem hasked
    refine ⟨source, hsame.publisherSource.trans hsource, ?_⟩
    rw [hsame.waitKey_eq, hsame.sessionId, hlists]
    exact hlisted
  listed := by
    intro key hlisted
    rw [hsame.sessionId, hlists] at hlisted
    obtain ⟨hwaits, hne, source, hsource, hkey⟩ := h.listed key hlisted
    rw [hwaiting]
    refine ⟨hwaits, hne, source, hsame.publisherSource.trans hsource, ?_⟩
    rw [hsame.waitKey_eq]
    exact hkey
  ready := by
    intro sourceSsrc hmem
    rw [hwaiting] at hmem
    obtain ⟨hnotReady, hnotDone⟩ := h.ready sourceSsrc hmem
    exact ⟨fun hmem' => hnotReady (hready hmem'), hnotDone⟩

/-- A context the transport may act on. -/
structure ContextOf (t : WhepSessionTransport) (context : KeyframeRequestContext) : Prop where
  generation : context.sourceGeneration = t.publisherSourceGeneration
  publisherSource : ∃ source, t.publisherSource = some source ∧
    source.sessionId = context.publisherSessionId

theorem ContextOf.of_same {t t' : WhepSessionTransport} {context : KeyframeRequestContext}
    (h : ContextOf t context) (hsame : SameSession t t') : ContextOf t' context where
  generation := h.generation.trans hsame.generation.symm
  publisherSource := by
    rw [hsame.publisherSource]
    exact h.publisherSource

/-! ## Preparing a request -/

/-- A request which is prepared is still to be made, unless the source is waited for already. -/
theorem prepareKeyframeRequest_agrees {asked done : List UInt32} {r : MediaFanoutRouter}
    {t : WhepSessionTransport} (h : Agrees asked done r t) {sourceSsrc : UInt32}
    (hdone : sourceSsrc ∉ done) (sourceGeneration : ℕ) (targetSsrc : UInt32)
    (forceDispatch coalesceIfWaiting : Bool) :
    Agrees ((t.prepareKeyframeRequest sourceGeneration sourceSsrc targetSsrc forceDispatch
        coalesceIfWaiting).2.toList.map KeyframeRequestContext.sourceSsrc ++ asked) done r
      (t.prepareKeyframeRequest sourceGeneration sourceSsrc targetSsrc forceDispatch
        coalesceIfWaiting).1 := by
  have hsame := SameSession.of_follows (FollowsIn.prepareKeyframeRequest sourceGeneration
    sourceSsrc targetSsrc forceDispatch coalesceIfWaiting t)
  rcases prepareKeyframeRequest_cases t sourceGeneration sourceSsrc targetSsrc forceDispatch
    coalesceIfWaiting with heq | ⟨source, hprepares, heq⟩
  · rw [heq]
    exact h
  · rw [heq] at hsame ⊢
    constructor
    · intro ssrc hmem hasked
      rw [List.mem_append, not_or] at hasked
      obtain ⟨hnew, hold⟩ := hasked
      have hwaits : ssrc ∈ t.keyframeWaitingSourceSsrcs := by
        rcases Finset.mem_insert.mp hmem with rfl | hwaits
        · by_contra hnot
          have hmade : ¬(ssrc ∈ t.keyframeWaitingSourceSsrcs ∧ forceDispatch = false) :=
            fun hcoalesced => hnot hcoalesced.1
          simp [if_neg hmade] at hnew
        · exact hwaits
      exact h.requested ssrc hwaits hold
    · intro key hlisted
      obtain ⟨hwaits, hne, source', hsource', hkey⟩ := h.listed key hlisted
      exact ⟨hwaits.imp_left Finset.mem_insert_of_mem, hne, source', hsource', hkey⟩
    · intro ssrc hmem
      rcases Finset.mem_insert.mp hmem with rfl | hwaits
      · refine ⟨?_, hdone⟩
        simp only
        split_ifs with hforce
        · exact Finset.notMem_erase _ _
        · exact hprepares.ready (by simpa using hforce)
      · obtain ⟨hnotReady, hnotDone⟩ := h.ready ssrc hwaits
        refine ⟨?_, hnotDone⟩
        simp only
        split_ifs
        · exact fun hmem' => hnotReady (Finset.mem_of_mem_erase hmem')
        · exact hnotReady

/-- The context of a request which is prepared. -/
theorem prepareKeyframeRequest_some {t : WhepSessionTransport} {sourceGeneration : ℕ}
    {sourceSsrc targetSsrc : UInt32} {forceDispatch coalesceIfWaiting : Bool}
    {context : KeyframeRequestContext}
    (h : (t.prepareKeyframeRequest sourceGeneration sourceSsrc targetSsrc forceDispatch
      coalesceIfWaiting).2 = some context) :
    ContextOf t context ∧ context.sourceSsrc = sourceSsrc ∧ sourceSsrc ≠ 0 ∧
      sourceSsrc ∈ (t.prepareKeyframeRequest sourceGeneration sourceSsrc targetSsrc forceDispatch
        coalesceIfWaiting).1.keyframeWaitingSourceSsrcs := by
  rcases prepareKeyframeRequest_cases t sourceGeneration sourceSsrc targetSsrc forceDispatch
    coalesceIfWaiting with heq | ⟨source, hprepares, heq⟩
  · rw [heq] at h
    cases h
  · rw [heq] at h ⊢
    simp only at h
    split_ifs at h
    cases h
    exact ⟨⟨hprepares.generation, source, hprepares.publisherSource, rfl⟩, rfl,
      hprepares.source_ne_zero, Finset.mem_insert_self _ _⟩

theorem prepareKeyframeRequest_waits (t : WhepSessionTransport) (sourceGeneration : ℕ)
    (sourceSsrc targetSsrc : UInt32) (forceDispatch coalesceIfWaiting : Bool) {ssrc : UInt32}
    (h : ssrc ∈ t.keyframeWaitingSourceSsrcs) :
    ssrc ∈ (t.prepareKeyframeRequest sourceGeneration sourceSsrc targetSsrc forceDispatch
      coalesceIfWaiting).1.keyframeWaitingSourceSsrcs := by
  rcases prepareKeyframeRequest_cases t sourceGeneration sourceSsrc targetSsrc forceDispatch
    coalesceIfWaiting with heq | ⟨source, -, heq⟩
  · rw [heq]
    exact h
  · rw [heq]
    exact Finset.mem_insert_of_mem h

/-! ## Calling the router -/

/-- What a call of the router for one subscriber leaves alone. -/
structure OthersStay (id : Text) (r r' : MediaFanoutRouter) : Prop where
  subscriptions : r'.subscriptionsBySessionId = r.subscriptionsBySessionId
  sources : r'.publisherSourcesByStreamId = r.publisherSourcesByStreamId
  generations : r'.publisherSourceGenerationsByStreamId = r.publisherSourceGenerationsByStreamId
  nextSourceGeneration : r'.nextSourceGeneration = r.nextSourceGeneration
  others : ∀ key id', id' ≠ id → (Lists r' key id' ↔ Lists r key id')
  retrying : Retrying r → Retrying r'

namespace OthersStay
variable {id : Text} {r r' r'' : MediaFanoutRouter}

theorem refl (id : Text) (r : MediaFanoutRouter) : OthersStay id r r :=
  ⟨rfl, rfl, rfl, rfl, fun _ _ _ => Iff.rfl, fun h => h⟩

theorem trans (h : OthersStay id r r') (h' : OthersStay id r' r'') : OthersStay id r r'' where
  subscriptions := h'.subscriptions.trans h.subscriptions
  sources := h'.sources.trans h.sources
  generations := h'.generations.trans h.generations
  nextSourceGeneration := h'.nextSourceGeneration.trans h.nextSourceGeneration
  others key id' hid := (h'.others key id' hid).trans (h.others key id' hid)
  retrying hretrying := h'.retrying (h.retrying hretrying)

theorem subscribedTo (h : OthersStay id r r') {t : WhepSessionTransport} (ht : SubscribedTo r t) :
    SubscribedTo r' t := by
  refine ⟨ht.sessionId, ht.streamId, ?_, ?_, ht.source⟩
  · rw [h.subscriptions]
    exact ht.subscription
  · rw [h.sources]
    exact ht.publisherSource

end OthersStay

/-- What a transport that calls the router leaves alone of the router, itself and the others. -/
structure KeepsOthers (w w' : Recovering) : Prop where
  session : SameSession w.transport.session w'.transport.session
  router : OthersStay w.transport.session.sessionId w.routing.router w'.routing.router

namespace KeepsOthers
variable {w w' w'' : Recovering}

theorem of_transport {t : MediaTransport} (h : SameSession w.transport.session t.session) :
    KeepsOthers w { w with transport := t } := ⟨h, .refl _ _⟩

theorem refl (w : Recovering) : KeepsOthers w w := of_transport (.refl _)

theorem trans (h : KeepsOthers w w') (h' : KeepsOthers w' w'') : KeepsOthers w w'' := by
  have hrouter := h'.router
  rw [h.session.sessionId] at hrouter
  exact ⟨h.session.trans h'.session, h.router.trans hrouter⟩

theorem subscribedTo (h : KeepsOthers w w')
    (ht : SubscribedTo w.routing.router w.transport.session) :
    SubscribedTo w'.routing.router w'.transport.session :=
  h.router.subscribedTo (h.session.subscribedTo ht)

end KeepsOthers

theorem cancelKeyframeRequests_frame (r : MediaFanoutRouter) (id : Text) :
    (r.cancelKeyframeRequests id).nextSourceGeneration = r.nextSourceGeneration := by
  unfold MediaFanoutRouter.cancelKeyframeRequests
  split_ifs
  · rfl
  · rfl

/-- The list without a subscriber. -/
theorem cancelKeyframeRequests_others (r : MediaFanoutRouter) {id id' : Text} (hid : id' ≠ id)
    (key : KeyframeRequestKey) : Lists (r.cancelKeyframeRequests id) key id' ↔ Lists r key id' := by
  by_cases hempty : id = []
  · rw [MediaFanoutRouter.cancelKeyframeRequests, if_pos hempty]
  · rw [(Delists.cancelKeyframeRequests r hempty).lists]
    exact and_iff_left hid

theorem cancelKeyframeRequests_retrying {r : MediaFanoutRouter} (h : Retrying r) (id : Text) :
    Retrying (r.cancelKeyframeRequests id) := by
  by_cases hempty : id = []
  · rw [MediaFanoutRouter.cancelKeyframeRequests, if_pos hempty]
    exact h
  · exact (Delists.cancelKeyframeRequests r hempty).retrying h

theorem OthersStay.cancelKeyframeRequests (r : MediaFanoutRouter) (id : Text) :
    OthersStay id r (r.cancelKeyframeRequests id) := by
  have hroutes : RoutesFollow 0 r (r.cancelKeyframeRequests id) := .cancelKeyframeRequests _ _
  exact ⟨hroutes.subscriptions, hroutes.sources, hroutes.generations,
    cancelKeyframeRequests_frame _ _, fun key id' hid => cancelKeyframeRequests_others _ hid key,
    fun h => cancelKeyframeRequests_retrying h _⟩

theorem cancelKeyframeRecovery_keeps (w : Recovering) : KeepsOthers w w.cancelKeyframeRecovery :=
  ⟨⟨rfl, rfl, rfl, rfl, rfl⟩, .cancelKeyframeRequests _ _⟩

/-- Nothing is waited for any more, and the router knows. -/
theorem cancelKeyframeRecovery_agrees {w : Recovering} (hid : w.transport.session.sessionId ≠ []) :
    Agrees [] [] w.cancelKeyframeRecovery.routing.router
      w.cancelKeyframeRecovery.transport.session where
  requested _ hmem := absurd hmem (Finset.notMem_empty _)
  listed key hlisted :=
    absurd rfl ((Delists.cancelKeyframeRequests w.routing.router hid).lists key _ |>.mp hlisted).2
  ready _ hmem := absurd hmem (Finset.notMem_empty _)

theorem requestKeyframe_perform (s : RouterState) {streamId id publisherSessionId : Text}
    {sourceGeneration : ℕ} {mediaSsrc : UInt32} {result : MediaFanoutRouter × Bool}
    (h : s.router.requestKeyframe streamId id publisherSessionId sourceGeneration mediaSsrc =
      some result) :
    (s.perform (.requestKeyframe streamId id publisherSessionId sourceGeneration
      mediaSsrc)).router = result.1 := by
  simp only [RouterState.perform, h]
  exact (RouterState.withWait_frame _ _ _).1

/-- A request does nothing, is no longer waited for, or is taken by the router. -/
theorem dispatchKeyframeRequest_cases (w : Recovering) (context : KeyframeRequestContext) :
    w.dispatchKeyframeRequest context = w ∨
    (w.routing.router.requestKeyframe w.transport.session.streamId w.transport.session.sessionId
        context.publisherSessionId context.sourceGeneration context.sourceSsrc = none ∧
      w.dispatchKeyframeRequest context = { w with
        transport := { w.transport with
          session := { w.transport.session with
            keyframeWaitingSourceSsrcs :=
              w.transport.session.keyframeWaitingSourceSsrcs.erase context.sourceSsrc } } }) ∨
    ∃ result, w.routing.router.requestKeyframe w.transport.session.streamId
        w.transport.session.sessionId context.publisherSessionId context.sourceGeneration
        context.sourceSsrc = some result ∧
      (w.dispatchKeyframeRequest context).transport = w.transport ∧
      (w.dispatchKeyframeRequest context).routing.router = result.1 := by
  unfold Recovering.dispatchKeyframeRequest
  simp only
  split_ifs
  · split
    · rename_i result hresult
      exact .inr (.inr ⟨result, hresult, rfl, requestKeyframe_perform _ hresult⟩)
    · rename_i hnone
      exact .inr (.inl ⟨hnone, rfl⟩)
  · exact .inl rfl

theorem dispatchKeyframeRequest_keeps (w : Recovering) (context : KeyframeRequestContext) :
    KeepsOthers w (w.dispatchKeyframeRequest context) := by
  rcases dispatchKeyframeRequest_cases w context with
    heq | ⟨-, heq⟩ | ⟨result, hresult, htransport, hrouter⟩
  · rw [heq]
    exact .refl w
  · rw [heq]
    exact .of_transport ⟨rfl, rfl, rfl, rfl, rfl⟩
  · obtain ⟨-, hframe⟩ := requestKeyframe_some hresult
    constructor
    · rw [htransport]
      exact .refl _
    · rw [hrouter]
      refine ⟨by rw [hframe], by rw [hframe], by rw [hframe], by rw [hframe], ?_,
        retrying_requestKeyframe hresult⟩
      intro key id hid
      rw [lists_requestKeyframe hresult]
      exact or_iff_left fun hnew => hid hnew.2

/-- What a transport which knows its source names to the router is not empty. -/
theorem ContextOf.named {r : MediaFanoutRouter} {t : WhepSessionTransport}
    {context : KeyframeRequestContext} (h : ContextOf t context) (ht : SubscribedTo r t)
    (hne : context.sourceSsrc ≠ 0) :
    ¬(t.streamId = [] ∨ t.sessionId = [] ∨ context.publisherSessionId = [] ∨
      context.sourceGeneration = 0 ∨ context.sourceSsrc = 0) := by
  obtain ⟨source, hsource, hid⟩ := h.publisherSource
  obtain ⟨hsession, -, hnonzero⟩ := ht.source source hsource
  rw [← hid, h.generation]
  rintro (hempty | hempty | hempty | hzero | hzero)
  · exact ht.streamId hempty
  · exact ht.sessionId hempty
  · exact hsession hempty
  · exact hnonzero hzero
  · exact hne hzero

/-- The router takes the request of a transport which knows its source. -/
theorem requestKeyframe_accepts {w : Recovering} {context : KeyframeRequestContext}
    (ht : SubscribedTo w.routing.router w.transport.session)
    (hcontext : ContextOf w.transport.session context) (hne : context.sourceSsrc ≠ 0) :
    ∃ result, w.routing.router.requestKeyframe w.transport.session.streamId
      w.transport.session.sessionId context.publisherSessionId context.sourceGeneration
      context.sourceSsrc = some result := by
  obtain ⟨source, hsource, hid⟩ := hcontext.publisherSource
  obtain ⟨-, hgeneration, -⟩ := ht.source source hsource
  have hcurrent : IsCurrent w.routing.router w.transport.session.streamId
      context.publisherSessionId context.sourceGeneration :=
    ⟨source, ht.publisherSource.symm.trans hsource, hid,
      hgeneration.trans hcontext.generation.symm⟩
  obtain ⟨current, hfind⟩ := Option.isSome_iff_exists.mp (findCurrentSource_isSome.mpr hcurrent)
  unfold MediaFanoutRouter.requestKeyframe
  rw [if_neg (hcontext.named ht hne), if_neg (not_not.mpr ht.subscription), hfind]
  exact ⟨_, rfl⟩

/-- What was to be asked for is asked for. -/
theorem dispatchKeyframeRequest_agrees {asked done : List UInt32} {w : Recovering}
    {context : KeyframeRequestContext} (ht : SubscribedTo w.routing.router w.transport.session)
    (hcontext : ContextOf w.transport.session context) (hne : context.sourceSsrc ≠ 0)
    (hwaits : context.sourceSsrc ∈ w.transport.session.keyframeWaitingSourceSsrcs)
    (h : Agrees (context.sourceSsrc :: asked) done w.routing.router w.transport.session) :
    Agrees asked done (w.dispatchKeyframeRequest context).routing.router
      (w.dispatchKeyframeRequest context).transport.session := by
  obtain ⟨result, hresult⟩ := requestKeyframe_accepts ht hcontext hne
  obtain ⟨source, hsource, hid⟩ := hcontext.publisherSource
  have hcurrent : w.isCurrent context = true := by
    simp [Recovering.isCurrent, hcontext.generation, hsource, hid]
  have hdispatched : w.dispatchKeyframeRequest context = { w with
      routing := w.routing.perform (.requestKeyframe w.transport.session.streamId
        w.transport.session.sessionId context.publisherSessionId context.sourceGeneration
        context.sourceSsrc) } := by
    simp only [Recovering.dispatchKeyframeRequest, hcurrent, hwaits, decide_true, Bool.and_self,
      if_true, hresult]
  have hkey : (⟨w.transport.session.streamId, context.publisherSessionId, context.sourceGeneration,
      context.sourceSsrc⟩ : KeyframeRequestKey) =
        waitKey w.transport.session source context.sourceSsrc := by
    rw [waitKey, hid, hcontext.generation]
  rw [hdispatched]
  simp only [requestKeyframe_perform w.routing hresult]
  constructor
  · intro sourceSsrc hmem hasked
    by_cases heq : sourceSsrc = context.sourceSsrc
    · refine ⟨source, hsource, (lists_requestKeyframe hresult _ _).mpr (.inr ⟨?_, rfl⟩)⟩
      rw [heq, hkey]
    · obtain ⟨source', hsource', hlisted⟩ := h.requested sourceSsrc hmem (by simp [heq, hasked])
      exact ⟨source', hsource', (lists_requestKeyframe hresult _ _).mpr (.inl hlisted)⟩
  · intro key hlisted
    rcases (lists_requestKeyframe hresult _ _).mp hlisted with hold | ⟨rfl, -⟩
    · exact h.listed key hold
    · exact ⟨.inl hwaits, hne, source, hsource, hkey⟩
  · exact h.ready

theorem completeKeyframeRequest_frame (r : MediaFanoutRouter)
    (streamId id publisherSessionId : Text) (sourceGeneration : ℕ) (mediaSsrc : UInt32) :
    (r.completeKeyframeRequest streamId id publisherSessionId sourceGeneration
        mediaSsrc).subscriptionsBySessionId = r.subscriptionsBySessionId ∧
      (r.completeKeyframeRequest streamId id publisherSessionId sourceGeneration
        mediaSsrc).publisherSourcesByStreamId = r.publisherSourcesByStreamId ∧
      (r.completeKeyframeRequest streamId id publisherSessionId sourceGeneration
        mediaSsrc).publisherSourceGenerationsByStreamId =
          r.publisherSourceGenerationsByStreamId ∧
      (r.completeKeyframeRequest streamId id publisherSessionId sourceGeneration
        mediaSsrc).nextSourceGeneration = r.nextSourceGeneration := by
  obtain ⟨requests, heq⟩ := completeKeyframeRequest_requests r streamId id publisherSessionId
    sourceGeneration mediaSsrc
  rw [heq]
  exact ⟨rfl, rfl, rfl, rfl⟩

theorem completeKeyframeRequest_others (r : MediaFanoutRouter)
    (streamId publisherSessionId : Text) {id id' : Text} (sourceGeneration : ℕ)
    (mediaSsrc : UInt32) (hid : id' ≠ id) (key : KeyframeRequestKey) :
    Lists (r.completeKeyframeRequest streamId id publisherSessionId sourceGeneration mediaSsrc)
      key id' ↔ Lists r key id' := by
  by_cases hnamed : streamId = [] ∨ id = [] ∨ publisherSessionId = [] ∨ sourceGeneration = 0 ∨
      mediaSsrc = 0
  · rw [MediaFanoutRouter.completeKeyframeRequest, if_pos hnamed]
  · rw [(Delists.completeKeyframeRequest r hnamed).lists]
    exact and_iff_left fun hgone => hid hgone.2

theorem completeKeyframeRequest_retrying {r : MediaFanoutRouter} (h : Retrying r)
    (streamId id publisherSessionId : Text) (sourceGeneration : ℕ) (mediaSsrc : UInt32) :
    Retrying (r.completeKeyframeRequest streamId id publisherSessionId sourceGeneration
      mediaSsrc) := by
  by_cases hnamed : streamId = [] ∨ id = [] ∨ publisherSessionId = [] ∨ sourceGeneration = 0 ∨
      mediaSsrc = 0
  · rw [MediaFanoutRouter.completeKeyframeRequest, if_pos hnamed]
    exact h
  · exact (Delists.completeKeyframeRequest r hnamed).retrying h

theorem completeKeyframeRequest_keeps (w : Recovering) (context : KeyframeRequestContext) :
    KeepsOthers w (w.completeKeyframeRequest context) := by
  unfold Recovering.completeKeyframeRequest
  simp only
  split_ifs
  · obtain ⟨hsubscriptions, hsources, hgenerations, hnext⟩ :=
      completeKeyframeRequest_frame w.routing.router w.transport.session.streamId
        w.transport.session.sessionId context.publisherSessionId context.sourceGeneration
        context.sourceSsrc
    exact ⟨.refl _, hsubscriptions, hsources, hgenerations, hnext,
      fun key id hid => completeKeyframeRequest_others _ _ _ _ _ hid key,
      fun h => completeKeyframeRequest_retrying h _ _ _ _ _⟩
  · exact .refl w

/-- The router is told of a keyframe which is complete. -/
theorem completeKeyframeRequest_agrees {asked : List UInt32} {w : Recovering}
    {context : KeyframeRequestContext} (ht : SubscribedTo w.routing.router w.transport.session)
    (hcontext : ContextOf w.transport.session context)
    (hready : context.sourceSsrc ∈ w.transport.session.keyframeReadySourceSsrcs)
    (h : Agrees asked [context.sourceSsrc] w.routing.router w.transport.session) :
    Agrees asked [] (w.completeKeyframeRequest context).routing.router
      (w.completeKeyframeRequest context).transport.session := by
  obtain ⟨source, hsource, hid⟩ := hcontext.publisherSource
  have hcurrent : w.isCurrent context = true := by
    simp [Recovering.isCurrent, hcontext.generation, hsource, hid]
  have hcompleted : w.completeKeyframeRequest context = { w with
      routing := w.routing.perform (.completeKeyframeRequest w.transport.session.streamId
        w.transport.session.sessionId context.publisherSessionId context.sourceGeneration
        context.sourceSsrc) } := by
    simp only [Recovering.completeKeyframeRequest, hcurrent, hready, decide_true, Bool.and_self,
      if_true]
  let key : KeyframeRequestKey := waitKey w.transport.session source context.sourceSsrc
  have hlists : ∀ key', Lists (w.completeKeyframeRequest context).routing.router key'
      w.transport.session.sessionId ↔
        Lists w.routing.router key' w.transport.session.sessionId ∧ key' ≠ key := by
    intro key'
    rw [hcompleted]
    change Lists (w.routing.router.completeKeyframeRequest _ _ _ _ _) key' _ ↔ _
    by_cases hzero : context.sourceSsrc = 0
    · rw [MediaFanoutRouter.completeKeyframeRequest, if_pos (by simp [hzero])]
      refine (and_iff_left_of_imp fun hlisted heq => ?_).symm
      apply (h.listed key' hlisted).2.1
      rw [heq]
      exact hzero
    · rw [(Delists.completeKeyframeRequest w.routing.router (hcontext.named ht hzero)).lists,
        and_iff_left rfl,
        ← hid, hcontext.generation]
      rfl
  have hkept : (w.completeKeyframeRequest context).transport = w.transport := by
    rw [hcompleted]
  rw [hkept]
  constructor
  · intro sourceSsrc hmem hasked
    obtain ⟨source', hsource', hlisted⟩ := h.requested sourceSsrc hmem hasked
    refine ⟨source', hsource', (hlists _).mpr ⟨hlisted, ?_⟩⟩
    intro heq
    have hssrc : sourceSsrc = context.sourceSsrc := congrArg KeyframeRequestKey.mediaSsrc heq
    exact (h.ready sourceSsrc hmem).2 (by simp [hssrc])
  · intro key' hlisted
    obtain ⟨hlisted, hne⟩ := (hlists key').mp hlisted
    obtain ⟨hwaits, hnonzero', source', hsource', hkey⟩ := h.listed key' hlisted
    refine ⟨.inl (hwaits.resolve_right ?_), hnonzero', source', hsource', hkey⟩
    intro hdone
    apply hne
    rw [hsource, Option.some.injEq] at hsource'
    rw [hkey, ← hsource', List.mem_singleton.mp hdone]
  · intro sourceSsrc hmem
    exact ⟨(h.ready sourceSsrc hmem).1, List.not_mem_nil⟩

end SimpleWebrtc.WhepMedia
