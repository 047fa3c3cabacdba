import SimpleWebrtc.KeyframeAgreement

/-!
# Runs of the router and its subscribers

Whatever happens to the router and the sessions of its streams, and in whatever
order, a session is listed for a keyframe exactly while it waits for it, and
always under the source its stream has.
-/
namespace SimpleWebrtc.MediaFanout
open Library Library.Text SdpSummary

/-! ## What the router does -/

theorem setPublisherSource_some {r : MediaFanoutRouter} {streamId publisherSessionId : Text}
    {offer : WebrtcOfferSummary} {result : MediaFanoutRouter × MediaPublisherSource}
    (h : r.setPublisherSource streamId publisherSessionId offer = some result) :
    publisherSessionId ≠ [] ∧
      result.2 = ⟨streamId, publisherSessionId, r.nextSourceGeneration, offer⟩ ∧
      result.1 = r.beginGeneration streamId
        (r.publisherSourcesByStreamId.insertOrAssign streamId result.2) := by
  unfold MediaFanoutRouter.setPublisherSource at h
  split_ifs at h with hnamed
  rw [← Option.some.inj h]
  exact ⟨fun hsession => hnamed (.inr hsession), rfl, rfl⟩

theorem clearPublisherSource_some {r : MediaFanoutRouter} {streamId publisherSessionId : Text}
    {result : MediaFanoutRouter × ℕ}
    (h : r.clearPublisherSource streamId publisherSessionId = some result) :
    result.2 = r.nextSourceGeneration ∧
      result.1 = r.beginGeneration streamId (r.publisherSourcesByStreamId.erase streamId) := by
  unfold MediaFanoutRouter.clearPublisherSource at h
  split_ifs at h
  split at h
  · cases h
  · split_ifs at h
    rw [← Option.some.inj h]
    exact ⟨rfl, rfl⟩

/-- A BYE the router takes is of the current source. -/
structure TakesBye (r : MediaFanoutRouter) (streamId publisherSessionId : Text)
    (sourceGeneration : ℕ) (sourceSsrc : UInt32)
    (result : MediaFanoutRouter × MediaPublisherSourceBye × List ℕ) : Prop where
  current : IsCurrent r streamId publisherSessionId sourceGeneration
  source_ne_zero : sourceSsrc ≠ 0
  requests : result.1.keyframeRequests =
    r.keyframeRequests.erase ⟨streamId, publisherSessionId, sourceGeneration, sourceSsrc⟩
  subscriptions : result.1.subscriptionsBySessionId = r.subscriptionsBySessionId
  sources : result.1.publisherSourcesByStreamId = r.publisherSourcesByStreamId
  generations :
    result.1.publisherSourceGenerationsByStreamId = r.publisherSourceGenerationsByStreamId
  next : result.1.nextSourceGeneration = r.nextSourceGeneration
  publisherSessionId : result.2.1.publisherSessionId = publisherSessionId
  sourceGeneration : result.2.1.sourceGeneration = sourceGeneration
  sourceSsrc : result.2.1.sourceSsrc = sourceSsrc
  transports : result.2.2 = r.streamTransports streamId

theorem publishSourceBye_some {r : MediaFanoutRouter} {streamId publisherSessionId : Text}
    {sourceGeneration : ℕ} {sourceSsrc : UInt32} {reason : Text}
    {result : MediaFanoutRouter × MediaPublisherSourceBye × List ℕ}
    (h : r.publishSourceBye streamId publisherSessionId sourceGeneration sourceSsrc reason =
      some result) :
    TakesBye r streamId publisherSessionId sourceGeneration sourceSsrc result := by
  unfold MediaFanoutRouter.publishSourceBye at h
  split_ifs at h with hnamed
  split at h
  · cases h
  · rename_i source hsource
    obtain ⟨hfind, hsession, hgeneration⟩ := findCurrentSource_some hsource
    rw [← Option.some.inj h]
    exact ⟨⟨source, hfind, hsession, hgeneration⟩,
      fun hzero => hnamed (.inr (.inr (.inr hzero))), rfl, rfl, rfl, rfl, rfl, hsession,
      hgeneration, rfl, rfl⟩

theorem publishSenderTiming_some {r : MediaFanoutRouter} {streamId publisherSessionId : Text}
    {sourceGeneration : ℕ} {sourceSsrc : UInt32} {ntpTimestamp : UInt64}
    {sourceRtpTimestamp senderPacketCount senderOctetCount : UInt32}
    {result : MediaFanoutRouter × MediaPublisherSenderTiming × List ℕ}
    (h : r.publishSenderTiming streamId publisherSessionId sourceGeneration sourceSsrc
      ntpTimestamp sourceRtpTimestamp senderPacketCount senderOctetCount = some result) :
    ∃ timings, result.1 = { r with publisherSenderTimingsByStreamId := timings } := by
  unfold MediaFanoutRouter.publishSenderTiming at h
  split_ifs at h
  split at h
  · cases h
  · rw [← Option.some.inj h]
    exact ⟨_, rfl⟩

/-- A retry of a current entry changes neither who waits nor for what. -/
theorem lists_handleKeyframeRetry {r : MediaFanoutRouter} {key : KeyframeRequestKey}
    (hcurrent : ∀ id, Lists r key id →
      IsCurrent r key.streamId key.publisherSessionId key.sourceGeneration) (timerToken : ℕ) :
    ∃ requests, (r.handleKeyframeRetry key timerToken).1 = { r with keyframeRequests := requests } ∧
      ∀ key' id, Lists (r.handleKeyframeRetry key timerToken).1 key' id ↔ Lists r key' id := by
  unfold MediaFanoutRouter.handleKeyframeRetry
  cases hfind : r.keyframeRequests.find? key with
  | none => exact ⟨_, rfl, fun _ _ => Iff.rfl⟩
  | some state =>
      simp only
      split_ifs with hstale
      · exact ⟨_, rfl, fun _ _ => Iff.rfl⟩
      · obtain ⟨id, hid⟩ := Finset.nonempty_iff_ne_empty.mpr fun h => hstale (.inr h)
        obtain ⟨source, hsource⟩ := Option.isSome_iff_exists.mp
          (findCurrentSource_isSome.mpr (hcurrent id ⟨state, hfind, hid⟩))
        rw [hsource]
        refine ⟨_, rfl, fun key' id' => ?_⟩
        simp only [Lists, AssocMap.find?_insertOrAssign]
        split_ifs with hkey
        · simp only [hkey, hfind, Option.some.injEq, exists_eq_left', scheduleKeyframeRetry_waiting]
        · exact Iff.rfl

/-- Whoever is retried for has a delay left. -/
def DelayLeft (r : MediaFanoutRouter) (key : KeyframeRequestKey) (timerToken : ℕ) : Prop :=
  ∀ state, r.keyframeRequests.find? key = some state → state.timerToken = timerToken →
    state.nextRetryDelayIndex < kKeyframeRetryDelays.length

theorem retrying_handleKeyframeRetry {r : MediaFanoutRouter} {key : KeyframeRequestKey}
    {timerToken : ℕ} (h : Retrying r) (hdelay : DelayLeft r key timerToken) :
    Retrying (r.handleKeyframeRetry key timerToken).1 := by
  obtain heq | ⟨state, hstate, htoken, ⟨-, heq⟩ | heq⟩ :=
    handleKeyframeRetry_cases r key timerToken
  · rw [heq]
    exact h
  · rw [heq]
    intro key' state' hstate'
    rw [AssocMap.find?_erase] at hstate'
    split_ifs at hstate'
    exact h key' state' hstate'
  · rw [heq]
    intro key' state' hstate'
    rw [AssocMap.find?_insertOrAssign] at hstate'
    split_ifs at hstate'
    · rw [← Option.some.inj hstate', MediaFanoutRouter.scheduleKeyframeRetry,
        if_neg (Nat.not_le.mpr (hdelay state hstate htoken))]
      exact h key state hstate
    · exact h key' state' hstate'

theorem retryCompleted_cases (s : RouterState) (index : ℕ) :
    (s.perform (.retryCompleted index)).router = s.router ∨
    ∃ retry, s.pending[index]? = some retry ∧ retry.status = .expired ∧
      (s.perform (.retryCompleted index)).router =
        (s.router.handleKeyframeRetry retry.key retry.timerToken).1 := by
  simp only [RouterState.perform]
  split
  · exact .inl rfl
  · rename_i retry hretry
    split
    · exact .inl rfl
    · exact .inl rfl
    · rename_i hstatus
      exact .inr ⟨retry, hretry, hstatus, (RouterState.withWait_frame _ _ _).1⟩

end SimpleWebrtc.MediaFanout

namespace SimpleWebrtc.WhepMedia
open Library Library.Text SdpSummary MediaFanout WhepSession WhipMedia RtcpCompoundPacket

/-- The open transports of a stream are those of its subscriptions. -/
theorem Covered.mem_streamTransports {active : Prop}
    {untold : List (ℕ × MediaPublisherSourceUpdate)} {w : MediaSystem}
    (h : Covered active untold w) {i : ℕ} {t : MediaTransport} (ht : w.lock i = some t)
    {streamId : Text} :
    i ∈ w.router.streamTransports streamId ↔ t.session.streamId = streamId := by
  rw [MediaFanoutRouter.mem_streamTransports]
  constructor
  · rintro ⟨id, hid⟩
    obtain ⟨t', ht', hsession⟩ := h.subscribed id _ hid
    rw [ht, Option.some.injEq] at ht'
    subst ht'
    have hsubscription := (h.opened i t ht).subscription
    rw [hsession, hid, Option.some.injEq] at hsubscription
    exact (congrArg Subscription.streamId hsubscription).symm
  · rintro rfl
    exact ⟨_, (h.opened i t ht).subscription⟩

theorem join_named (w : MediaSystem) (order : VisitOrder ℕ) {streamId sessionId : Text}
    (target : RewriterConfig.WhepRtpRewriterTarget) (hstreamId : streamId ≠ [])
    (hsessionId : sessionId ≠ []) :
    w.join order streamId sessionId target =
      let transport := w.transports.length
      let m := (toldTimings w streamId).foldl
        (fun w timing =>
          w.tell (MediaTransport.handlePublisherSenderTiming timing) transport)
        (MediaSystem.handlePublisherSource order (told w streamId)
          (subscribed w streamId sessionId target) transport)
      { m with
        transports := m.transports.modify transport fun t =>
          { t with session := t.session.adopt } } := by
  unfold MediaSystem.join
  simp only [MediaSystem.router]
  cases hresult : w.routing.router.subscribe streamId sessionId w.transports.length with
  | none =>
      unfold MediaFanoutRouter.subscribe at hresult
      rw [if_neg (not_or.mpr ⟨hstreamId, hsessionId⟩)] at hresult
      cases hresult
  | some result =>
      unfold MediaFanoutRouter.subscribe at hresult
      split_ifs at hresult
      rw [← Option.some.inj hresult]
      rfl

/-! ## A stream whose source or requests change -/

/-- What may change in the router for one stream: its source, and who is listed for it. -/
structure ChangesStream (streamId : Text) (r r' : MediaFanoutRouter) : Prop where
  subscriptions : r'.subscriptionsBySessionId = r.subscriptionsBySessionId
  sources : ∀ other, other ≠ streamId →
    r'.publisherSourcesByStreamId.find? other = r.publisherSourcesByStreamId.find? other
  generations : ∀ other, other ≠ streamId →
    r'.publisherSourceGenerationsByStreamId.find? other =
      r.publisherSourceGenerationsByStreamId.find? other
  lists : ∀ key id, Lists r' key id → Lists r key id
  kept : ∀ key id, key.streamId ≠ streamId → Lists r key id → Lists r' key id

namespace Covered
variable {active : Prop} {w : MediaSystem}

/-- All transports of the stream are to be told what it has now. -/
theorem changeStream (h : Covered active [] w) {routing : RouterState} {streamId : Text}
    (hrouter : ChangesStream streamId w.router routing.router)
    (hretrying : active → Retrying routing.router) (hsound : Sound routing.router)
    (hgeneration : (told w streamId).generation ≤ (told { w with routing } streamId).generation)
    {transports : List ℕ} (htransports : ∀ i, i ∈ transports ↔
      i ∈ w.router.streamTransports streamId) :
    Covered active (transports.map fun i => (i, told { w with routing } streamId))
      { w with routing } := by
  have htold : ∀ other, other ≠ streamId → told { w with routing } other = told w other := by
    intro other hother
    have hsources := hrouter.sources other hother
    have hgenerations := hrouter.generations other hother
    rw [told, told, show MediaSystem.router { w with routing } = routing.router from rfl,
      hsources, hgenerations]
  constructor
  · exact hretrying
  · exact hsound
  · intro id s hs
    rw [show MediaSystem.router _ = routing.router from rfl, hrouter.subscriptions] at hs
    exact h.subscribed id s hs
  · intro i t ht
    obtain ⟨hsession, hstream, hsubscription, hold⟩ := h.opened i t ht
    refine ⟨hsession, hstream, ?_, ?_⟩
    · rw [show MediaSystem.router _ = routing.router from rfl, hrouter.subscriptions]
      exact hsubscription
    · by_cases heq : t.session.streamId = streamId
      · rw [heq] at hold ⊢
        exact hold.trans hgeneration
      · rw [htold _ heq]
        exact hold
  · intro key id hlists
    rw [show MediaSystem.router _ = routing.router from rfl, hrouter.subscriptions]
    exact h.listed key id (hrouter.lists key id hlists)
  · intro i t update ht hmem
    obtain ⟨j, hj, heq⟩ := List.mem_map.mp hmem
    rw [Prod.mk.injEq] at heq
    obtain ⟨rfl, rfl⟩ := heq
    rw [(h.mem_streamTransports ht).mp ((htransports j).mp hj)]
  · intro i t ht hnotice
    have hother : t.session.streamId ≠ streamId := by
      intro heq
      have hmem := (htransports i).mpr ((h.mem_streamTransports ht).mpr heq)
      exact hnotice _ (List.mem_map.mpr ⟨i, hmem, rfl⟩)
    obtain ⟨hsubscribed, hagrees⟩ := h.settled i t ht fun _ => List.not_mem_nil
    refine ⟨⟨hsubscribed.sessionId, hsubscribed.streamId, ?_, ?_, hsubscribed.source⟩,
      ⟨?_, ?_, hagrees.ready⟩⟩
    · rw [show MediaSystem.router _ = routing.router from rfl, hrouter.subscriptions]
      exact hsubscribed.subscription
    · rw [show MediaSystem.router _ = routing.router from rfl, hrouter.sources _ hother]
      exact hsubscribed.publisherSource
    · intro sourceSsrc hmem hasked
      obtain ⟨source, hsource, hlists⟩ := hagrees.requested sourceSsrc hmem hasked
      exact ⟨source, hsource, hrouter.kept _ _ hother hlists⟩
    · intro key hlists
      exact hagrees.listed key (hrouter.lists key _ hlists)

theorem beginGeneration (h : Covered active [] w) (streamId : Text)
    (sources : AssocMap Text MediaPublisherSource) (transports : List ℕ)
    (hother : ∀ other, other ≠ streamId →
      sources.find? other = w.router.publisherSourcesByStreamId.find? other)
    (hsource : ∀ source, sources.find? streamId = some source →
      source.sessionId ≠ [] ∧ source.generation = w.router.nextSourceGeneration)
    {routing : RouterState} (hrouting : routing.router = w.router.beginGeneration streamId sources)
    (htransports : ∀ i, i ∈ transports ↔ i ∈ w.router.streamTransports streamId) :
    Covered active
      (transports.map fun i => (i, ⟨w.router.nextSourceGeneration, sources.find? streamId⟩))
      { w with routing } := by
  have hgenerations : ∀ other, routing.router.publisherSourceGenerationsByStreamId.find? other =
      if other = streamId then some w.router.nextSourceGeneration
      else w.router.publisherSourceGenerationsByStreamId.find? other := by
    intro other
    rw [hrouting]
    exact AssocMap.find?_insertOrAssign _ _ _ _
  have hsources : routing.router.publisherSourcesByStreamId = sources := by
    rw [hrouting]
    rfl
  have hnext : routing.router.nextSourceGeneration = w.router.nextSourceGeneration + 1 := by
    rw [hrouting]
    rfl
  have hdelists : Delists (fun key _ => key.streamId = streamId) w.router routing.router := by
    rw [hrouting]
    exact .beginGeneration _ _ _
  have htold : told { w with routing } streamId =
      ⟨w.router.nextSourceGeneration, sources.find? streamId⟩ := by
    rw [told, show MediaSystem.router { w with routing } = routing.router from rfl,
      hgenerations, if_pos rfl, hsources]
    rfl
  rw [← htold]
  refine h.changeStream ⟨?_, ?_, ?_, ?_, ?_⟩ ?_ ⟨?_, ?_, ?_⟩ ?_ htransports
  · rw [hrouting]
    rfl
  · intro other hne
    rw [hsources]
    exact hother other hne
  · intro other hne
    rw [hgenerations, if_neg hne]
  · exact fun key id hlists => ((hdelists.lists key id).mp hlists).1
  · exact fun key id hne hlists => (hdelists.lists key id).mpr ⟨hlists, hne⟩
  · exact fun hactive => hdelists.retrying (h.retrying hactive)
  · rw [hnext]
    exact Nat.succ_pos _
  · intro other generation hfind
    rw [hgenerations] at hfind
    rw [hnext]
    split_ifs at hfind
    · rw [← Option.some.inj hfind]
      exact Nat.lt_succ_self _
    · exact Nat.lt_succ_of_lt (h.sound.below other generation hfind)
  · intro other source hfind
    rw [hsources] at hfind
    rw [hgenerations]
    split_ifs with heq
    · rw [heq] at hfind
      obtain ⟨hsession, hgeneration⟩ := hsource source hfind
      rw [hgeneration]
      exact ⟨hsession, h.sound.started.ne', rfl⟩
    · rw [hother other heq] at hfind
      exact h.sound.sources other source hfind
  · rw [htold, told]
    cases hfind : w.router.publisherSourceGenerationsByStreamId.find? streamId with
    | none => exact Nat.zero_le _
    | some generation => exact (h.sound.below streamId generation hfind).le

theorem setPublisherSource (h : Covered active [] w) (notifying closing : VisitOrder ℕ)
    (streamId publisherSessionId : Text) (publisherOffer : WebrtcOfferSummary) :
    Covered active []
      (w.setPublisherSource notifying closing streamId publisherSessionId publisherOffer) := by
  unfold MediaSystem.setPublisherSource
  split
  · exact h
  · rename_i router source hresult
    obtain ⟨hsession, hsource, hrouter⟩ := setPublisherSource_some hresult
    have hperform : (w.routing.perform (.setPublisherSource streamId publisherSessionId
        publisherOffer)).router = router := by
      simp only [RouterState.perform, show w.routing.router = w.router from rfl, hresult]
      rfl
    simp only at hsource hrouter
    have hbegun := h.beginGeneration streamId
      (w.router.publisherSourcesByStreamId.insertOrAssign streamId source)
      (notifying.visit (w.router.streamTransports streamId)) ?_ ?_ (hperform.trans hrouter)
      fun i => notifying.mem_visit
    · rw [AssocMap.find?_insertOrAssign_self] at hbegun
      have hgeneration : source.generation = w.router.nextSourceGeneration := by
        rw [hsource]
      have hstream : (w.routing.perform (.setPublisherSource streamId publisherSessionId
          publisherOffer)).router.streamTransports streamId =
            w.router.streamTransports streamId := by
        rw [hperform, hrouter]
        rfl
      simp only [MediaSystem.notifyPublisherSource,
        show ∀ routing, MediaSystem.router { w with routing } = routing.router from fun _ => rfl,
        hstream, hgeneration]
      exact hbegun.notifyAll closing
    · intro other hne
      rw [AssocMap.find?_insertOrAssign, if_neg hne]
    · intro source' hfind
      rw [AssocMap.find?_insertOrAssign_self, Option.some.injEq] at hfind
      rw [← hfind, hsource]
      exact ⟨hsession, rfl⟩

theorem clearPublisherSource (h : Covered active [] w) (notifying closing : VisitOrder ℕ)
    (streamId publisherSessionId : Text) :
    Covered active []
      (w.clearPublisherSource notifying closing streamId publisherSessionId) := by
  unfold MediaSystem.clearPublisherSource
  split
  · exact h
  · rename_i router generation hresult
    obtain ⟨hgeneration, hrouter⟩ := clearPublisherSource_some hresult
    have hperform : (w.routing.perform (.clearPublisherSource streamId
        publisherSessionId)).router = router := by
      simp only [RouterState.perform, show w.routing.router = w.router from rfl, hresult]
      rfl
    simp only at hgeneration hrouter
    have hbegun := h.beginGeneration streamId (w.router.publisherSourcesByStreamId.erase streamId)
      (notifying.visit (w.router.streamTransports streamId)) ?_ ?_ (hperform.trans hrouter)
      fun i => notifying.mem_visit
    · rw [AssocMap.find?_erase_self] at hbegun
      have hstream : (w.routing.perform (.clearPublisherSource streamId
          publisherSessionId)).router.streamTransports streamId =
            w.router.streamTransports streamId := by
        rw [hperform, hrouter]
        rfl
      simp only [MediaSystem.notifyPublisherSource,
        show ∀ routing, MediaSystem.router { w with routing } = routing.router from fun _ => rfl,
        hstream, hgeneration]
      exact hbegun.notifyAll closing
    · intro other hne
      rw [AssocMap.find?_erase, if_neg hne]
    · intro source' hfind
      rw [AssocMap.find?_erase_self] at hfind
      cases hfind

end Covered

/-! ## The end of a source -/

/-- A transport whose source the router has ended, and which is still to be told. -/
structure ByeDue (bye : MediaPublisherSourceBye) (r : MediaFanoutRouter)
    (t : WhepSessionTransport) : Prop where
  subscribed : SubscribedTo r t
  agrees : Agrees [bye.sourceSsrc] [] r t
  source_ne_zero : bye.sourceSsrc ≠ 0
  generation : bye.sourceGeneration = t.publisherSourceGeneration
  publisherSource : ∃ source, t.publisherSource = some source ∧
    bye.publisherSessionId = source.sessionId ∧
      ¬Lists r (waitKey t source bye.sourceSsrc) t.sessionId

theorem SameSession.handlePublisherSourceBye (bye : MediaPublisherSourceBye)
    (t : WhepSessionTransport) : SameSession t (t.handlePublisherSourceBye bye) := by
  unfold WhepSessionTransport.handlePublisherSourceBye
  split
  · exact refl t
  · split_ifs
    · exact refl t
    · exact ⟨rfl, rfl, rfl, rfl, rfl⟩

/-- A BYE of the current source ends the wait for it, and what was known of its keyframe. -/
theorem ByeDue.waits {bye : MediaPublisherSourceBye} {r : MediaFanoutRouter}
    {t : WhepSessionTransport} (h : ByeDue bye r t) :
    (t.handlePublisherSourceBye bye).keyframeWaitingSourceSsrcs =
        t.keyframeWaitingSourceSsrcs.erase bye.sourceSsrc ∧
      (t.handlePublisherSourceBye bye).keyframeReadySourceSsrcs =
        t.keyframeReadySourceSsrcs.erase bye.sourceSsrc := by
  obtain ⟨source, hsource, hsession, -⟩ := h.publisherSource
  unfold WhepSessionTransport.handlePublisherSourceBye
  split
  · rename_i hnone
    rw [hnone] at hsource
    cases hsource
  · rename_i source' hsource'
    rw [hsource, Option.some.injEq] at hsource'
    subst hsource'
    rw [if_neg (by simp [hsession, h.generation, h.source_ne_zero])]
    exact ⟨rfl, rfl⟩

/-- Once told, it waits no more for the source. -/
theorem ByeDue.agrees_told {bye : MediaPublisherSourceBye} {r : MediaFanoutRouter}
    {t : WhepSessionTransport} (h : ByeDue bye r t) :
    Agrees [] [] r (t.handlePublisherSourceBye bye) := by
  have hsame := SameSession.handlePublisherSourceBye bye t
  obtain ⟨hwaiting, hready⟩ := h.waits
  obtain ⟨source, hsource, hsession, hunlisted⟩ := h.publisherSource
  refine ⟨?_, ?_, ?_⟩
  · intro sourceSsrc hmem _
    rw [hwaiting] at hmem
    obtain ⟨hne, hmem⟩ := Finset.mem_erase.mp hmem
    obtain ⟨source', hsource', hlists⟩ :=
      h.agrees.requested sourceSsrc hmem (by simpa using hne)
    refine ⟨source', hsame.publisherSource.trans hsource', ?_⟩
    rw [hsame.waitKey_eq, hsame.sessionId]
    exact hlists
  · intro key hlists
    rw [hsame.sessionId] at hlists
    obtain ⟨hwaits, hnonzero, source', hsource', hkey⟩ := h.agrees.listed key hlists
    rw [hwaiting]
    refine ⟨.inl (Finset.mem_erase.mpr ⟨?_, hwaits.resolve_right List.not_mem_nil⟩), hnonzero,
      source', hsame.publisherSource.trans hsource', ?_⟩
    · intro heq
      rw [hsource, Option.some.injEq] at hsource'
      rw [hkey, heq, ← hsource'] at hlists
      exact hunlisted hlists
    · rw [hsame.waitKey_eq]
      exact hkey
  · intro sourceSsrc hmem
    rw [hwaiting] at hmem
    rw [hready]
    obtain ⟨-, hmem⟩ := Finset.mem_erase.mp hmem
    obtain ⟨hnotReady, hnotDone⟩ := h.agrees.ready sourceSsrc hmem
    exact ⟨fun hmem' => hnotReady (Finset.mem_of_mem_erase hmem'), hnotDone⟩

namespace Covered
variable {active : Prop} {w : MediaSystem}

/-- Every transport of the stream is told; one which was told may be told again. -/
theorem tellByes {bye : MediaPublisherSourceBye} {update : MediaPublisherSourceUpdate}
    {transports : List ℕ} (h : Covered active (transports.map fun i => (i, update)) w)
    (hdue : ∀ i ∈ transports, ∀ t, w.lock i = some t → ByeDue bye w.router t.session) :
    Covered active [] (transports.foldl
      (fun w transport => w.tell (MediaTransport.handlePublisherSourceBye bye) transport) w) := by
  induction transports generalizing w with
  | nil => exact h
  | cons i transports ih =>
      rw [List.forall_mem_cons] at hdue
      obtain ⟨hfirst, hrest⟩ := hdue
      rw [List.foldl_cons]
      cases ht : w.lock i with
      | none =>
          have hnone : w.tell (MediaTransport.handlePublisherSourceBye bye) i = w := by
            simp only [MediaSystem.tell, ht]
          rw [hnone]
          exact ih (h.drop ht) hrest
      | some t =>
          have htold : w.tell (MediaTransport.handlePublisherSourceBye bye) i = { w with
              transports := w.transports.set i (t.handlePublisherSourceBye bye) } := by
            simp only [MediaSystem.tell, ht]
          have hsame : SameSession t.session (t.handlePublisherSourceBye bye).session :=
            .handlePublisherSourceBye bye t.session
          have hopen := hsame.closed.trans (lock_some.mp ht).2
          obtain ⟨hsubscribed, hagrees, hne, hgeneration, source, hsource, hsession, hunlisted⟩ :=
            hfirst t ht
          have hagrees' := (hfirst t ht).agrees_told
          rw [htold]
          apply ih
          · apply h.settle ht (.refl _ _) hopen hsame.streamId hsame.sessionId _
              (hsame.subscribedTo hsubscribed) hagrees'
            rw [hsame.generation]
            exact (h.opened i t ht).generation
          · intro j hj u hu
            by_cases hi : i = j
            · subst hi
              rw [MediaSystem.lock_set_self ht w.routing hopen, Option.some.injEq] at hu
              rw [← hu]
              refine ⟨hsame.subscribedTo hsubscribed, hagrees'.of_asked (List.nil_subset _), hne,
                hgeneration.trans hsame.generation.symm, source,
                hsame.publisherSource.trans hsource, hsession, ?_⟩
              rw [hsame.waitKey_eq, hsame.sessionId]
              exact hunlisted
            · exact hrest j hj u ((w.lock_set_other hi _ _).symm.trans hu)

theorem publishSourceBye (h : Covered active [] w) (order : VisitOrder ℕ)
    (streamId publisherSessionId : Text) (sourceGeneration : ℕ) (sourceSsrc : UInt32)
    (reason : Text) :
    Covered active [] (w.publishSourceBye order streamId publisherSessionId sourceGeneration
      sourceSsrc reason) := by
  unfold MediaSystem.publishSourceBye
  split
  · exact h
  · rename_i router bye transports hresult
    have htakes := publishSourceBye_some hresult
    have hperform : (w.routing.perform (.publishSourceBye streamId publisherSessionId
        sourceGeneration sourceSsrc reason)).router = router :=
      publishSourceBye_perform w.routing hresult
    generalize w.routing.perform (.publishSourceBye streamId publisherSessionId sourceGeneration
      sourceSsrc reason) = routing at hperform ⊢
    let key : KeyframeRequestKey := ⟨streamId, publisherSessionId, sourceGeneration, sourceSsrc⟩
    have hdelists : Delists (fun key' _ => key' = key) w.router routing.router :=
      .erase ⟨key, by rw [hperform, htakes.requests], fun _ _ => Iff.rfl⟩
    have hsubscriptions : routing.router.subscriptionsBySessionId =
        w.router.subscriptionsBySessionId := by
      rw [hperform, htakes.subscriptions]
    have hsources : routing.router.publisherSourcesByStreamId =
        w.router.publisherSourcesByStreamId := by
      rw [hperform, htakes.sources]
    have hgenerations : routing.router.publisherSourceGenerationsByStreamId =
        w.router.publisherSourceGenerationsByStreamId := by
      rw [hperform, htakes.generations]
    have htold : told { w with routing } streamId = told w streamId := by
      rw [told, told]
      rw [show MediaSystem.router { w with routing } = routing.router from rfl, hsources, hgenerations]
    have hchanged : ChangesStream streamId w.router routing.router := by
      refine ⟨hsubscriptions, fun _ _ => by rw [hsources], fun _ _ => by rw [hgenerations], ?_, ?_⟩
      · exact fun key' id hlists => ((hdelists.lists key' id).mp hlists).1
      · intro key' id hne hlists
        refine (hdelists.lists key' id).mpr ⟨hlists, ?_⟩
        rintro rfl
        exact hne rfl
    have hmem : ∀ i, i ∈ order.visit transports ↔ i ∈ w.router.streamTransports streamId := by
      intro i
      rw [order.mem_visit, show transports = _ from htakes.transports]
    apply (h.changeStream hchanged (fun hactive => hdelists.retrying (h.retrying hactive))
      (h.sound.congr hsources hgenerations (by rw [hperform, htakes.next]))
      (congrArg MediaPublisherSourceUpdate.generation htold).ge hmem).tellByes
    intro i hi t ht
    have hstream : t.session.streamId = streamId :=
      (h.mem_streamTransports ht).mp ((hmem i).mp hi)
    obtain ⟨hsubscribed, hagrees⟩ := h.settled i t ht fun _ => List.not_mem_nil
    obtain ⟨source, hsource, hsession, hgeneration⟩ := htakes.current
    have hpublisher : t.session.publisherSource = some source := by
      rw [hsubscribed.publisherSource, hstream, hsource]
    have hcurrent := (hsubscribed.source source hpublisher).2.1
    have hkey : ∀ ssrc, waitKey t.session source ssrc =
        ⟨streamId, publisherSessionId, sourceGeneration, ssrc⟩ := by
      intro ssrc
      rw [waitKey, hstream, hsession, ← hcurrent, hgeneration]
    have hssrc : bye.sourceSsrc = sourceSsrc := htakes.sourceSsrc
    refine ⟨⟨hsubscribed.sessionId, hsubscribed.streamId, ?_, ?_, hsubscribed.source⟩,
      ⟨?_, ?_, ?_⟩, ?_, ?_, source, hpublisher, ?_, ?_⟩
    · rw [show MediaSystem.router _ = routing.router from rfl, hsubscriptions]
      exact hsubscribed.subscription
    · rw [show MediaSystem.router _ = routing.router from rfl, hsources]
      exact hsubscribed.publisherSource
    · intro ssrc hwaits hnot
      obtain ⟨source', hsource', hlists⟩ := hagrees.requested ssrc hwaits List.not_mem_nil
      rw [hpublisher, Option.some.injEq] at hsource'
      subst hsource'
      refine ⟨source, hpublisher, (hdelists.lists _ _).mpr ⟨hlists, ?_⟩⟩
      rw [hkey]
      intro heq
      apply hnot
      rw [hssrc, List.mem_singleton]
      exact congrArg KeyframeRequestKey.mediaSsrc heq
    · intro key' hlists
      exact hagrees.listed key' ((hdelists.lists key' _).mp hlists).1
    · exact hagrees.ready
    · rw [hssrc]
      exact htakes.source_ne_zero
    · rw [show bye.sourceGeneration = sourceGeneration from htakes.sourceGeneration,
        ← hgeneration, hcurrent]
    · rw [show bye.publisherSessionId = publisherSessionId from htakes.publisherSessionId, hsession]
    · rw [hkey, hssrc]
      exact fun hlists => ((hdelists.lists _ _).mp hlists).2 rfl

/-! ## Packets and timings -/

theorem publishRtp (h : Covered active [] w) (delivery : Delivery)
    (streamId publisherSessionId : Text) (packet : List UInt8) :
    Covered active [] (w.publishRtp delivery streamId publisherSessionId packet) := by
  unfold MediaSystem.publishRtp
  split
  · exact h
  · rename_i sourceGeneration transports hresult
    clear hresult
    generalize delivery.order.visit transports = visited
    induction visited generalizing w with
    | nil => exact h
    | cons i visited ih =>
        rw [List.foldl_cons, MediaSystem.sendRtp_eq_recover]
        exact ih (h.recover (recovers_sendRtp _ _ _ _) fun _ => List.not_mem_nil)

theorem tellTimings {untold : List (ℕ × MediaPublisherSourceUpdate)}
    (h : Covered active untold w) {α : Type*} (timing : α → MediaPublisherSenderTiming)
    (transport : α → ℕ) (notices : List α) :
    Covered active untold (notices.foldl (fun w notice =>
      w.tell (MediaTransport.handlePublisherSenderTiming (timing notice)) (transport notice)) w) := by
  induction notices generalizing w with
  | nil => exact h
  | cons notice notices ih =>
      exact ih (h.tell (fun t => .handlePublisherSenderTiming (timing notice) t.session)
        (transport notice))

theorem publishSenderTiming (h : Covered active [] w) (order : VisitOrder ℕ)
    (streamId publisherSessionId : Text) (sourceGeneration : ℕ) (sourceSsrc : UInt32)
    (ntpTimestamp : UInt64) (sourceRtpTimestamp senderPacketCount senderOctetCount : UInt32) :
    Covered active [] (w.publishSenderTiming order streamId publisherSessionId sourceGeneration
      sourceSsrc ntpTimestamp sourceRtpTimestamp senderPacketCount senderOctetCount) := by
  unfold MediaSystem.publishSenderTiming
  split
  · exact h
  · rename_i router timing transports hresult
    obtain ⟨timings, hrouter⟩ := publishSenderTiming_some hresult
    have hperform := publishSenderTiming_perform w.routing hresult
    simp only at hrouter
    apply tellTimings _ (fun _ => timing) id
    apply h.reroute
    all_goals rw [hperform, hrouter]
    · exact fun _ _ => Iff.rfl
    · exact h.retrying

/-! ## Retries -/

/-- What is listed is of the current source. -/
theorem isCurrent_of_lists (h : Covered active [] w) {key : KeyframeRequestKey} {id : Text}
    (hlists : Lists w.router key id) :
    IsCurrent w.router key.streamId key.publisherSessionId key.sourceGeneration := by
  obtain ⟨s, hs⟩ := h.listed key id hlists
  obtain ⟨t, ht, rfl⟩ := h.subscribed id s hs
  obtain ⟨hsubscribed, hagrees⟩ := h.settled _ t ht fun _ => List.not_mem_nil
  obtain ⟨-, -, source, hsource, hkey⟩ := hagrees.listed key hlists
  rw [hkey]
  exact ⟨source, hsubscribed.publisherSource.symm.trans hsource, rfl,
    (hsubscribed.source source hsource).2.1⟩

theorem retryCompleted (h : Covered active [] w) {index : ℕ}
    (hdelay : active → ∀ retry, w.routing.pending[index]? = some retry →
      retry.status = .expired → DelayLeft w.router retry.key retry.timerToken) :
    Covered active [] { w with routing := w.routing.perform (.retryCompleted index) } := by
  rcases retryCompleted_cases w.routing index with heq | ⟨retry, hretry, hexpired, heq⟩
  · apply h.reroute
    all_goals rw [heq]
    all_goals first | rfl | exact fun _ _ => Iff.rfl | exact h.retrying
  · have hcurrent : ∀ id, Lists w.router retry.key id → IsCurrent w.router retry.key.streamId
        retry.key.publisherSessionId retry.key.sourceGeneration :=
      fun _ hlists => h.isCurrent_of_lists hlists
    obtain ⟨requests, hrequests, hlists⟩ := lists_handleKeyframeRetry hcurrent retry.timerToken
    have hretrying : active →
        Retrying (w.router.handleKeyframeRetry retry.key retry.timerToken).1 := fun hactive =>
      retrying_handleKeyframeRetry (h.retrying hactive) (hdelay hactive retry hretry hexpired)
    rw [show w.routing.router = w.router from rfl] at heq
    apply h.reroute
    · rw [heq, hrequests]
    · rw [heq, hrequests]
    · rw [heq, hrequests]
    · rw [heq, hrequests]
    · rw [heq]
      exact hlists
    · rw [heq]
      exact hretrying

/-! ## Joining -/

/-- The new transport is still to be told the source of its stream. -/
theorem subscribed_due (h : Covered active [] w) {streamId sessionId : Text}
    (target : RewriterConfig.WhepRtpRewriterTarget)
    (hpossible : streamId ≠ [] ∧ sessionId ≠ [] ∧ ∀ t ∈ w.transports,
      t.session.closed = false → t.session.sessionId ≠ sessionId) :
    Covered active [(w.transports.length, WhipMedia.told w streamId)]
      (WhipMedia.subscribed w streamId sessionId target) := by
  obtain ⟨hstreamId, hsessionId, hunused⟩ := hpossible
  let created := MediaTransport.create streamId sessionId target
  let w' := WhipMedia.subscribed w streamId sessionId target
  have hrouter : w'.router = { w.router with
      subscriptionsBySessionId := w.router.subscriptionsBySessionId.insertOrAssign sessionId
        ⟨streamId, w.transports.length⟩ } := by
    have hsubscribe : w.routing.router.subscribe streamId sessionId w.transports.length = some _ :=
      if_neg (not_or.mpr ⟨hstreamId, hsessionId⟩)
    exact subscribe_perform w.routing hsubscribe
  have hnew : w'.lock w.transports.length = some created :=
    lock_some.mpr ⟨List.getElem?_concat_length .., rfl⟩
  have hold : ∀ i ≠ w.transports.length, w'.lock i = w.lock i := by
    intro i hi
    simp only [MediaSystem.lock, w', WhipMedia.subscribed, append_other hi]
  have hbefore : ∀ i t, w.lock i = some t →
      i ≠ w.transports.length ∧ t.session.sessionId ≠ sessionId := by
    intro i t ht
    obtain ⟨hat, hopen⟩ := lock_some.mp ht
    exact ⟨(List.getElem?_eq_some_iff.mp hat).1.ne, hunused t (List.mem_of_getElem? hat) hopen⟩
  have hfind : ∀ id, w'.router.subscriptionsBySessionId.find? id =
      if id = sessionId then some ⟨streamId, w.transports.length⟩
      else w.router.subscriptionsBySessionId.find? id := by
    intro id
    rw [hrouter]
    exact AssocMap.find?_insertOrAssign _ _ _ _
  have htold : ∀ other, WhipMedia.told w' other = WhipMedia.told w other :=
    told_congr (by rw [hrouter]) (by rw [hrouter])
  have hlists : ∀ key id, Lists w'.router key id ↔ Lists w.router key id := by
    intro key id
    rw [hrouter]
    exact Iff.rfl
  constructor
  · rw [hrouter]
    exact h.retrying
  · exact h.sound.congr (by rw [hrouter]) (by rw [hrouter]) (by rw [hrouter])
  · intro id s hs
    rw [hfind] at hs
    split_ifs at hs with hid
    · rw [← Option.some.inj hs]
      exact ⟨created, hnew, hid.symm⟩
    · obtain ⟨t, ht, hsession⟩ := h.subscribed id s hs
      exact ⟨t, (hold _ (hbefore _ t ht).1).trans ht, hsession⟩
  · intro i t ht
    by_cases hi : i = w.transports.length
    · rw [hi, hnew, Option.some.injEq] at ht
      subst ht
      refine ⟨hsessionId, hstreamId, ?_, Nat.zero_le _⟩
      rw [hfind, if_pos (show created.session.sessionId = sessionId from rfl), hi]
      rfl
    · rw [hold i hi] at ht
      obtain ⟨hsession, hstream, hsubscription, hgeneration⟩ := h.opened i t ht
      refine ⟨hsession, hstream, ?_, ?_⟩
      · rw [hfind, if_neg (hbefore i t ht).2]
        exact hsubscription
      · rw [htold]
        exact hgeneration
  · intro key id hlisted
    rw [hfind]
    split_ifs
    · exact ⟨_, rfl⟩
    · exact h.listed key id ((hlists key id).mp hlisted)
  · intro i t update ht hmem
    rw [List.mem_singleton, Prod.mk.injEq] at hmem
    obtain ⟨rfl, rfl⟩ := hmem
    rw [hnew, Option.some.injEq] at ht
    rw [htold, ← ht]
    rfl
  · intro i t ht hnotice
    have hi : i ≠ w.transports.length := by
      rintro rfl
      exact hnotice _ (List.mem_singleton_self _)
    rw [hold i hi] at ht
    obtain ⟨hsubscribed, hagrees⟩ := h.settled i t ht fun _ => List.not_mem_nil
    refine ⟨⟨hsubscribed.sessionId, hsubscribed.streamId, ?_, ?_, hsubscribed.source⟩,
      hagrees.of_same (.refl _) rfl (Finset.Subset.refl _) fun key => hlists key _⟩
    · rw [hfind, if_neg (hbefore i t ht).2]
      exact hsubscribed.subscription
    · rw [hrouter]
      exact hsubscribed.publisherSource

theorem join (h : Covered active [] w) (order : VisitOrder ℕ) {streamId sessionId : Text}
    (target : RewriterConfig.WhepRtpRewriterTarget)
    (hpossible : streamId ≠ [] ∧ sessionId ≠ [] ∧ ∀ t ∈ w.transports,
      t.session.closed = false → t.session.sessionId ≠ sessionId) :
    Covered active [] (w.join order streamId sessionId target) := by
  have htold := (h.subscribed_due target hpossible).handlePublisherSource order
  have htimings := tellTimings htold id (fun _ => w.transports.length) (toldTimings w streamId)
  rw [join_named w order target hpossible.1 hpossible.2.1]
  exact htimings.touch_modify _ fun _ => ⟨⟨rfl, rfl, rfl, rfl, rfl⟩, rfl, rfl⟩

end Covered

/-! ## Runs -/

/-- A retry is completed while its entry has a delay left. -/
def HasDelayLeft (w : MediaSystem) : MediaEvent → Prop
  | .retryCompleted index => ∀ retry, w.routing.pending[index]? = some retry →
      retry.status = .expired → DelayLeft w.router retry.key retry.timerToken
  | _ => True

/-- The router lists exactly the open sessions that wait, each for the source its stream has. -/
structure WaitsListed (w : MediaSystem) : Prop where
  waits : ∀ i t sourceSsrc, w.lock i = some t →
    sourceSsrc ∈ t.session.keyframeWaitingSourceSsrcs → ∃ source state,
      w.router.publisherSourcesByStreamId.find? t.session.streamId = some source ∧
      w.router.keyframeRequests.find?
        ⟨t.session.streamId, source.sessionId, source.generation, sourceSsrc⟩ = some state ∧
      t.session.sessionId ∈ state.waitingSubscriberSessionIds
  listed : ∀ key state id, w.router.keyframeRequests.find? key = some state →
    id ∈ state.waitingSubscriberSessionIds → ∃ i t, w.lock i = some t ∧
      t.session.sessionId = id ∧ t.session.streamId = key.streamId ∧
      key.mediaSsrc ∈ t.session.keyframeWaitingSourceSsrcs

theorem Covered.waitsListed {active : Prop} {w : MediaSystem} (h : Covered active [] w) :
    WaitsListed w where
  waits := by
    intro i t sourceSsrc ht hmem
    obtain ⟨hsubscribed, hagrees⟩ := h.settled i t ht fun _ => List.not_mem_nil
    obtain ⟨source, hsource, state, hstate, hid⟩ :=
      hagrees.requested sourceSsrc hmem List.not_mem_nil
    refine ⟨source, state, hsubscribed.publisherSource.symm.trans hsource, ?_, hid⟩
    rw [(hsubscribed.source source hsource).2.1]
    exact hstate
  listed := by
    intro key state id hstate hid
    obtain ⟨s, hs⟩ := h.listed key id ⟨state, hstate, hid⟩
    obtain ⟨t, ht, rfl⟩ := h.subscribed id s hs
    obtain ⟨-, hagrees⟩ := h.settled _ t ht fun _ => List.not_mem_nil
    obtain ⟨hwaits, -, source, -, hkey⟩ := hagrees.listed key ⟨state, hstate, hid⟩
    refine ⟨_, t, ht, rfl, ?_, hwaits.resolve_right List.not_mem_nil⟩
    rw [hkey]
    rfl

theorem Covered.start (active : Prop) : Covered active [] {} where
  retrying _ key state hstate := by cases hstate
  sound := by
    refine ⟨Nat.one_pos, ?_, ?_⟩
    · intro streamId generation hfind
      cases hfind
    · intro streamId source hfind
      cases hfind
  subscribed id s hs := by cases hs
  opened i t ht := by cases ht
  listed key id hlists := by
    obtain ⟨state, hstate, -⟩ := hlists
    cases hstate
  due i t update ht := by cases ht
  settled i t ht := by cases ht

theorem Covered.perform {active : Prop} {w : MediaSystem} (h : Covered active [] w)
    {event : MediaEvent} (hpossible : w.Possible event)
    (hdelay : active → HasDelayLeft w event) : Covered active [] (w.perform event) := by
  have hnone : ∀ {i : ℕ} (update : MediaPublisherSourceUpdate), (i, update) ∉ [] :=
    fun _ => List.not_mem_nil
  cases event with
  | join order streamId sessionId target => exact h.join order target hpossible
  | leave transport => exact h.closeTransport transport
  | setPublisherSource notifying closing streamId publisherSessionId publisherOffer =>
      exact h.setPublisherSource _ _ _ _ _
  | clearPublisherSource notifying closing streamId publisherSessionId =>
      exact h.clearPublisherSource _ _ _ _
  | publishRtp delivery streamId publisherSessionId packet => exact h.publishRtp _ _ _ _
  | publishSourceBye order streamId publisherSessionId sourceGeneration sourceSsrc reason =>
      exact h.publishSourceBye _ _ _ _ _ _
  | publishSenderTiming order streamId publisherSessionId sourceGeneration sourceSsrc ntpTimestamp
      sourceRtpTimestamp senderPacketCount senderOctetCount =>
      exact h.publishSenderTiming _ _ _ _ _ _ _ _ _
  | keyframeFeedback transport plainRtcp =>
      change Covered active [] (w.handleKeyframeFeedback transport plainRtcp)
      unfold MediaSystem.handleKeyframeFeedback
      split
      · exact h
      · exact h.recover (recovers_handleKeyframeFeedback _) hnone
  | nominate transport endpoint rebound => exact h.recover (recovers_nominate _ _) hnone
  | timerExpired index =>
      exact h.reroute rfl rfl rfl rfl (fun _ _ => Iff.rfl) h.retrying
  | retryCompleted index => exact h.retryCompleted hdelay

theorem run_covered {active : Prop} {condition : MediaSystem → MediaEvent → Prop}
    (hcondition : ∀ w event, condition w event → active → HasDelayLeft w event)
    {events : List MediaEvent} {w : MediaSystem}
    (h : (MediaSystem.system.restrict condition).Run events w) : Covered active [] w := by
  refine h.invariant ?_ ?_
  · rintro w rfl
    exact .start active
  · intro w event w' hw hstep
    obtain ⟨hmet, hstep⟩ := hstep
    simp only [MediaSystem.system, EventSystem.ofStep, MediaSystem.step] at hstep
    split_ifs at hstep with hpossible
    rw [← Option.some.inj hstep]
    exact hw.perform hpossible (hcondition w event hmet)

end SimpleWebrtc.WhepMedia
