import SimpleWebrtc.RouterRuns

/-!
# Nothing refers to a superseded publisher

Whatever the router keeps for a stream is of the source the stream has: a new
source, or none, drops the requests and the timings of the one before, and what
arrives later is let in only under the current session and generation. A waiting
subscriber stays subscribed, since its requests are cancelled before it is
removed and a session is subscribed to one stream only.
-/
namespace SimpleWebrtc.MediaFanout
open Library Library.Text SdpSummary

/-! ## What is kept of a source -/

/-- The source of a stream is the one of a session and a generation. -/
def IsCurrent (r : MediaFanoutRouter) (streamId publisherSessionId : Text)
    (sourceGeneration : ℕ) : Prop :=
  ∃ source, r.publisherSourcesByStreamId.find? streamId = some source ∧
    source.sessionId = publisherSessionId ∧ source.generation = sourceGeneration

theorem findCurrentSource_isSome {r : MediaFanoutRouter} {streamId publisherSessionId : Text}
    {sourceGeneration : ℕ} :
    (r.findCurrentSource streamId publisherSessionId sourceGeneration).isSome = true ↔
      IsCurrent r streamId publisherSessionId sourceGeneration := by
  rw [Option.isSome_iff_exists]
  simp only [MediaFanoutRouter.findCurrentSource, Option.filter_eq_some_iff, Bool.and_eq_true,
    decide_eq_true_eq, IsCurrent]

theorem findCurrentSource_some {r : MediaFanoutRouter} {streamId publisherSessionId : Text}
    {sourceGeneration : ℕ} {source : MediaPublisherSource}
    (h : r.findCurrentSource streamId publisherSessionId sourceGeneration = some source) :
    r.publisherSourcesByStreamId.find? streamId = some source ∧
      source.sessionId = publisherSessionId ∧ source.generation = sourceGeneration := by
  simpa only [MediaFanoutRouter.findCurrentSource, Option.filter_eq_some_iff, Bool.and_eq_true,
    decide_eq_true_eq] using h

def StoresTiming (r : MediaFanoutRouter) (streamId : Text) (sourceSsrc : UInt32)
    (timing : MediaPublisherSenderTiming) : Prop :=
  ∃ timings, r.publisherSenderTimingsByStreamId.find? streamId = some timings ∧
    timings.find? sourceSsrc = some timing

/-- An entry is of the current source and has waiting subscribers, all of its stream. -/
structure RequestCurrent (r : MediaFanoutRouter) (key : KeyframeRequestKey)
    (state : KeyframeRequestState) : Prop where
  current : IsCurrent r key.streamId key.publisherSessionId key.sourceGeneration
  waiting : state.waitingSubscriberSessionIds ≠ ∅
  subscribed : ∀ id ∈ state.waitingSubscriberSessionIds,
    (r.subscriptionsBySessionId.find? id).map Subscription.streamId = some key.streamId

/-- An entry which shrinks stays current. -/
theorem RequestCurrent.of_shrunk {r r' : MediaFanoutRouter} {key : KeyframeRequestKey}
    {state state' : KeyframeRequestState} (h : RequestCurrent r key state)
    (hshrunk : Shrunk state state')
    (hsubscriptions : r'.subscriptionsBySessionId = r.subscriptionsBySessionId)
    (hsources : r'.publisherSourcesByStreamId = r.publisherSourcesByStreamId) :
    RequestCurrent r' key state' := by
  refine ⟨?_, hshrunk.nonempty h.waiting, ?_⟩
  · rw [IsCurrent, hsources]
    exact h.current
  · intro id hid
    rw [hsubscriptions]
    exact h.subscribed id (hshrunk.waiting hid)

/-- Every session is subscribed to its home stream. -/
structure RouterCurrent (home : Text → Text) (r : MediaFanoutRouter) : Prop where
  requests : ∀ key state, r.keyframeRequests.find? key = some state → RequestCurrent r key state
  timings : ∀ streamId sourceSsrc timing, StoresTiming r streamId sourceSsrc timing →
    IsCurrent r streamId timing.publisherSessionId timing.sourceGeneration
  homes : ∀ id subscription, r.subscriptionsBySessionId.find? id = some subscription →
    subscription.streamId = home id

theorem joinKeyframeRequest_waiting (id : Text) (state : KeyframeRequestState) :
    (MediaFanoutRouter.joinKeyframeRequest id state).waitingSubscriberSessionIds =
      insert id state.waitingSubscriberSessionIds := by
  unfold MediaFanoutRouter.joinKeyframeRequest
  simp only
  split_ifs
  · rfl
  · rw [scheduleKeyframeRetry_waiting]

theorem completeKeyframeRequest_requests (r : MediaFanoutRouter)
    (streamId id publisherSessionId : Text) (sourceGeneration : ℕ) (mediaSsrc : UInt32) :
    ∃ requests, r.completeKeyframeRequest streamId id publisherSessionId sourceGeneration
      mediaSsrc = { r with keyframeRequests := requests } := by
  unfold MediaFanoutRouter.completeKeyframeRequest
  split_ifs
  · exact ⟨_, rfl⟩
  · simp only
    cases r.keyframeRequests.find?
        ⟨streamId, publisherSessionId, sourceGeneration, mediaSsrc⟩ with
    | none => exact ⟨_, rfl⟩
    | some state => exact ⟨_, rfl⟩

/-- To forget a timing adds none. -/
theorem storesTiming_of_forget {r : MediaFanoutRouter} {streamId other : Text}
    {sourceSsrc ssrc : UInt32} {timing : MediaPublisherSenderTiming}
    (h : ∃ timings, (r.forgetSenderTiming streamId sourceSsrc).find? other = some timings ∧
      timings.find? ssrc = some timing) : StoresTiming r other ssrc timing := by
  obtain ⟨timings, hfind, htiming⟩ := h
  unfold MediaFanoutRouter.forgetSenderTiming at hfind
  cases hold : r.publisherSenderTimingsByStreamId.find? streamId with
  | none =>
      rw [hold] at hfind
      exact ⟨timings, hfind, htiming⟩
  | some timings' =>
      simp only [hold] at hfind
      split_ifs at hfind
      · rw [AssocMap.find?_erase] at hfind
        split_ifs at hfind
        exact ⟨timings, hfind, htiming⟩
      · rw [AssocMap.find?_insertOrAssign] at hfind
        split_ifs at hfind with hstream
        · cases hfind
          rw [AssocMap.find?_erase] at htiming
          split_ifs at htiming
          rw [hstream]
          exact ⟨timings', hold, htiming⟩
        · exact ⟨timings, hfind, htiming⟩

namespace RouterCurrent
variable {home : Text → Text} {r : MediaFanoutRouter}

/-- Requests shrink and nothing else changes but the timings, which may get fewer. -/
theorem of_shrinks {r' : MediaFanoutRouter} (h : RouterCurrent home r) (hshrinks : Shrinks r r')
    (hsubscriptions : r'.subscriptionsBySessionId = r.subscriptionsBySessionId)
    (hsources : r'.publisherSourcesByStreamId = r.publisherSourcesByStreamId)
    (htimings : ∀ streamId sourceSsrc timing, StoresTiming r' streamId sourceSsrc timing →
      StoresTiming r streamId sourceSsrc timing) : RouterCurrent home r' where
  requests := by
    intro key state' hstate'
    obtain ⟨state, hstate, hshrunk⟩ := hshrinks key state' hstate'
    exact (h.requests key state hstate).of_shrunk hshrunk hsubscriptions hsources
  timings := by
    intro streamId sourceSsrc timing htiming
    rw [IsCurrent, hsources]
    exact h.timings streamId sourceSsrc timing (htimings _ _ _ htiming)
  homes := by
    rw [hsubscriptions]
    exact h.homes

theorem subscribe (h : RouterCurrent home r) {streamId id : Text} {transport : ℕ}
    {result : MediaFanoutRouter × _ × _} (hhome : streamId = home id)
    (hresult : r.subscribe streamId id transport = some result) : RouterCurrent home result.1 := by
  unfold MediaFanoutRouter.subscribe at hresult
  split_ifs at hresult
  cases hresult
  refine ⟨?_, h.timings, ?_⟩
  · intro key state hstate
    have hcurrent := h.requests key state hstate
    refine ⟨hcurrent.current, hcurrent.waiting, ?_⟩
    intro id' hid'
    have hsubscribed := hcurrent.subscribed id' hid'
    simp only [AssocMap.find?_insertOrAssign]
    split_ifs with heq
    · obtain ⟨subscription, hfind, hstream⟩ := Option.map_eq_some_iff.mp hsubscribed
      rw [Option.map_some, hhome, ← heq, ← h.homes id' subscription hfind, hstream]
    · exact hsubscribed
  · intro id' subscription hfind
    simp only [AssocMap.find?_insertOrAssign] at hfind
    split_ifs at hfind with heq
    · cases hfind
      rw [heq]
      exact hhome
    · exact h.homes id' subscription hfind

theorem cancelKeyframeRequestsForSubscriber (h : RouterCurrent home r) (id : Text) :
    RouterCurrent home (r.cancelKeyframeRequestsForSubscriber id) :=
  h.of_shrinks (Shrinks.cancelKeyframeRequestsForSubscriber r id) rfl rfl fun _ _ _ ht => ht

theorem cancelKeyframeRequests (h : RouterCurrent home r) (id : Text) :
    RouterCurrent home (r.cancelKeyframeRequests id) := by
  unfold MediaFanoutRouter.cancelKeyframeRequests
  split_ifs
  · exact h
  · exact h.cancelKeyframeRequestsForSubscriber id

/-- A subscriber whose requests are cancelled waits for nothing. -/
theorem unsubscribe (h : RouterCurrent home r) (id : Text) :
    RouterCurrent home (r.unsubscribe id) := by
  unfold MediaFanoutRouter.unsubscribe
  split_ifs
  · exact h
  · cases r.subscriptionsBySessionId.find? id with
    | none => exact h
    | some _ =>
        have hcancelled := h.cancelKeyframeRequestsForSubscriber id
        refine ⟨?_, hcancelled.timings, ?_⟩
        · intro key state hstate
          have hcurrent := hcancelled.requests key state hstate
          refine ⟨hcurrent.current, hcurrent.waiting, ?_⟩
          intro id' hid'
          have hne : id' ≠ id := by
            intro heq
            simp only [MediaFanoutRouter.cancelKeyframeRequestsForSubscriber,
              AssocMap.find?_filter, AssocMap.find?_mapValues, Option.filter_eq_some_iff,
              Option.map_eq_some_iff] at hstate
            obtain ⟨⟨state', -, rfl⟩, -⟩ := hstate
            exact Finset.ne_of_mem_erase hid' heq
          simp only [AssocMap.find?_erase, if_neg hne]
          exact hcurrent.subscribed id' hid'
        · intro id' subscription hfind
          simp only [AssocMap.find?_erase] at hfind
          split_ifs at hfind
          exact h.homes id' subscription hfind

/-- A stream whose source changes keeps nothing of the one before. -/
theorem beginGeneration (h : RouterCurrent home r) {streamId : Text}
    {sources : AssocMap Text MediaPublisherSource}
    (hsources : ∀ other, other ≠ streamId →
      sources.find? other = r.publisherSourcesByStreamId.find? other) :
    RouterCurrent home (r.beginGeneration streamId sources) := by
  refine ⟨?_, ?_, h.homes⟩
  · intro key state hstate
    simp only [MediaFanoutRouter.beginGeneration, MediaFanoutRouter.cancelStreamKeyframeRequests,
      AssocMap.find?_filter, Option.filter_eq_some_iff, decide_eq_true_eq] at hstate
    have hcurrent := h.requests key state hstate.1
    refine ⟨?_, hcurrent.waiting, hcurrent.subscribed⟩
    rw [IsCurrent, MediaFanoutRouter.beginGeneration, hsources _ hstate.2]
    exact hcurrent.current
  · intro other sourceSsrc timing htiming
    obtain ⟨timings, hfind, htiming⟩ := htiming
    simp only [MediaFanoutRouter.beginGeneration, AssocMap.find?_erase] at hfind
    split_ifs at hfind with hne
    rw [IsCurrent, MediaFanoutRouter.beginGeneration, hsources _ hne]
    exact h.timings other sourceSsrc timing ⟨timings, hfind, htiming⟩

theorem setPublisherSource (h : RouterCurrent home r) {streamId publisherSessionId : Text}
    {offer : WebrtcOfferSummary} {result : MediaFanoutRouter × _}
    (hresult : r.setPublisherSource streamId publisherSessionId offer = some result) :
    RouterCurrent home result.1 := by
  unfold MediaFanoutRouter.setPublisherSource at hresult
  split_ifs at hresult
  cases hresult
  apply h.beginGeneration
  intro other hne
  rw [AssocMap.find?_insertOrAssign, if_neg hne]

theorem clearPublisherSource (h : RouterCurrent home r) {streamId publisherSessionId : Text}
    {result : MediaFanoutRouter × ℕ}
    (hresult : r.clearPublisherSource streamId publisherSessionId = some result) :
    RouterCurrent home result.1 := by
  unfold MediaFanoutRouter.clearPublisherSource at hresult
  split_ifs at hresult
  cases hsource : r.publisherSourcesByStreamId.find? streamId with
  | none =>
      rw [hsource] at hresult
      cases hresult
  | some source =>
      simp only [hsource] at hresult
      split_ifs at hresult
      cases hresult
      apply h.beginGeneration
      intro other hne
      rw [AssocMap.find?_erase, if_neg hne]

theorem requestKeyframe (h : RouterCurrent home r) {streamId id publisherSessionId : Text}
    {sourceGeneration : ℕ} {mediaSsrc : UInt32} {result : MediaFanoutRouter × Bool}
    (hresult : r.requestKeyframe streamId id publisherSessionId sourceGeneration mediaSsrc =
      some result) : RouterCurrent home result.1 := by
  obtain ⟨haccepts, hrouter⟩ := requestKeyframe_some hresult
  rw [hrouter]
  refine ⟨?_, h.timings, h.homes⟩
  intro key state hstate
  simp only [AssocMap.find?_insertOrAssign] at hstate
  split_ifs at hstate with hkey
  · cases hstate
    rw [hkey]
    refine ⟨findCurrentSource_isSome.mp haccepts.current, ?_, ?_⟩
    · rw [joinKeyframeRequest_waiting]
      exact Finset.insert_ne_empty _ _
    · intro id' hid'
      rw [joinKeyframeRequest_waiting, Finset.mem_insert] at hid'
      cases hid' with
      | inl heq =>
          rw [heq]
          exact haccepts.subscribed
      | inr hold =>
          cases hfind : r.keyframeRequests.find?
              ⟨streamId, publisherSessionId, sourceGeneration, mediaSsrc⟩ with
          | none =>
              rw [hfind] at hold
              cases hold
          | some state =>
              rw [hfind] at hold
              exact (h.requests _ state hfind).subscribed id' hold
  · exact (h.requests key state hstate).of_shrunk (.refl state) rfl rfl

theorem handleKeyframeRetry (h : RouterCurrent home r) (key : KeyframeRequestKey)
    (timerToken : ℕ) : RouterCurrent home (r.handleKeyframeRetry key timerToken).1 := by
  obtain hnothing | ⟨state, hstate, -, ⟨-, herase⟩ | hagain⟩ :=
    handleKeyframeRetry_cases r key timerToken
  · rw [hnothing]
    exact h
  · rw [herase]
    refine ⟨?_, h.timings, h.homes⟩
    intro key' state' hstate'
    simp only [AssocMap.find?_erase] at hstate'
    split_ifs at hstate'
    exact (h.requests key' state' hstate').of_shrunk (.refl state') rfl rfl
  · rw [hagain]
    refine ⟨?_, h.timings, h.homes⟩
    intro key' state' hstate'
    simp only [AssocMap.find?_insertOrAssign] at hstate'
    split_ifs at hstate' with hkey
    · cases hstate'
      rw [hkey]
      have hcurrent := h.requests key state hstate
      refine ⟨hcurrent.current, ?_, ?_⟩
      · rw [scheduleKeyframeRetry_waiting]
        exact hcurrent.waiting
      · rw [scheduleKeyframeRetry_waiting]
        exact hcurrent.subscribed
    · exact (h.requests key' state' hstate').of_shrunk (.refl state') rfl rfl

theorem completeKeyframeRequest (h : RouterCurrent home r) (streamId id publisherSessionId : Text)
    (sourceGeneration : ℕ) (mediaSsrc : UInt32) :
    RouterCurrent home (r.completeKeyframeRequest streamId id publisherSessionId sourceGeneration
      mediaSsrc) := by
  obtain ⟨requests, hrequests⟩ := completeKeyframeRequest_requests r streamId id publisherSessionId
    sourceGeneration mediaSsrc
  have hshrinks := Shrinks.completeKeyframeRequest r streamId id publisherSessionId
    sourceGeneration mediaSsrc
  rw [hrequests] at hshrinks ⊢
  exact h.of_shrinks hshrinks rfl rfl fun _ _ _ ht => ht

theorem publishSourceBye (h : RouterCurrent home r) {streamId publisherSessionId : Text}
    {sourceGeneration : ℕ} {sourceSsrc : UInt32} {reason : Text}
    {result : MediaFanoutRouter × _ × _}
    (hresult : r.publishSourceBye streamId publisherSessionId sourceGeneration sourceSsrc reason =
      some result) : RouterCurrent home result.1 := by
  have hshrinks := Shrinks.publishSourceBye hresult
  unfold MediaFanoutRouter.publishSourceBye at hresult
  split_ifs at hresult
  cases hsource : r.findCurrentSource streamId publisherSessionId sourceGeneration with
  | none =>
      rw [hsource] at hresult
      cases hresult
  | some source =>
      rw [hsource] at hresult
      cases hresult
      apply h.of_shrinks hshrinks rfl rfl
      intro other ssrc timing htiming
      exact storesTiming_of_forget htiming

theorem publishSenderTiming (h : RouterCurrent home r) {streamId publisherSessionId : Text}
    {sourceGeneration : ℕ} {sourceSsrc : UInt32} {ntpTimestamp : UInt64}
    {sourceRtpTimestamp senderPacketCount senderOctetCount : UInt32}
    {result : MediaFanoutRouter × _ × _}
    (hresult : r.publishSenderTiming streamId publisherSessionId sourceGeneration sourceSsrc
      ntpTimestamp sourceRtpTimestamp senderPacketCount senderOctetCount = some result) :
    RouterCurrent home result.1 := by
  unfold MediaFanoutRouter.publishSenderTiming at hresult
  split_ifs at hresult
  cases hsource : r.findCurrentSource streamId publisherSessionId sourceGeneration with
  | none =>
      rw [hsource] at hresult
      cases hresult
  | some source =>
      rw [hsource] at hresult
      cases hresult
      refine ⟨?_, ?_, h.homes⟩
      · intro key state hstate
        exact (h.requests key state hstate).of_shrunk (.refl state) rfl rfl
      · intro other ssrc timing htiming
        obtain ⟨timings, hfind, htiming⟩ := htiming
        simp only [AssocMap.find?_insertOrAssign] at hfind
        split_ifs at hfind with hstream
        · cases hfind
          rw [AssocMap.find?_insertOrAssign] at htiming
          split_ifs at htiming with hssrc
          · cases htiming
            rw [hstream]
            exact ⟨source, (findCurrentSource_some hsource).1, rfl, rfl⟩
          · cases hold : r.publisherSenderTimingsByStreamId.find? streamId with
            | none =>
                rw [hold] at htiming
                cases htiming
            | some timings =>
                rw [hold] at htiming
                rw [hstream]
                exact h.timings streamId ssrc timing ⟨timings, hold, htiming⟩
        · exact h.timings other ssrc timing ⟨timings, hfind, htiming⟩

end RouterCurrent

/-! ## Generations -/

/-- The generations which were allocated increase, and what is recorded is one of them. -/
structure GenerationsOrdered (s : RouterState) : Prop where
  increasing : s.allocated.Pairwise (· < ·)
  below : ∀ generation ∈ s.allocated, generation < s.router.nextSourceGeneration
  recorded : ∀ streamId generation,
    s.router.publisherSourceGenerationsByStreamId.find? streamId = some generation →
    generation ∈ s.allocated
  sources : ∀ streamId source, s.router.publisherSourcesByStreamId.find? streamId = some source →
    s.router.publisherSourceGenerationsByStreamId.find? streamId = some source.generation

/-- The sources and generations of two routers are the same. -/
structure SameGenerations (r r' : MediaFanoutRouter) : Prop where
  next : r'.nextSourceGeneration = r.nextSourceGeneration
  sources : r'.publisherSourcesByStreamId = r.publisherSourcesByStreamId
  generations : r'.publisherSourceGenerationsByStreamId = r.publisherSourceGenerationsByStreamId

namespace GenerationsOrdered
variable {s : RouterState}

theorem of_same {s' : RouterState} (h : GenerationsOrdered s)
    (hsame : SameGenerations s.router s'.router) (hallocated : s'.allocated = s.allocated) :
    GenerationsOrdered s' := by
  refine ⟨?_, ?_, ?_, ?_⟩
  · rw [hallocated]
    exact h.increasing
  · rw [hallocated, hsame.next]
    exact h.below
  · rw [hallocated, hsame.generations]
    exact h.recorded
  · rw [hsame.sources, hsame.generations]
    exact h.sources

/-- A generation is the largest when it begins. -/
theorem beginGeneration {s' : RouterState} (h : GenerationsOrdered s) {streamId : Text}
    {sources : AssocMap Text MediaPublisherSource}
    (hrouter : s'.router = s.router.beginGeneration streamId sources)
    (hallocated : s'.allocated = s.allocated ++ [s.router.nextSourceGeneration])
    (hsources : ∀ other source, sources.find? other = some source →
      if other = streamId then source.generation = s.router.nextSourceGeneration
      else s.router.publisherSourcesByStreamId.find? other = some source) :
    GenerationsOrdered s' := by
  refine ⟨?_, ?_, ?_, ?_⟩
  · rw [hallocated, List.pairwise_append]
    refine ⟨h.increasing, List.pairwise_singleton _ _, ?_⟩
    intro generation hgeneration next hnext
    obtain rfl := List.mem_singleton.mp hnext
    exact h.below generation hgeneration
  · intro generation hgeneration
    rw [hallocated] at hgeneration
    rw [hrouter]
    cases List.mem_append.mp hgeneration with
    | inl hold => exact Nat.lt_succ_of_lt (h.below generation hold)
    | inr hnew =>
        obtain rfl := List.mem_singleton.mp hnew
        exact Nat.lt_succ_self _
  · intro other generation hfind
    rw [hrouter] at hfind
    simp only [MediaFanoutRouter.beginGeneration, AssocMap.find?_insertOrAssign] at hfind
    rw [hallocated]
    split_ifs at hfind
    · cases hfind
      exact List.mem_append_right _ (List.mem_singleton_self _)
    · exact List.mem_append_left _ (h.recorded other generation hfind)
  · intro other source hfind
    rw [hrouter] at hfind ⊢
    have hsource := hsources other source hfind
    simp only [MediaFanoutRouter.beginGeneration, AssocMap.find?_insertOrAssign]
    split_ifs at hsource ⊢ with hstream
    · rw [hsource]
    · exact h.sources other source hsource

theorem setPublisherSource (h : GenerationsOrdered s) {streamId publisherSessionId : Text}
    {offer : WebrtcOfferSummary} :
    GenerationsOrdered (s.perform (.setPublisherSource streamId publisherSessionId offer)) := by
  rw [RouterState.perform]
  cases hresult : s.router.setPublisherSource streamId publisherSessionId offer with
  | none => exact h
  | some result =>
      unfold MediaFanoutRouter.setPublisherSource at hresult
      split_ifs at hresult
      cases hresult
      refine h.beginGeneration rfl rfl ?_
      intro other source hfind
      rw [AssocMap.find?_insertOrAssign] at hfind
      split_ifs at hfind ⊢
      · cases hfind
        rfl
      · exact hfind

theorem clearPublisherSource (h : GenerationsOrdered s) {streamId publisherSessionId : Text} :
    GenerationsOrdered (s.perform (.clearPublisherSource streamId publisherSessionId)) := by
  rw [RouterState.perform]
  cases hresult : s.router.clearPublisherSource streamId publisherSessionId with
  | none => exact h
  | some result =>
      unfold MediaFanoutRouter.clearPublisherSource at hresult
      split_ifs at hresult
      cases hsource : s.router.publisherSourcesByStreamId.find? streamId with
      | none =>
          rw [hsource] at hresult
          cases hresult
      | some source =>
          simp only [hsource] at hresult
          split_ifs at hresult
          cases hresult
          refine h.beginGeneration rfl rfl ?_
          intro other source hfind
          rw [AssocMap.find?_erase] at hfind
          split_ifs at hfind ⊢
          exact hfind

/-- A generation before the recorded one of a stream is not current. -/
theorem not_current_of_lt (h : GenerationsOrdered s) {streamId publisherSessionId : Text}
    {sourceGeneration current : ℕ}
    (hcurrent : s.router.publisherSourceGenerationsByStreamId.find? streamId = some current)
    (hlt : sourceGeneration < current) :
    ¬IsCurrent s.router streamId publisherSessionId sourceGeneration := by
  rintro ⟨source, hsource, -, hgeneration⟩
  have hsame := Option.some.inj (hcurrent.symm.trans (h.sources streamId source hsource))
  omega

end GenerationsOrdered

/-! ## Steps -/

/-- A subscription is to the home stream of its session. -/
def AtHome (home : Text → Text) : RouterEvent → Prop
  | .subscribe streamId id _ => streamId = home id
  | _ => True

/-- What holds of the router in every run. -/
structure StateCurrent (home : Text → Text) (s : RouterState) : Prop where
  router : RouterCurrent home s.router
  generations : GenerationsOrdered s

namespace StateCurrent
variable {home : Text → Text} {s : RouterState}

theorem withRouter (h : StateCurrent home s) {router : MediaFanoutRouter}
    (hrouter : RouterCurrent home router) (hsame : SameGenerations s.router router) :
    StateCurrent home (s.withRouter router) := ⟨hrouter, h.generations.of_same hsame rfl⟩

theorem withWait (h : StateCurrent home s) {router : MediaFanoutRouter}
    (hrouter : RouterCurrent home router) (hsame : SameGenerations s.router router)
    (key : KeyframeRequestKey) : StateCurrent home (s.withWait router key) := by
  obtain ⟨hnew, -, hallocated⟩ := RouterState.withWait_frame s router key
  refine ⟨?_, h.generations.of_same ?_ hallocated⟩
  · rw [hnew]
    exact hrouter
  · rw [hnew]
    exact hsame

theorem requestKeyframe (h : StateCurrent home s) (streamId id publisherSessionId : Text)
    (sourceGeneration : ℕ) (mediaSsrc : UInt32) :
    StateCurrent home
      (s.perform (.requestKeyframe streamId id publisherSessionId sourceGeneration mediaSsrc)) := by
  rw [RouterState.perform]
  cases hresult : s.router.requestKeyframe streamId id publisherSessionId sourceGeneration
      mediaSsrc with
  | none => exact h
  | some result =>
      obtain ⟨-, hrouter⟩ := requestKeyframe_some hresult
      have hcurrent := h.router.requestKeyframe hresult
      obtain ⟨hbegun, -, hallocated⟩ := RouterState.beginCycle_frame s
        ⟨streamId, publisherSessionId, sourceGeneration, mediaSsrc⟩
      refine StateCurrent.withWait ⟨?_, h.generations.of_same ?_ hallocated⟩ hcurrent ?_ _
      · rw [hbegun]
        exact h.router
      · rw [hbegun]
        exact ⟨rfl, rfl, rfl⟩
      · rw [hbegun, hrouter]
        exact ⟨rfl, rfl, rfl⟩

theorem retryCompleted (h : StateCurrent home s) (index : ℕ) :
    StateCurrent home (s.perform (.retryCompleted index)) := by
  rw [RouterState.perform]
  cases s.pending[index]? with
  | none => exact h
  | some retry =>
      have herased : StateCurrent home { s with pending := s.pending.eraseIdx index } :=
        ⟨h.router, h.generations.of_same ⟨rfl, rfl, rfl⟩ rfl⟩
      cases hstatus : retry.status with
      | waiting =>
          simp only [hstatus]
          exact h
      | aborted =>
          simp only [hstatus]
          exact herased
      | expired =>
          simp only [hstatus]
          refine herased.withWait (h.router.handleKeyframeRetry retry.key retry.timerToken) ?_ _
          obtain hnothing | ⟨state, -, -, ⟨-, herase⟩ | hagain⟩ :=
            handleKeyframeRetry_cases s.router retry.key retry.timerToken
          · rw [hnothing]
            exact ⟨rfl, rfl, rfl⟩
          · rw [herase]
            exact ⟨rfl, rfl, rfl⟩
          · rw [hagain]
            exact ⟨rfl, rfl, rfl⟩

theorem publishSourceBye (h : StateCurrent home s) (streamId publisherSessionId : Text)
    (sourceGeneration : ℕ) (sourceSsrc : UInt32) (reason : Text) :
    StateCurrent home
      (s.perform (.publishSourceBye streamId publisherSessionId sourceGeneration sourceSsrc
        reason)) := by
  rw [RouterState.perform]
  cases hresult : s.router.publishSourceBye streamId publisherSessionId sourceGeneration sourceSsrc
      reason with
  | none => exact h
  | some result =>
      refine h.withRouter (h.router.publishSourceBye hresult) ?_
      unfold MediaFanoutRouter.publishSourceBye at hresult
      split_ifs at hresult
      cases hsource : s.router.findCurrentSource streamId publisherSessionId sourceGeneration with
      | none =>
          rw [hsource] at hresult
          cases hresult
      | some source =>
          rw [hsource] at hresult
          cases hresult
          exact ⟨rfl, rfl, rfl⟩

theorem publishSenderTiming (h : StateCurrent home s) (streamId publisherSessionId : Text)
    (sourceGeneration : ℕ) (sourceSsrc : UInt32) (ntpTimestamp : UInt64)
    (sourceRtpTimestamp senderPacketCount senderOctetCount : UInt32) :
    StateCurrent home
      (s.perform (.publishSenderTiming streamId publisherSessionId sourceGeneration sourceSsrc
        ntpTimestamp sourceRtpTimestamp senderPacketCount senderOctetCount)) := by
  rw [RouterState.perform]
  cases hresult : s.router.publishSenderTiming streamId publisherSessionId sourceGeneration
      sourceSsrc ntpTimestamp sourceRtpTimestamp senderPacketCount senderOctetCount with
  | none => exact h
  | some result =>
      refine h.withRouter (h.router.publishSenderTiming hresult) ?_
      unfold MediaFanoutRouter.publishSenderTiming at hresult
      split_ifs at hresult
      cases hsource : s.router.findCurrentSource streamId publisherSessionId sourceGeneration with
      | none =>
          rw [hsource] at hresult
          cases hresult
      | some source =>
          rw [hsource] at hresult
          cases hresult
          exact ⟨rfl, rfl, rfl⟩

theorem subscribe (h : StateCurrent home s) {streamId id : Text} (transport : ℕ)
    (hhome : streamId = home id) :
    StateCurrent home (s.perform (.subscribe streamId id transport)) := by
  rw [RouterState.perform]
  cases hresult : s.router.subscribe streamId id transport with
  | none => exact h
  | some result =>
      refine h.withRouter (h.router.subscribe hhome hresult) ?_
      unfold MediaFanoutRouter.subscribe at hresult
      split_ifs at hresult
      cases hresult
      exact ⟨rfl, rfl, rfl⟩

theorem unsubscribe (h : StateCurrent home s) (id : Text) :
    StateCurrent home (s.perform (.unsubscribe id)) := by
  refine h.withRouter (h.router.unsubscribe id) ?_
  unfold MediaFanoutRouter.unsubscribe
  split_ifs
  · exact ⟨rfl, rfl, rfl⟩
  · cases s.router.subscriptionsBySessionId.find? id with
    | none => exact ⟨rfl, rfl, rfl⟩
    | some _ => exact ⟨rfl, rfl, rfl⟩

theorem perform (h : StateCurrent home s) {event : RouterEvent} (hhome : AtHome home event) :
    StateCurrent home (s.perform event) := by
  cases event with
  | subscribe streamId id transport => exact h.subscribe transport hhome
  | unsubscribe id => exact h.unsubscribe id
  | setPublisherSource streamId publisherSessionId publisherOffer =>
      refine ⟨?_, h.generations.setPublisherSource⟩
      rw [RouterState.perform]
      cases hresult : s.router.setPublisherSource streamId publisherSessionId publisherOffer with
      | none => exact h.router
      | some result => exact h.router.setPublisherSource hresult
  | clearPublisherSource streamId publisherSessionId =>
      refine ⟨?_, h.generations.clearPublisherSource⟩
      rw [RouterState.perform]
      cases hresult : s.router.clearPublisherSource streamId publisherSessionId with
      | none => exact h.router
      | some result => exact h.router.clearPublisherSource hresult
  | requestKeyframe streamId id publisherSessionId sourceGeneration mediaSsrc =>
      exact h.requestKeyframe ..
  | completeKeyframeRequest streamId id publisherSessionId sourceGeneration mediaSsrc =>
      refine h.withRouter (h.router.completeKeyframeRequest ..) ?_
      obtain ⟨requests, hrequests⟩ := completeKeyframeRequest_requests s.router streamId id
        publisherSessionId sourceGeneration mediaSsrc
      rw [hrequests]
      exact ⟨rfl, rfl, rfl⟩
  | cancelKeyframeRequests id =>
      refine h.withRouter (h.router.cancelKeyframeRequests id) ?_
      unfold MediaFanoutRouter.cancelKeyframeRequests
      split_ifs
      · exact ⟨rfl, rfl, rfl⟩
      · exact ⟨rfl, rfl, rfl⟩
  | publishRtp streamId publisherSessionId packet => exact h
  | publishSourceBye streamId publisherSessionId sourceGeneration sourceSsrc reason =>
      exact h.publishSourceBye ..
  | publishSenderTiming streamId publisherSessionId sourceGeneration sourceSsrc ntpTimestamp
      sourceRtpTimestamp senderPacketCount senderOctetCount => exact h.publishSenderTiming ..
  | timerExpired index => exact ⟨h.router, h.generations.of_same ⟨rfl, rfl, rfl⟩ rfl⟩
  | retryCompleted index => exact h.retryCompleted index

end StateCurrent

/-! ## Runs -/

/-- No session is subscribed to two streams. -/
def OneStream (events : List RouterEvent) : Prop :=
  ∀ streamId streamId' id transport transport',
    .subscribe streamId id transport ∈ events → .subscribe streamId' id transport' ∈ events →
      streamId = streamId'

theorem OneStream.exists_home {events : List RouterEvent} (h : OneStream events) :
    ∃ home : Text → Text, ∀ event ∈ events, AtHome home event := by
  have hchoice : ∀ id : Text, ∃ home : Text, ∀ streamId transport,
      .subscribe streamId id transport ∈ events → streamId = home := by
    intro id
    by_cases hsome : ∃ streamId transport, .subscribe streamId id transport ∈ events
    · obtain ⟨home, transport, hmem⟩ := hsome
      exact ⟨home, fun streamId transport' hmem' => h _ _ _ _ _ hmem' hmem⟩
    · refine ⟨[], ?_⟩
      intro streamId transport hmem
      exact absurd ⟨streamId, transport, hmem⟩ hsome
  choose home hhome using hchoice
  refine ⟨home, ?_⟩
  intro event hevent
  cases event with
  | subscribe streamId id transport => exact hhome id streamId transport hevent
  | _ => trivial

theorem run_stateCurrent {events : List RouterEvent} {s : RouterState}
    (hone : OneStream events) (h : RouterState.system.Run events s) :
    ∃ home, StateCurrent home s := by
  obtain ⟨home, hhome⟩ := hone.exists_home
  refine ⟨home, ?_⟩
  refine (h.to_restrict fun event hevent _ => hhome event hevent).invariant ?_ ?_
  · intro s hs
    obtain rfl := hs
    refine ⟨⟨?_, ?_, ?_⟩, .nil, ?_, ?_, ?_⟩
    · intro key state hstate
      cases hstate
    · rintro streamId sourceSsrc timing ⟨timings, hfind, -⟩
      cases hfind
    · intro id subscription hfind
      cases hfind
    · intro generation hgeneration
      cases hgeneration
    · intro streamId generation hfind
      cases hfind
    · intro streamId source hfind
      cases hfind
  · intro s event s' hs hstep
    obtain ⟨hhome, hstep⟩ := hstep
    obtain rfl := Option.some.inj hstep
    exact hs.perform hhome

/-- What is not of the current source of its stream is turned away. -/
def TurnedAway (r : MediaFanoutRouter) (streamId publisherSessionId : Text)
    (sourceGeneration : ℕ) : Prop :=
  (∀ id mediaSsrc,
    r.requestKeyframe streamId id publisherSessionId sourceGeneration mediaSsrc = none) ∧
  (∀ sourceSsrc reason,
    r.publishSourceBye streamId publisherSessionId sourceGeneration sourceSsrc reason = none) ∧
  ∀ sourceSsrc ntpTimestamp sourceRtpTimestamp senderPacketCount senderOctetCount,
    r.publishSenderTiming streamId publisherSessionId sourceGeneration sourceSsrc ntpTimestamp
      sourceRtpTimestamp senderPacketCount senderOctetCount = none

theorem turnedAway_of_not_current {r : MediaFanoutRouter} {streamId publisherSessionId : Text}
    {sourceGeneration : ℕ} (h : ¬IsCurrent r streamId publisherSessionId sourceGeneration) :
    TurnedAway r streamId publisherSessionId sourceGeneration := by
  have hnone : r.findCurrentSource streamId publisherSessionId sourceGeneration = none := by
    rw [← Option.not_isSome_iff_eq_none, findCurrentSource_isSome]
    exact h
  refine ⟨?_, ?_, ?_⟩
  · intro id mediaSsrc
    simp [MediaFanoutRouter.requestKeyframe, hnone]
  · intro sourceSsrc reason
    simp [MediaFanoutRouter.publishSourceBye, hnone]
  · intro sourceSsrc ntpTimestamp sourceRtpTimestamp senderPacketCount senderOctetCount
    simp [MediaFanoutRouter.publishSenderTiming, hnone]

/-- Generations increase, everything kept is of the current source of its stream, and what names
another session or an earlier generation is turned away. -/
theorem run_current (events : List RouterEvent) (s : RouterState)
    (h : RouterState.system.Run events s) (hone : OneStream events) :
    s.allocated.Pairwise (· < ·) ∧
    (∀ streamId generation,
      s.router.publisherSourceGenerationsByStreamId.find? streamId = some generation →
      generation ∈ s.allocated) ∧
    (∀ key state, s.router.keyframeRequests.find? key = some state →
      RequestCurrent s.router key state) ∧
    (∀ streamId sourceSsrc timing, StoresTiming s.router streamId sourceSsrc timing →
      IsCurrent s.router streamId timing.publisherSessionId timing.sourceGeneration) ∧
    (∀ streamId publisherSessionId sourceGeneration,
      ¬IsCurrent s.router streamId publisherSessionId sourceGeneration →
      TurnedAway s.router streamId publisherSessionId sourceGeneration) ∧
    (∀ streamId publisherSessionId sourceGeneration current,
      s.router.publisherSourceGenerationsByStreamId.find? streamId = some current →
      sourceGeneration < current →
      TurnedAway s.router streamId publisherSessionId sourceGeneration) ∧
    (∀ streamId publisherSessionId packet,
      (∀ sourceGeneration, ¬IsCurrent s.router streamId publisherSessionId sourceGeneration) →
      s.router.publishRtp streamId publisherSessionId packet = none) := by
  obtain ⟨home, hcurrent⟩ := run_stateCurrent hone h
  refine ⟨hcurrent.generations.increasing, hcurrent.generations.recorded,
    hcurrent.router.requests, hcurrent.router.timings, ?_, ?_, ?_⟩
  · intro streamId publisherSessionId sourceGeneration hnot
    exact turnedAway_of_not_current hnot
  · intro streamId publisherSessionId sourceGeneration current hfind hlt
    exact turnedAway_of_not_current (hcurrent.generations.not_current_of_lt hfind hlt)
  · intro streamId publisherSessionId packet hnot
    unfold MediaFanoutRouter.publishRtp
    split_ifs
    · rfl
    · cases hsource : s.router.publisherSourcesByStreamId.find? streamId with
      | none => rfl
      | some source =>
          simp only
          rw [if_pos]
          intro hsession
          exact hnot source.generation ⟨source, hsource, hsession, rfl⟩

theorem askedState_run :
    RouterState.system.Run [subscribing, publishing, askingForKeyframe] askedState := by
  have hstart : RouterState.system.Run [] {} := .start rfl
  have hsubscribed : RouterState.system.Run [subscribing] (RouterState.perform {} subscribing) :=
    hstart.step rfl
  have hpublished : RouterState.system.Run [subscribing, publishing] publishedState :=
    hsubscribed.step rfl
  exact hpublished.step rfl

theorem askedState_oneStream : OneStream [subscribing, publishing, askingForKeyframe] := by
  intro streamId streamId' id transport transport' h h'
  simp only [subscribing, publishing, askingForKeyframe, List.mem_cons, List.not_mem_nil, or_false,
    reduceCtorEq, RouterEvent.subscribe.injEq] at h h'
  rw [h.1, h'.1]

theorem run_current_asked : ∃ state,
    askedState.router.keyframeRequests.find? retriedKey = some state ∧
      RequestCurrent askedState.router retriedKey state := by
  obtain ⟨-, -, hrequests, -⟩ := run_current _ askedState askedState_run askedState_oneStream
  have hsome : (askedState.router.keyframeRequests.find? retriedKey).isSome = true := by
    decide +kernel
  obtain ⟨state, hstate⟩ := Option.isSome_iff_exists.mp hsome
  exact ⟨state, hstate, hrequests retriedKey state hstate⟩

end SimpleWebrtc.MediaFanout
