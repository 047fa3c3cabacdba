import SimpleWebrtc.RouterRuns

/-!
# Retries of ended requests

The token which tells a completion from those of earlier waits stands in the
entry of its key. It goes when the entry goes, and begins again with the next
entry of the same key. A completion which outlived its entry is so told from the
waits of the next one only as long as none of these has come to its token.
-/
namespace SimpleWebrtc.MediaFanout
open Library Library.Text SdpSummary

/-- The cycle which started a wait has ended. -/
def IsStale (s : RouterState) (retry : PendingRetry) : Prop :=
  s.router.keyframeRequests.find? retry.key = none ∨
    s.cycleOf.find? retry.key ≠ some retry.cycle

/-- A completion of an ended cycle neither asks the publisher nor changes the requests. -/
def StaleIgnored (s : RouterState) : Prop :=
  ∀ retry ∈ s.pending, retry.status = .expired → IsStale s retry →
    s.router.handleKeyframeRetry retry.key retry.timerToken = (s.router, false)

/-- No expired wait of an ended cycle of a key carries a token. -/
def TokenUnused (s : RouterState) (key : KeyframeRequestKey) (timerToken : ℕ) : Prop :=
  ∀ retry ∈ s.pending, retry.status = .expired → retry.key = key → IsStale s retry →
    retry.timerToken ≠ timerToken

/-- A wait is not started under the token of an expired one of an ended cycle whose completion is
still to be delivered. -/
def StartsUnused (s : RouterState) : RouterEvent → Prop
  | .requestKeyframe streamId id publisherSessionId sourceGeneration mediaSsrc =>
      let key : KeyframeRequestKey := ⟨streamId, publisherSessionId, sourceGeneration, mediaSsrc⟩
      let state := (s.router.keyframeRequests.find? key).getD {}
      AcceptsRequest s.router streamId id publisherSessionId sourceGeneration mediaSsrc →
        state.retryActive = false → TokenUnused s key (state.timerToken + 1)
  | .retryCompleted index =>
      ∀ retry state, s.pending[index]? = some retry → retry.status = .expired →
        s.router.keyframeRequests.find? retry.key = some state →
        state.timerToken = retry.timerToken →
        state.nextRetryDelayIndex < kKeyframeRetryDelays.length →
        TokenUnused s retry.key (state.timerToken + 1)
  | _ => True

/-! ## The invariant -/

/-- What a wait may become without having been delivered. -/
inductive Succeeds (retry : PendingRetry) : PendingRetry → Prop
  | same : Succeeds retry retry
  | aborted : Succeeds retry { retry with status := .aborted }

theorem succeeds_abort (retry : PendingRetry) : Succeeds retry retry.abort := by
  unfold PendingRetry.abort
  split_ifs
  · exact .aborted
  · exact .same

theorem succeeds_abortWithout (retry : PendingRetry) (router : MediaFanoutRouter) :
    Succeeds retry (retry.abortWithout router) := by
  unfold PendingRetry.abortWithout
  cases router.keyframeRequests.find? retry.key with
  | none => exact succeeds_abort retry
  | some state => exact .same

theorem succeeds_abortFor (retry : PendingRetry) (key : KeyframeRequestKey) :
    Succeeds retry (retry.abortFor key) := by
  unfold PendingRetry.abortFor
  split_ifs
  · exact succeeds_abort retry
  · exact .same

theorem Succeeds.trans {retry retry' retry'' : PendingRetry} (h : Succeeds retry retry')
    (h' : Succeeds retry' retry'') : Succeeds retry retry'' := by
  cases h with
  | same => exact h'
  | aborted =>
      cases h' with
      | same => exact .aborted
      | aborted => exact .aborted

/-- A wait which has not been aborted is the one it was. -/
theorem Succeeds.eq_of_not_aborted {retry retry' : PendingRetry} (h : Succeeds retry retry')
    (hstatus : retry'.status ≠ .aborted) : retry' = retry := by
  cases h with
  | same => rfl
  | aborted => exact absurd rfl hstatus

structure NoClash (s : RouterState) : Prop where
  known : ∀ key state, s.router.keyframeRequests.find? key = some state →
    ∃ cycle, s.cycleOf.find? key = some cycle
  live : ∀ retry ∈ s.pending, retry.status = .waiting → ¬IsStale s retry
  distinct : ∀ retry ∈ s.pending, retry.status = .expired → IsStale s retry → ∀ state,
    s.router.keyframeRequests.find? retry.key = some state → state.timerToken ≠ retry.timerToken

/-- The waits an operation has left as they were. -/
theorem mem_withRouter {s : RouterState} {router : MediaFanoutRouter} {retry : PendingRetry}
    (h : retry ∈ (s.withRouter router).pending) (hstatus : retry.status ≠ .aborted) :
    retry ∈ s.pending ∧
      (retry.status = .waiting → router.keyframeRequests.find? retry.key ≠ none) := by
  obtain ⟨retry', hretry', rfl⟩ := List.mem_map.mp h
  have heq := (succeeds_abortWithout retry' router).eq_of_not_aborted hstatus
  refine ⟨?_, ?_⟩
  · rw [heq]
    exact hretry'
  · intro hwaiting hnone
    rw [heq] at hwaiting hnone
    apply hstatus
    simp [PendingRetry.abortWithout, hnone, PendingRetry.abort, hwaiting]

namespace NoClash
variable {s : RouterState}

theorem staleIgnored (h : NoClash s) : StaleIgnored s := by
  intro retry hretry hexpired hstale
  obtain hnone | ⟨state, hstate, htoken, -⟩ :=
    handleKeyframeRetry_cases s.router retry.key retry.timerToken
  · exact hnone
  · exact absurd htoken (h.distinct retry hretry hexpired hstale state hstate)

/-- Nothing is started, and entries go or keep their token. -/
theorem withRouter (h : NoClash s) {router : MediaFanoutRouter}
    (hshrinks : Shrinks s.router router) : NoClash (s.withRouter router) where
  known := by
    intro key state' hstate'
    obtain ⟨state, hstate, -⟩ := hshrinks key state' hstate'
    exact h.known key state hstate
  live := by
    intro retry hretry hwaiting hstale
    obtain ⟨hmem, hentry⟩ := mem_withRouter hretry (by rw [hwaiting]; decide)
    apply h.live retry hmem hwaiting
    cases hstale with
    | inl hnone => exact absurd hnone (hentry hwaiting)
    | inr hcycle => exact .inr hcycle
  distinct := by
    intro retry hretry hexpired hstale state' hstate'
    obtain ⟨hmem, -⟩ := mem_withRouter hretry (by rw [hexpired]; decide)
    obtain ⟨state, hstate, hshrunk⟩ := hshrinks retry.key state' hstate'
    rw [hshrunk.timerToken]
    apply h.distinct retry hmem hexpired
    · cases hstale with
      | inl hnone => cases hstate'.symm.trans hnone
      | inr hcycle => exact .inr hcycle
    · exact hstate

theorem eraseIdx (h : NoClash s) (index : ℕ) :
    NoClash { s with pending := s.pending.eraseIdx index } where
  known := h.known
  live := fun retry hretry => h.live retry (List.mem_of_mem_eraseIdx hretry)
  distinct := fun retry hretry => h.distinct retry (List.mem_of_mem_eraseIdx hretry)

/-- A wait which expires belongs to the cycle of its entry. -/
theorem expire (h : NoClash s) (index : ℕ) :
    NoClash { s with pending := s.pending.modify index PendingRetry.expire } := by
  have hmem : ∀ retry ∈ s.pending.modify index PendingRetry.expire,
      ∃ retry' ∈ s.pending, retry = retry' ∨ retry = retry'.expire := by
    intro retry hretry
    obtain ⟨i, hi, rfl⟩ := List.mem_iff_getElem.mp hretry
    rw [List.getElem_modify]
    split_ifs
    · exact ⟨_, List.getElem_mem _, .inr rfl⟩
    · exact ⟨_, List.getElem_mem _, .inl rfl⟩
  have hsame : ∀ retry retry' : PendingRetry, retry = retry' ∨ retry = retry'.expire →
      retry = retry' ∨ retry'.status = .waiting ∧ retry = { retry' with status := .expired } := by
    intro retry retry' heq
    cases heq with
    | inl heq => exact .inl heq
    | inr heq =>
        unfold PendingRetry.expire at heq
        split_ifs at heq with hwaiting
        · exact .inr ⟨hwaiting, heq⟩
        · exact .inl heq
  refine ⟨h.known, ?_, ?_⟩
  · intro retry hretry hwaiting
    obtain ⟨retry', hretry', heq⟩ := hmem retry hretry
    obtain rfl | ⟨-, rfl⟩ := hsame retry retry' heq
    · exact h.live retry hretry' hwaiting
    · cases hwaiting
  · intro retry hretry hexpired hstale
    obtain ⟨retry', hretry', heq⟩ := hmem retry hretry
    obtain rfl | ⟨hwaiting, rfl⟩ := hsame retry retry' heq
    · exact h.distinct retry hretry' hexpired hstale
    · exact absurd hstale (h.live retry' hretry' hwaiting)

theorem beginCycle (h : NoClash s) (key : KeyframeRequestKey) : NoClash (s.beginCycle key) := by
  unfold RouterState.beginCycle
  cases hfind : s.router.keyframeRequests.find? key with
  | some state => exact h
  | none =>
      have hother : ∀ retry : PendingRetry, s.router.keyframeRequests.find? retry.key ≠ none →
          (s.cycleOf.insertOrAssign key s.nextCycle).find? retry.key =
            s.cycleOf.find? retry.key := by
        intro retry hentry
        rw [AssocMap.find?_insertOrAssign, if_neg]
        intro heq
        rw [heq] at hentry
        exact hentry hfind
      refine ⟨?_, ?_, ?_⟩
      · intro key' state hstate
        simp only [AssocMap.find?_insertOrAssign]
        split_ifs
        · exact ⟨_, rfl⟩
        · exact h.known key' state hstate
      · intro retry hretry hwaiting hstale
        have hlive := h.live retry hretry hwaiting
        apply hlive
        cases hstale with
        | inl hnone => exact .inl hnone
        | inr hcycle =>
            right
            rw [← hother retry fun hnone => hlive (.inl hnone)]
            exact hcycle
      · intro retry hretry hexpired hstale state hstate
        apply h.distinct retry hretry hexpired _ state hstate
        cases hstale with
        | inl hnone => exact .inl hnone
        | inr hcycle =>
            right
            rw [← hother retry (by rw [hstate]; simp)]
            exact hcycle

/-- A begun cycle is known. -/
theorem beginCycle_known (h : NoClash s) (key : KeyframeRequestKey) :
    ∃ cycle, (s.beginCycle key).cycleOf.find? key = some cycle := by
  unfold RouterState.beginCycle
  cases hfind : s.router.keyframeRequests.find? key with
  | some state => exact h.known key state hfind
  | none => exact ⟨_, AssocMap.find?_insertOrAssign_self _ _ _⟩

/-- The entry of a key is written under the token it has, or a wait is started for it under an
unused one. -/
theorem withWait (h : NoClash s) {router : MediaFanoutRouter} {key : KeyframeRequestKey}
    (state' : KeyframeRequestState)
    (hrouter : ∀ key', router.keyframeRequests.find? key' =
      if key' = key then some state' else s.router.keyframeRequests.find? key')
    (hknown : ∃ cycle, s.cycleOf.find? key = some cycle)
    (htoken : (∃ state, s.router.keyframeRequests.find? key = some state ∧
        state'.timerToken = state.timerToken) ∨
      ∀ retry ∈ s.pending, retry.status = .expired → retry.key = key →
        s.cycleOf.find? key ≠ some retry.cycle → retry.timerToken ≠ state'.timerToken) :
    NoClash (s.withWait router key) := by
  obtain ⟨cycle, hcycle⟩ := hknown
  have hentry : router.keyframeRequests.find? key = some state' := by rw [hrouter, if_pos rfl]
  obtain ⟨hnewRouter, hnewCycleOf, -⟩ := RouterState.withWait_frame s router key
  have hpending : ∀ retry ∈ (s.withWait router key).pending, retry.status ≠ .aborted →
      retry ∈ (s.withRouter router).pending ∨
        retry.key = key ∧ retry.cycle = cycle := by
    intro retry hretry hstatus
    unfold RouterState.withWait at hretry
    cases hstarted : startedWait s.router router key with
    | none =>
        rw [hstarted] at hretry
        exact .inl hretry
    | some timerToken =>
        rw [hstarted] at hretry
        obtain hold | hlast := List.mem_append.mp hretry
        · obtain ⟨retry', hretry', rfl⟩ := List.mem_map.mp hold
          left
          rw [(succeeds_abortFor retry' key).eq_of_not_aborted hstatus]
          exact hretry'
        · obtain rfl := List.mem_singleton.mp hlast
          exact .inr ⟨rfl, by rw [hcycle, Option.getD_some]⟩
  refine ⟨?_, ?_, ?_⟩
  · intro key' state hstate
    rw [hnewRouter, hrouter] at hstate
    rw [hnewCycleOf]
    split_ifs at hstate with hkey
    · rw [hkey]
      exact ⟨cycle, hcycle⟩
    · exact h.known key' state hstate
  · intro retry hretry hwaiting hstale
    rw [IsStale, hnewRouter, hnewCycleOf] at hstale
    obtain hold | ⟨hkey, hsame⟩ := hpending retry hretry (by rw [hwaiting]; decide)
    · obtain ⟨hmem, hthere⟩ := mem_withRouter hold (by rw [hwaiting]; decide)
      apply h.live retry hmem hwaiting
      cases hstale with
      | inl hnone => exact absurd hnone (hthere hwaiting)
      | inr hother => exact .inr hother
    · rw [hkey, hentry, hcycle, hsame] at hstale
      simp at hstale
  · intro retry hretry hexpired hstale state hstate
    rw [hnewRouter] at hstate
    have hother : s.cycleOf.find? retry.key ≠ some retry.cycle := by
      rw [IsStale, hnewRouter, hnewCycleOf] at hstale
      cases hstale with
      | inl hnone =>
          rw [hnone] at hstate
          cases hstate
      | inr hother => exact hother
    obtain hold | ⟨hkey, hsame⟩ := hpending retry hretry (by rw [hexpired]; decide)
    · obtain ⟨hmem, -⟩ := mem_withRouter hold (by rw [hexpired]; decide)
      rw [hrouter] at hstate
      split_ifs at hstate with hkey
      · cases hstate
        cases htoken with
        | inl hkept =>
            obtain ⟨state, hstate, hkept⟩ := hkept
            rw [hkept]
            apply h.distinct retry hmem hexpired (.inr hother)
            rw [hkey, hstate]
        | inr hunused =>
            rw [hkey] at hother
            exact (hunused retry hmem hexpired hkey hother).symm
      · exact h.distinct retry hmem hexpired (.inr hother) state hstate
    · rw [hkey, hsame] at hother
      exact absurd hcycle hother

/-- An operation which starts no wait. -/
theorem withWait_shrinks (h : NoClash s) {router : MediaFanoutRouter}
    (hshrinks : Shrinks s.router router) (key : KeyframeRequestKey) :
    NoClash (s.withWait router key) := by
  have hnone : startedWait s.router router key = none := by
    unfold startedWait
    cases hfind : router.keyframeRequests.find? key with
    | none => rfl
    | some state' =>
        obtain ⟨state, hstate, hshrunk⟩ := hshrinks key state' hfind
        simp only [hstate, Option.map_some, hshrunk.timerToken, if_true]
  rw [RouterState.withWait, hnone]
  exact h.withRouter hshrinks

end NoClash

/-! ## Steps -/

theorem joinKeyframeRequest_timerToken (id : Text) (state : KeyframeRequestState) :
    (MediaFanoutRouter.joinKeyframeRequest id state).timerToken =
      if state.retryActive then state.timerToken else state.timerToken + 1 := by
  unfold MediaFanoutRouter.joinKeyframeRequest
  cases hactive : state.retryActive with
  | false => simp [MediaFanoutRouter.scheduleKeyframeRetry, kKeyframeRetryDelays]
  | true => simp

theorem NoClash.requestKeyframe {s : RouterState} (h : NoClash s)
    {streamId id publisherSessionId : Text} {sourceGeneration : ℕ} {mediaSsrc : UInt32}
    (hunused : StartsUnused s
      (.requestKeyframe streamId id publisherSessionId sourceGeneration mediaSsrc)) :
    NoClash (s.perform
      (.requestKeyframe streamId id publisherSessionId sourceGeneration mediaSsrc)) := by
  rw [RouterState.perform]
  cases hresult : s.router.requestKeyframe streamId id publisherSessionId sourceGeneration
      mediaSsrc with
  | none => exact h
  | some result =>
      obtain ⟨haccepts, hrouter⟩ := requestKeyframe_some hresult
      have hunused := hunused haccepts
      generalize hkey : (⟨streamId, publisherSessionId, sourceGeneration, mediaSsrc⟩ :
        KeyframeRequestKey) = key at hrouter hunused ⊢
      obtain ⟨hsameRouter, hsamePending, -⟩ := RouterState.beginCycle_frame s key
      refine (h.beginCycle key).withWait (MediaFanoutRouter.joinKeyframeRequest id
        ((s.router.keyframeRequests.find? key).getD {})) ?_ (h.beginCycle_known key) ?_
      · intro key'
        rw [hrouter, hsameRouter]
        exact AssocMap.find?_insertOrAssign _ _ _ _
      · rw [hsameRouter, hsamePending, joinKeyframeRequest_timerToken]
        cases hactive : ((s.router.keyframeRequests.find? key).getD {}).retryActive with
        | true =>
            left
            cases hfind : s.router.keyframeRequests.find? key with
            | none =>
                rw [hfind] at hactive
                cases hactive
            | some state => exact ⟨state, rfl, rfl⟩
        | false =>
            right
            intro retry hretry hexpired hkey' hother
            apply hunused hactive retry hretry hexpired hkey'
            unfold RouterState.beginCycle at hother
            cases hfind : s.router.keyframeRequests.find? key with
            | none =>
                left
                rw [hkey', hfind]
            | some state =>
                right
                rw [hfind] at hother
                rw [hkey']
                exact hother

theorem NoClash.retryCompleted {s : RouterState} (h : NoClash s) {index : ℕ}
    (hunused : StartsUnused s (.retryCompleted index)) :
    NoClash (s.perform (.retryCompleted index)) := by
  rw [RouterState.perform]
  cases hretry : s.pending[index]? with
  | none => exact h
  | some retry =>
      have herased := h.eraseIdx index
      cases hstatus : retry.status with
      | waiting =>
          simp only [hstatus]
          exact h
      | aborted =>
          simp only [hstatus]
          exact herased
      | expired =>
          simp only [hstatus]
          obtain hnothing | ⟨state, hstate, htoken, ⟨-, herase⟩ | hagain⟩ :=
            handleKeyframeRetry_cases s.router retry.key retry.timerToken
          · rw [hnothing]
            exact herased.withWait_shrinks (Shrinks.of_eq rfl) retry.key
          · rw [herase]
            apply herased.withWait_shrinks
            intro key state' hstate'
            simp only [AssocMap.find?_erase] at hstate'
            split_ifs at hstate'
            exact ⟨state', hstate', .refl state'⟩
          · rw [hagain]
            refine herased.withWait (MediaFanoutRouter.scheduleKeyframeRetry
              { state with sentCount := state.sentCount + 1 }) ?_
              (h.known retry.key state hstate) ?_
            · intro key'
              exact AssocMap.find?_insertOrAssign _ _ _ _
            · unfold MediaFanoutRouter.scheduleKeyframeRetry
              split_ifs with hused
              · exact .inl ⟨state, hstate, rfl⟩
              · right
                intro retry' hretry' hexpired hkey hother
                rw [← hkey] at hother
                exact hunused retry state hretry hstatus hstate htoken (not_le.mp hused) retry'
                  (List.mem_of_mem_eraseIdx hretry') hexpired hkey (.inr hother)

/-- What is kept besides does not matter. -/
theorem NoClash.congr {s s' : RouterState} (h : NoClash s) (hrouter : s'.router = s.router)
    (hpending : s'.pending = s.pending) (hcycleOf : s'.cycleOf = s.cycleOf) : NoClash s' := by
  obtain ⟨router, pending, cycleOf, nextCycle, allocated⟩ := s
  obtain ⟨router', pending', cycleOf', nextCycle', allocated'⟩ := s'
  cases hrouter
  cases hpending
  cases hcycleOf
  exact ⟨h.known, h.live, h.distinct⟩

theorem NoClash.perform {s : RouterState} (h : NoClash s) {event : RouterEvent}
    (hunused : StartsUnused s event) : NoClash (s.perform event) := by
  cases event with
  | subscribe streamId id transport =>
      rw [RouterState.perform]
      cases hresult : s.router.subscribe streamId id transport with
      | none => exact h
      | some result => exact h.withRouter (Shrinks.subscribe hresult)
  | unsubscribe id => exact h.withRouter (Shrinks.unsubscribe _ _)
  | setPublisherSource streamId publisherSessionId publisherOffer =>
      rw [RouterState.perform]
      cases hresult : s.router.setPublisherSource streamId publisherSessionId publisherOffer with
      | none => exact h
      | some result =>
          exact (h.withRouter (Shrinks.setPublisherSource hresult)).congr rfl rfl rfl
  | clearPublisherSource streamId publisherSessionId =>
      rw [RouterState.perform]
      cases hresult : s.router.clearPublisherSource streamId publisherSessionId with
      | none => exact h
      | some result =>
          exact (h.withRouter (Shrinks.clearPublisherSource hresult)).congr rfl rfl rfl
  | requestKeyframe streamId id publisherSessionId sourceGeneration mediaSsrc =>
      exact h.requestKeyframe hunused
  | completeKeyframeRequest streamId id publisherSessionId sourceGeneration mediaSsrc =>
      exact h.withRouter (Shrinks.completeKeyframeRequest _ _ _ _ _ _)
  | cancelKeyframeRequests id => exact h.withRouter (Shrinks.cancelKeyframeRequests _ _)
  | publishRtp streamId publisherSessionId packet => exact h
  | publishSourceBye streamId publisherSessionId sourceGeneration sourceSsrc reason =>
      rw [RouterState.perform]
      cases hresult : s.router.publishSourceBye streamId publisherSessionId sourceGeneration
          sourceSsrc reason with
      | none => exact h
      | some result => exact h.withRouter (Shrinks.publishSourceBye hresult)
  | publishSenderTiming streamId publisherSessionId sourceGeneration sourceSsrc ntpTimestamp
      sourceRtpTimestamp senderPacketCount senderOctetCount =>
      rw [RouterState.perform]
      cases hresult : s.router.publishSenderTiming streamId publisherSessionId sourceGeneration
          sourceSsrc ntpTimestamp sourceRtpTimestamp senderPacketCount senderOctetCount with
      | none => exact h
      | some result => exact h.withRouter (Shrinks.publishSenderTiming hresult)
  | timerExpired index => exact h.expire index
  | retryCompleted index => exact h.retryCompleted hunused

/-- As long as no wait is started under the token of an expired one of an ended cycle, the
completions of ended cycles do nothing. -/
theorem run_stale_ignored (events : List RouterEvent) (s : RouterState)
    (h : (RouterState.system.restrict StartsUnused).Run events s) : StaleIgnored s := by
  have hclash : NoClash s := by
    refine h.invariant ?_ ?_
    · intro s hs
      obtain rfl := hs
      refine ⟨?_, ?_, ?_⟩
      · intro key state hstate
        cases hstate
      · intro retry hretry
        cases hretry
      · intro retry hretry
        cases hretry
    · intro s event s' hs hstep
      obtain ⟨hunused, hstep⟩ := hstep
      obtain rfl := Option.some.inj hstep
      exact hs.perform hunused
  exact hclash.staleIgnored

/-! ## A request which is made again -/

def completing : RouterEvent :=
  .completeKeyframeRequest (ascii "live") (ascii "subscriber") (ascii "publisher") 1 7

/-- The wait of a request has expired when the request is completed. -/
def completedEvents : List RouterEvent :=
  [subscribing, publishing, askingForKeyframe, .timerExpired 0, completing]

def completedState : RouterState :=
  (askedState.perform (.timerExpired 0)).perform completing

def retryLeftBehind : PendingRetry := ⟨retriedKey, 1, 0, .expired⟩

theorem completedState_run :
    (RouterState.system.restrict StartsUnused).Run completedEvents completedState := by
  have hstart : (RouterState.system.restrict StartsUnused).Run [] {} := .start rfl
  have hsubscribed : (RouterState.system.restrict StartsUnused).Run [subscribing]
      (RouterState.perform {} subscribing) := hstart.step ⟨trivial, rfl⟩
  have hpublished : (RouterState.system.restrict StartsUnused).Run [subscribing, publishing]
      publishedState := hsubscribed.step ⟨trivial, rfl⟩
  have hasked : (RouterState.system.restrict StartsUnused).Run
      [subscribing, publishing, askingForKeyframe] askedState := by
    refine hpublished.step ⟨?_, rfl⟩
    intro _ _ retry hretry
    have hempty : publishedState.pending = [] := by decide +kernel
    rw [hempty] at hretry
    cases hretry
  have hexpired : (RouterState.system.restrict StartsUnused).Run
      [subscribing, publishing, askingForKeyframe, .timerExpired 0]
      (askedState.perform (.timerExpired 0)) :=
    hasked.step ⟨trivial, rfl⟩
  exact hexpired.step ⟨trivial, rfl⟩

theorem run_stale_ignored_completed :
    completedState.router.handleKeyframeRetry retriedKey 1 = (completedState.router, false) := by
  have hpending : retryLeftBehind ∈ completedState.pending := by decide +kernel
  have hnone : completedState.router.keyframeRequests.find? retriedKey = none := by decide +kernel
  exact run_stale_ignored _ _ completedState_run retryLeftBehind hpending rfl (.inl hnone)

/-- The completion of the first request is taken for one of the second. -/
theorem stale_retry_asks_again :
    ¬ ∀ (events : List RouterEvent) (s : RouterState), RouterState.system.Run events s →
      StaleIgnored s := by
  intro hall
  have hrun : RouterState.system.Run (completedEvents ++ [askingForKeyframe])
      (completedState.perform askingForKeyframe) := completedState_run.of_restrict.step rfl
  have hpending : retryLeftBehind ∈ (completedState.perform askingForKeyframe).pending := by
    decide +kernel
  have hcycle : (completedState.perform askingForKeyframe).cycleOf.find? retriedKey = some 1 := by
    decide +kernel
  have hasks : ((completedState.perform askingForKeyframe).router.handleKeyframeRetry
      retriedKey 1).2 = true := by decide +kernel
  have hstale : IsStale (completedState.perform askingForKeyframe) retryLeftBehind := by
    right
    intro hsame
    cases hcycle.symm.trans hsame
  have hignored := hall _ _ hrun _ hpending rfl hstale
  change (completedState.perform askingForKeyframe).router.handleKeyframeRetry retriedKey 1 = _
    at hignored
  rw [hignored] at hasks
  cases hasks

end SimpleWebrtc.MediaFanout
