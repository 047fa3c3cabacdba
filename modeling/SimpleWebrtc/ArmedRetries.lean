import SimpleWebrtc.PublisherGenerations
import SimpleWebrtc.RouterRuns

/-!
# Retries to come

An entry whose retries go on always has a wait which is still to be completed
under its token, and the publisher has been asked as often as delays are used up.
An entry without retries to come has used them all. This holds in every run,
with completions delivered in any order and waits of earlier entries among them.
-/
namespace SimpleWebrtc.MediaFanout
open Library Library.Text SdpSummary

/-- A wait is still to be completed for a key under a token. -/
def HasWait (s : RouterState) (key : KeyframeRequestKey) (timerToken : ℕ) : Prop :=
  ∃ retry ∈ s.pending, retry.key = key ∧ retry.timerToken = timerToken ∧ retry.status ≠ .aborted

structure EntryArmed (s : RouterState) (key : KeyframeRequestKey) (state : KeyframeRequestState) :
    Prop where
  waiting : state.waitingSubscriberSessionIds ≠ ∅
  wait : state.retryActive = true → HasWait s key state.timerToken
  asked : state.retryActive = true → 0 < state.nextRetryDelayIndex ∧
    state.nextRetryDelayIndex ≤ kKeyframeRetryDelays.length ∧
      state.sentCount = state.nextRetryDelayIndex
  spent : state.retryActive = false →
    state.nextRetryDelayIndex = kKeyframeRetryDelays.length ∧
      kKeyframeRetryDelays.length < state.sentCount

def Armed (s : RouterState) : Prop :=
  ∀ key state, s.router.keyframeRequests.find? key = some state → EntryArmed s key state

/-! ## Fewer who wait -/

/-- Entries go, or lose some of those who wait, but not all. -/
def Thins (r r' : MediaFanoutRouter) : Prop :=
  ∀ key state', r'.keyframeRequests.find? key = some state' → ∃ state waiting,
    r.keyframeRequests.find? key = some state ∧
    state' = { state with waitingSubscriberSessionIds := waiting } ∧
    (state.waitingSubscriberSessionIds ≠ ∅ → waiting ≠ ∅)

namespace Thins
variable {r : MediaFanoutRouter}

theorem of_sub {r' : MediaFanoutRouter} (h : ∀ key state',
    r'.keyframeRequests.find? key = some state' →
      r.keyframeRequests.find? key = some state') : Thins r r' :=
  fun key state' hstate => ⟨state', _, h key state' hstate, rfl, id⟩

theorem erase {r' : MediaFanoutRouter} {key : KeyframeRequestKey}
    (h : r'.keyframeRequests = r.keyframeRequests.erase key) : Thins r r' := by
  apply of_sub
  intro key' state' hstate
  rw [h, AssocMap.find?_erase] at hstate
  split_ifs at hstate
  exact hstate

theorem cancelKeyframeRequestsForSubscriber (r : MediaFanoutRouter) (id : Text) :
    Thins r (r.cancelKeyframeRequestsForSubscriber id) := by
  intro key state' hstate
  simp only [MediaFanoutRouter.cancelKeyframeRequestsForSubscriber, AssocMap.find?_filter,
    AssocMap.find?_mapValues, Option.filter_eq_some_iff, Option.map_eq_some_iff,
    decide_eq_true_eq] at hstate
  obtain ⟨⟨state, hfind, rfl⟩, hsome⟩ := hstate
  exact ⟨state, _, hfind, rfl, fun _ => hsome⟩

theorem cancelStreamKeyframeRequests (r : MediaFanoutRouter) (streamId : Text) :
    Thins r (r.cancelStreamKeyframeRequests streamId) := by
  apply of_sub
  intro key state' hstate
  simp only [MediaFanoutRouter.cancelStreamKeyframeRequests, AssocMap.find?_filter,
    Option.filter_eq_some_iff] at hstate
  exact hstate.1

theorem completeKeyframeRequest (r : MediaFanoutRouter) (streamId id publisherSessionId : Text)
    (sourceGeneration : ℕ) (mediaSsrc : UInt32) :
    Thins r (r.completeKeyframeRequest streamId id publisherSessionId sourceGeneration
      mediaSsrc) := by
  unfold MediaFanoutRouter.completeKeyframeRequest
  split_ifs
  · exact of_sub fun _ _ h => h
  · simp only
    cases hfind : r.keyframeRequests.find?
        ⟨streamId, publisherSessionId, sourceGeneration, mediaSsrc⟩ with
    | none => exact of_sub fun _ _ h => h
    | some state =>
        simp only
        split_ifs with hempty
        · exact erase rfl
        · intro key state' hstate
          rw [AssocMap.find?_insertOrAssign] at hstate
          split_ifs at hstate with hkey
          · rw [hkey]
            exact ⟨state, _, hfind, (Option.some.inj hstate).symm, fun _ => hempty⟩
          · exact ⟨state', _, hstate, rfl, fun h => h⟩

theorem unsubscribe (r : MediaFanoutRouter) (id : Text) : Thins r (r.unsubscribe id) := by
  unfold MediaFanoutRouter.unsubscribe
  split_ifs
  · exact of_sub fun _ _ h => h
  · cases r.subscriptionsBySessionId.find? id with
    | none => exact of_sub fun _ _ h => h
    | some _ => exact cancelKeyframeRequestsForSubscriber r id

theorem cancelKeyframeRequests (r : MediaFanoutRouter) (id : Text) :
    Thins r (r.cancelKeyframeRequests id) := by
  unfold MediaFanoutRouter.cancelKeyframeRequests
  split_ifs
  · exact of_sub fun _ _ h => h
  · exact cancelKeyframeRequestsForSubscriber r id

theorem subscribe {streamId id : Text} {transport : ℕ} {result : MediaFanoutRouter × _ × _}
    (h : r.subscribe streamId id transport = some result) : Thins r result.1 := by
  unfold MediaFanoutRouter.subscribe at h
  split_ifs at h
  cases h
  exact of_sub fun _ _ h => h

theorem setPublisherSource {streamId publisherSessionId : Text} {offer : WebrtcOfferSummary}
    {result : MediaFanoutRouter × MediaPublisherSource}
    (h : r.setPublisherSource streamId publisherSessionId offer = some result) :
    Thins r result.1 := by
  unfold MediaFanoutRouter.setPublisherSource at h
  split_ifs at h
  cases h
  exact cancelStreamKeyframeRequests r streamId

theorem clearPublisherSource {streamId publisherSessionId : Text} {result : MediaFanoutRouter × ℕ}
    (h : r.clearPublisherSource streamId publisherSessionId = some result) :
    Thins r result.1 := by
  unfold MediaFanoutRouter.clearPublisherSource at h
  split_ifs at h
  split at h
  · cases h
  · split_ifs at h
    cases h
    exact cancelStreamKeyframeRequests r streamId

theorem publishSourceBye {streamId publisherSessionId : Text} {sourceGeneration : ℕ}
    {sourceSsrc : UInt32} {reason : Text} {result : MediaFanoutRouter × _ × _}
    (h : r.publishSourceBye streamId publisherSessionId sourceGeneration sourceSsrc reason =
      some result) : Thins r result.1 := by
  unfold MediaFanoutRouter.publishSourceBye at h
  split_ifs at h
  split at h
  · cases h
  · cases h
    exact erase rfl

theorem publishSenderTiming {streamId publisherSessionId : Text} {sourceGeneration : ℕ}
    {sourceSsrc : UInt32} {ntpTimestamp : UInt64}
    {sourceRtpTimestamp senderPacketCount senderOctetCount : UInt32}
    {result : MediaFanoutRouter × _ × _}
    (h : r.publishSenderTiming streamId publisherSessionId sourceGeneration sourceSsrc ntpTimestamp
      sourceRtpTimestamp senderPacketCount senderOctetCount = some result) : Thins r result.1 := by
  unfold MediaFanoutRouter.publishSenderTiming at h
  split_ifs at h
  split at h
  · cases h
  · cases h
    exact of_sub fun _ _ h => h

end Thins

/-! ## Waits and entries -/

/-- The wait of an entry which stays is left alone. -/
theorem HasWait.withRouter {s : RouterState} {router : MediaFanoutRouter}
    {key : KeyframeRequestKey} {timerToken : ℕ} (h : HasWait s key timerToken)
    (hentry : router.keyframeRequests.find? key ≠ none) :
    HasWait (s.withRouter router) key timerToken := by
  obtain ⟨retry, hmem, rfl, htoken, hstatus⟩ := h
  refine ⟨retry, List.mem_map.mpr ⟨retry, hmem, ?_⟩, rfl, htoken, hstatus⟩
  obtain ⟨state, hstate⟩ := Option.ne_none_iff_exists'.mp hentry
  simp only [PendingRetry.abortWithout, hstate]

/-- To start a wait aborts those of its own key only. -/
theorem HasWait.withWait {s : RouterState} {router : MediaFanoutRouter}
    {key other : KeyframeRequestKey} {timerToken : ℕ} (h : HasWait s key timerToken)
    (hentry : router.keyframeRequests.find? key ≠ none)
    (hother : key ≠ other ∨ startedWait s.router router other = none) :
    HasWait (s.withWait router other) key timerToken := by
  unfold RouterState.withWait
  cases hstarted : startedWait s.router router other with
  | none => exact h.withRouter hentry
  | some started =>
      obtain ⟨retry, hmem, rfl, htoken, hstatus⟩ := h.withRouter hentry
      refine ⟨retry, List.mem_append_left _ (List.mem_map.mpr ⟨retry, hmem, ?_⟩), rfl, htoken,
        hstatus⟩
      have hne : retry.key ≠ other := by
        apply hother.resolve_right
        rw [hstarted]
        exact Option.some_ne_none _
      rw [PendingRetry.abortFor, if_neg hne]

theorem hasWait_started {s : RouterState} {router : MediaFanoutRouter} {key : KeyframeRequestKey}
    {timerToken : ℕ} (h : startedWait s.router router key = some timerToken) :
    HasWait (s.withWait router key) key timerToken := by
  unfold RouterState.withWait
  rw [h]
  refine ⟨_, List.mem_append_right _ (List.mem_singleton_self _), rfl, rfl, ?_⟩
  intro hstatus
  cases hstatus

/-- A wait is started exactly where the token has changed. -/
theorem startedWait_eq {r r' : MediaFanoutRouter} {key : KeyframeRequestKey}
    {state : KeyframeRequestState} (h : r'.keyframeRequests.find? key = some state) :
    startedWait r r' key =
      if (r.keyframeRequests.find? key).map KeyframeRequestState.timerToken =
        some state.timerToken then none else some state.timerToken := by
  simp only [startedWait, h]

theorem startedWait_none {r r' : MediaFanoutRouter} {key : KeyframeRequestKey}
    (h : r'.keyframeRequests.find? key = none) : startedWait r r' key = none := by
  simp only [startedWait, h]

namespace Armed
variable {s : RouterState}

theorem congr {s' : RouterState} (h : Armed s) (hrouter : s'.router = s.router)
    (hpending : s'.pending = s.pending) : Armed s' := by
  intro key state hstate
  rw [hrouter] at hstate
  obtain ⟨hwaiting, hwait, hasked, hspent⟩ := h key state hstate
  refine ⟨hwaiting, fun hactive => ?_, hasked, hspent⟩
  rw [HasWait, hpending]
  exact hwait hactive

theorem withRouter (h : Armed s) {router : MediaFanoutRouter} (hthins : Thins s.router router) :
    Armed (s.withRouter router) := by
  intro key state' hstate'
  obtain ⟨state, waiting, hstate, rfl, hsome⟩ := hthins key state' hstate'
  obtain ⟨hwaiting, hwait, hasked, hspent⟩ := h key state hstate
  refine ⟨hsome hwaiting, fun hactive => (hwait hactive).withRouter ?_, hasked, hspent⟩
  rw [show router.keyframeRequests.find? key = _ from hstate']
  exact Option.some_ne_none _

/-- The entry of a key is made or changed, and all others stay. -/
theorem rearm {key : KeyframeRequestKey} {state' : KeyframeRequestState}
    (hothers : ∀ other state, other ≠ key → s.router.keyframeRequests.find? other = some state →
      EntryArmed s other state)
    (hwaiting : state'.waitingSubscriberSessionIds ≠ ∅)
    (hwait : state'.retryActive = true →
      (s.router.keyframeRequests.find? key).map KeyframeRequestState.timerToken ≠
        some state'.timerToken ∨ HasWait s key state'.timerToken)
    (hasked : state'.retryActive = true → 0 < state'.nextRetryDelayIndex ∧
      state'.nextRetryDelayIndex ≤ kKeyframeRetryDelays.length ∧
        state'.sentCount = state'.nextRetryDelayIndex)
    (hspent : state'.retryActive = false →
      state'.nextRetryDelayIndex = kKeyframeRetryDelays.length ∧
        kKeyframeRetryDelays.length < state'.sentCount) :
    Armed (s.withWait { s.router with
      keyframeRequests := s.router.keyframeRequests.insertOrAssign key state' } key) := by
  intro other state hstate
  rw [(RouterState.withWait_frame s _ key).1] at hstate
  have hfind := hstate
  rw [AssocMap.find?_insertOrAssign] at hfind
  split_ifs at hfind with hkey
  · subst hkey
    obtain rfl := Option.some.inj hfind
    refine ⟨hwaiting, fun hactive => ?_, hasked, hspent⟩
    have hstarted := startedWait_eq (r := s.router) hstate
    split_ifs at hstarted with hsame
    · apply ((hwait hactive).resolve_left (not_not.mpr hsame)).withWait _ (.inr hstarted)
      rw [hstate]
      exact Option.some_ne_none _
    · exact hasWait_started hstarted
  · obtain ⟨hwaiting, hwait, hasked, hspent⟩ := hothers other state hkey hfind
    refine ⟨hwaiting, fun hactive => (hwait hactive).withWait ?_ (.inl hkey), hasked, hspent⟩
    rw [hstate]
    exact Option.some_ne_none _

/-- The router stays as it is for all keys but one, which has no entry, or the same one. -/
theorem settle {router : MediaFanoutRouter} {key : KeyframeRequestKey}
    (hsub : ∀ other state, router.keyframeRequests.find? other = some state →
      s.router.keyframeRequests.find? other = some state)
    (harmed : ∀ other state, router.keyframeRequests.find? other = some state →
      EntryArmed s other state) : Armed (s.withWait router key) := by
  intro other state hstate
  rw [(RouterState.withWait_frame s _ key).1] at hstate
  obtain ⟨hwaiting, hwait, hasked, hspent⟩ := harmed other state hstate
  refine ⟨hwaiting, fun hactive => (hwait hactive).withWait ?_ ?_, hasked, hspent⟩
  · rw [hstate]
    exact Option.some_ne_none _
  · by_cases hkey : other = key
    · subst hkey
      right
      rw [startedWait_eq hstate, hsub other state hstate]
      exact if_pos rfl
    · exact .inl hkey

/-! ## Asking -/

end Armed

/-- A request joins the retries of its entry, or begins them. -/
theorem joinKeyframeRequest_cases (id : Text) (state : KeyframeRequestState) :
    (state.retryActive = true ∧ MediaFanoutRouter.joinKeyframeRequest id state = { state with
      waitingSubscriberSessionIds := insert id state.waitingSubscriberSessionIds }) ∨
    (state.retryActive = false ∧ MediaFanoutRouter.joinKeyframeRequest id state = {
      waitingSubscriberSessionIds := insert id state.waitingSubscriberSessionIds
      nextRetryDelayIndex := 1
      sentCount := 1
      timerToken := state.timerToken + 1
      retryActive := true }) := by
  unfold MediaFanoutRouter.joinKeyframeRequest
  cases hactive : state.retryActive with
  | true => exact .inl ⟨rfl, by simp⟩
  | false =>
      exact .inr ⟨rfl, by simp [MediaFanoutRouter.scheduleKeyframeRetry, kKeyframeRetryDelays]⟩

namespace Armed
variable {s : RouterState}

theorem requestKeyframe (h : Armed s) {streamId id publisherSessionId : Text}
    {sourceGeneration : ℕ} {mediaSsrc : UInt32} {result : MediaFanoutRouter × Bool}
    (hresult : s.router.requestKeyframe streamId id publisherSessionId sourceGeneration mediaSsrc =
      some result) :
    Armed (s.withWait result.1 ⟨streamId, publisherSessionId, sourceGeneration, mediaSsrc⟩) := by
  obtain ⟨-, hrouter⟩ := requestKeyframe_some hresult
  rw [hrouter]
  generalize (⟨streamId, publisherSessionId, sourceGeneration, mediaSsrc⟩ :
    KeyframeRequestKey) = key
  rcases joinKeyframeRequest_cases id ((s.router.keyframeRequests.find? key).getD {}) with
    ⟨hactive, heq⟩ | ⟨hinactive, heq⟩
  · obtain ⟨state, hstate⟩ : ∃ state, s.router.keyframeRequests.find? key = some state := by
      cases hfind : s.router.keyframeRequests.find? key with
      | none =>
          rw [hfind] at hactive
          cases hactive
      | some state => exact ⟨state, rfl⟩
    rw [hstate, Option.getD_some] at hactive heq
    obtain ⟨-, hwait, hasked, hspent⟩ := h key state hstate
    rw [hstate, Option.getD_some, heq]
    exact rearm (fun other state _ hother => h other state hother) (Finset.insert_ne_empty _ _)
      (fun hactive => .inr (hwait hactive)) hasked hspent
  · rw [heq]
    apply rearm (fun other state _ hother => h other state hother) (Finset.insert_ne_empty _ _)
    · intro _
      left
      cases s.router.keyframeRequests.find? key with
      | none => exact fun hsame => by cases hsame
      | some state => simp
    · exact fun _ => ⟨Nat.one_pos, Nat.le_of_ble_eq_true rfl, rfl⟩
    · intro hinactive'
      cases hinactive'

/-- A completion takes its own wait away, and the wait of no entry which stays as it is. -/
theorem retryCompleted (h : Armed s) {index : ℕ} {retry : PendingRetry}
    (hretry : s.pending[index]? = some retry) :
    Armed (RouterState.withWait { s with pending := s.pending.eraseIdx index }
      (s.router.handleKeyframeRetry retry.key retry.timerToken).1 retry.key) := by
  let s' : RouterState := { s with pending := s.pending.eraseIdx index }
  have hkept : ∀ key timerToken, HasWait s key timerToken →
      key ≠ retry.key ∨ timerToken ≠ retry.timerToken → HasWait s' key timerToken := by
    rintro key timerToken ⟨wait, hmem, rfl, rfl, hstatus⟩ hne
    refine ⟨wait, ?_, rfl, rfl, hstatus⟩
    obtain ⟨i, hi⟩ := List.mem_iff_getElem?.mp hmem
    refine List.mem_eraseIdx_iff_getElem?.mpr ⟨i, ?_, hi⟩
    rintro rfl
    rw [hretry, Option.some.injEq] at hi
    subst hi
    exact hne.elim (fun hkey => hkey rfl) fun htoken => htoken rfl
  have hentry : ∀ key state, s.router.keyframeRequests.find? key = some state →
      key ≠ retry.key ∨ state.timerToken ≠ retry.timerToken → EntryArmed s' key state := by
    intro key state hstate hne
    obtain ⟨hwaiting, hwait, hasked, hspent⟩ := h key state hstate
    exact ⟨hwaiting, fun hactive => hkept _ _ (hwait hactive) hne, hasked, hspent⟩
  unfold MediaFanoutRouter.handleKeyframeRetry
  cases hfind : s.router.keyframeRequests.find? retry.key with
  | none =>
      apply settle (s := s') fun _ _ hstate => hstate
      intro key state hstate
      refine hentry key state hstate (.inl ?_)
      rintro rfl
      rw [show s.router.keyframeRequests.find? retry.key = some state from hstate] at hfind
      cases hfind
  | some state =>
      have harmed := h retry.key state hfind
      simp only
      split_ifs with hstale
      · have htoken := hstale.resolve_right harmed.waiting
        apply settle (s := s') fun _ _ hstate => hstate
        intro key state' hstate
        refine hentry key state' hstate ?_
        by_cases hkey : key = retry.key
        · subst hkey
          rw [show s.router.keyframeRequests.find? retry.key = some state' from hstate,
            Option.some.injEq] at hfind
          rw [hfind]
          exact .inr htoken
        · exact .inl hkey
      · split
        · apply settle (s := s')
          · intro key state' hstate
            rw [AssocMap.find?_erase] at hstate
            split_ifs at hstate
            exact hstate
          · intro key state' hstate
            rw [AssocMap.find?_erase] at hstate
            split_ifs at hstate with hkey
            exact hentry key state' hstate (.inl hkey)
        · have hothers : ∀ other state, other ≠ retry.key →
              s'.router.keyframeRequests.find? other = some state → EntryArmed s' other state :=
            fun other state hne hother => hentry other state hother (.inl hne)
          unfold MediaFanoutRouter.scheduleKeyframeRetry
          split_ifs with hused
          · refine rearm (s := s') hothers ?_ ?_ ?_ ?_
            · exact harmed.waiting
            · intro hactive
              cases hactive
            · intro hactive
              cases hactive
            · intro _
              cases hactive : state.retryActive with
              | true =>
                  obtain ⟨-, hle, hsent⟩ := harmed.asked hactive
                  simp only at hused ⊢
                  omega
              | false =>
                  obtain ⟨hindex, hsent⟩ := harmed.spent hactive
                  simp only
                  omega
          · have hactive : state.retryActive = true := by
              cases hactive : state.retryActive with
              | true => rfl
              | false =>
                  obtain ⟨hindex, -⟩ := harmed.spent hactive
                  exact absurd hindex.ge hused
            obtain ⟨-, -, hsent⟩ := harmed.asked hactive
            refine rearm (s := s') hothers ?_ ?_ ?_ ?_
            · exact harmed.waiting
            · intro _
              left
              rw [show s'.router.keyframeRequests.find? retry.key = some state from hfind]
              simp
            · intro _
              simp only at hused ⊢
              omega
            · intro hinactive
              rw [show state.retryActive = false from hinactive] at hactive
              cases hactive

/-- A wait which was aborted is nobody's. -/
theorem without_aborted (h : Armed s) {index : ℕ} {retry : PendingRetry}
    (hretry : s.pending[index]? = some retry) (hstatus : retry.status = .aborted) :
    Armed { s with pending := s.pending.eraseIdx index } := by
  intro key state hstate
  obtain ⟨hwaiting, hwait, hasked, hspent⟩ := h key state hstate
  refine ⟨hwaiting, fun hactive => ?_, hasked, hspent⟩
  obtain ⟨wait, hmem, hkey, htoken, hlive⟩ := hwait hactive
  obtain ⟨i, hi⟩ := List.mem_iff_getElem?.mp hmem
  refine ⟨wait, List.mem_eraseIdx_iff_getElem?.mpr ⟨i, ?_, hi⟩, hkey, htoken, hlive⟩
  rintro rfl
  rw [hretry, Option.some.injEq] at hi
  rw [hi] at hstatus
  exact hlive hstatus

theorem timerExpired (h : Armed s) (index : ℕ) : Armed (s.perform (.timerExpired index)) := by
  intro key state hstate
  obtain ⟨hwaiting, hwait, hasked, hspent⟩ := h key state hstate
  refine ⟨hwaiting, fun hactive => ?_, hasked, hspent⟩
  obtain ⟨retry, hmem, hkey, htoken, hstatus⟩ := hwait hactive
  obtain ⟨i, hi⟩ := List.mem_iff_getElem?.mp hmem
  have hat : (s.pending.modify index PendingRetry.expire)[i]? =
      some (if index = i then retry.expire else retry) := by
    rw [List.getElem?_modify, hi]
    rfl
  refine ⟨_, List.mem_of_getElem? hat, ?_⟩
  unfold PendingRetry.expire
  split_ifs
  · refine ⟨hkey, htoken, ?_⟩
    intro habort
    cases habort
  · exact ⟨hkey, htoken, hstatus⟩
  · exact ⟨hkey, htoken, hstatus⟩

theorem perform (h : Armed s) (event : RouterEvent) : Armed (s.perform event) := by
  cases event with
  | subscribe streamId id transport =>
      simp only [RouterState.perform]
      split
      · exact h
      · rename_i router _ hresult
        exact h.withRouter (.subscribe hresult)
  | unsubscribe id => exact h.withRouter (.unsubscribe _ _)
  | setPublisherSource streamId publisherSessionId offer =>
      simp only [RouterState.perform]
      split
      · exact h
      · rename_i router source hresult
        exact (h.withRouter (Thins.setPublisherSource hresult)).congr rfl rfl
  | clearPublisherSource streamId publisherSessionId =>
      simp only [RouterState.perform]
      split
      · exact h
      · rename_i router generation hresult
        exact (h.withRouter (Thins.clearPublisherSource hresult)).congr rfl rfl
  | requestKeyframe streamId id publisherSessionId sourceGeneration mediaSsrc =>
      simp only [RouterState.perform]
      split
      · exact h
      · rename_i router asks hresult
        obtain ⟨hrouter, hpending, -⟩ := RouterState.beginCycle_frame s
          ⟨streamId, publisherSessionId, sourceGeneration, mediaSsrc⟩
        have hbegun := h.congr hrouter hpending
        rw [← hrouter] at hresult
        exact hbegun.requestKeyframe hresult
  | completeKeyframeRequest streamId id publisherSessionId sourceGeneration mediaSsrc =>
      exact h.withRouter (.completeKeyframeRequest _ _ _ _ _ _)
  | cancelKeyframeRequests id => exact h.withRouter (.cancelKeyframeRequests _ _)
  | publishRtp streamId publisherSessionId packet => exact h
  | publishSourceBye streamId publisherSessionId sourceGeneration sourceSsrc reason =>
      simp only [RouterState.perform]
      split
      · exact h
      · rename_i router _ hresult
        exact h.withRouter (Thins.publishSourceBye hresult)
  | publishSenderTiming streamId publisherSessionId sourceGeneration sourceSsrc ntpTimestamp
      sourceRtpTimestamp senderPacketCount senderOctetCount =>
      simp only [RouterState.perform]
      split
      · exact h
      · rename_i router _ hresult
        exact h.withRouter (Thins.publishSenderTiming hresult)
  | timerExpired index => exact h.timerExpired index
  | retryCompleted index =>
      simp only [RouterState.perform]
      split
      · exact h
      · rename_i retry hretry
        split
        · exact h
        · rename_i hstatus
          exact h.without_aborted hretry hstatus
        · exact h.retryCompleted hretry

end Armed

theorem Armed.of_run {events : List RouterEvent} {s : RouterState}
    (h : RouterState.system.Run events s) : Armed s := by
  refine h.invariant ?_ ?_
  · rintro s rfl key state hstate
    cases hstate
  · intro s event s' hs hstep
    rw [← Option.some.inj hstep]
    exact hs.perform event

end SimpleWebrtc.MediaFanout
