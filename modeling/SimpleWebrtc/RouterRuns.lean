import SimpleWebrtc.Library.Runs
import SimpleWebrtc.MediaFanoutRouter

/-!
# Runs of the media fanout router

Every operation of the router is an event, and so are the expiry of a retry timer
and the delivery of the completion it leads to. To cancel a timer, or to set it
again, aborts a wait which has not expired yet. One which has is delivered as if
the timer had not been touched. Next to the router stands what its operations do
not keep: the waits, and for every entry of the keyframe requests which cycle of
its key it is.
-/
namespace SimpleWebrtc.MediaFanout
open Library Library.Text SdpSummary

inductive WaitStatus where
  | waiting
  | expired
  | aborted
deriving DecidableEq

/-- A wait of a retry timer, with the cycle of its key that started it. -/
structure PendingRetry where
  key : KeyframeRequestKey
  timerToken : ℕ
  cycle : ℕ
  status : WaitStatus := .waiting
deriving DecidableEq

structure RouterState where
  router : MediaFanoutRouter := {}
  pending : List PendingRetry := []
  cycleOf : AssocMap KeyframeRequestKey ℕ := AssocMap.empty
  nextCycle : ℕ := 0
  allocated : List ℕ := []

inductive RouterEvent where
  | subscribe (streamId subscriberSessionId : Text) (transport : ℕ)
  | unsubscribe (subscriberSessionId : Text)
  | setPublisherSource (streamId publisherSessionId : Text) (publisherOffer : WebrtcOfferSummary)
  | clearPublisherSource (streamId publisherSessionId : Text)
  | requestKeyframe (streamId subscriberSessionId publisherSessionId : Text) (sourceGeneration : ℕ)
      (mediaSsrc : UInt32)
  | completeKeyframeRequest (streamId subscriberSessionId publisherSessionId : Text)
      (sourceGeneration : ℕ) (mediaSsrc : UInt32)
  | cancelKeyframeRequests (subscriberSessionId : Text)
  | publishRtp (streamId publisherSessionId : Text) (packet : List UInt8)
  | publishSourceBye (streamId publisherSessionId : Text) (sourceGeneration : ℕ)
      (sourceSsrc : UInt32) (reason : Text)
  | publishSenderTiming (streamId publisherSessionId : Text) (sourceGeneration : ℕ)
      (sourceSsrc : UInt32) (ntpTimestamp : UInt64)
      (sourceRtpTimestamp senderPacketCount senderOctetCount : UInt32)
  | timerExpired (index : ℕ)
  | retryCompleted (index : ℕ)

/-- The token of the wait an operation has started for a key. -/
def startedWait (before after : MediaFanoutRouter) (key : KeyframeRequestKey) : Option ℕ :=
  match after.keyframeRequests.find? key with
  | none => none
  | some state =>
      if (before.keyframeRequests.find? key).map KeyframeRequestState.timerToken =
        some state.timerToken then none
      else some state.timerToken

namespace PendingRetry
variable (retry : PendingRetry)

def expire : PendingRetry :=
  if retry.status = .waiting then { retry with status := .expired } else retry

def abort : PendingRetry :=
  if retry.status = .waiting then { retry with status := .aborted } else retry

/-- The timer of an entry goes with it. -/
def abortWithout (router : MediaFanoutRouter) : PendingRetry :=
  match router.keyframeRequests.find? retry.key with
  | none => retry.abort
  | some _ => retry

/-- A timer which is set again gives up its wait. -/
def abortFor (key : KeyframeRequestKey) : PendingRetry :=
  if retry.key = key then retry.abort else retry

end PendingRetry

namespace RouterState
variable (s : RouterState)

def withRouter (router : MediaFanoutRouter) : RouterState :=
  { s with
    router
    pending := s.pending.map fun retry => retry.abortWithout router }

/-- The router has changed, and may have started a wait for a key. -/
def withWait (router : MediaFanoutRouter) (key : KeyframeRequestKey) : RouterState :=
  match startedWait s.router router key with
  | none => s.withRouter router
  | some timerToken =>
      { s.withRouter router with
        pending := (s.withRouter router).pending.map (fun retry => retry.abortFor key) ++
          [{ key, timerToken, cycle := (s.cycleOf.find? key).getD 0 }] }

/-- A key without an entry begins a cycle. -/
def beginCycle (key : KeyframeRequestKey) : RouterState :=
  match s.router.keyframeRequests.find? key with
  | some _ => s
  | none =>
      { s with
        cycleOf := s.cycleOf.insertOrAssign key s.nextCycle
        nextCycle := s.nextCycle + 1 }

def perform : RouterEvent → RouterState
  | .subscribe streamId subscriberSessionId transport =>
      match s.router.subscribe streamId subscriberSessionId transport with
      | none => s
      | some (router, _) => s.withRouter router
  | .unsubscribe subscriberSessionId => s.withRouter (s.router.unsubscribe subscriberSessionId)
  | .setPublisherSource streamId publisherSessionId publisherOffer =>
      match s.router.setPublisherSource streamId publisherSessionId publisherOffer with
      | none => s
      | some (router, source) => { s.withRouter router with
          allocated := s.allocated ++ [source.generation] }
  | .clearPublisherSource streamId publisherSessionId =>
      match s.router.clearPublisherSource streamId publisherSessionId with
      | none => s
      | some (router, generation) => { s.withRouter router with
          allocated := s.allocated ++ [generation] }
  | .requestKeyframe streamId subscriberSessionId publisherSessionId sourceGeneration mediaSsrc =>
      match s.router.requestKeyframe streamId subscriberSessionId publisherSessionId
          sourceGeneration mediaSsrc with
      | none => s
      | some (router, _) =>
          let key : KeyframeRequestKey :=
            ⟨streamId, publisherSessionId, sourceGeneration, mediaSsrc⟩
          (s.beginCycle key).withWait router key
  | .completeKeyframeRequest streamId subscriberSessionId publisherSessionId sourceGeneration
      mediaSsrc =>
      s.withRouter (s.router.completeKeyframeRequest streamId subscriberSessionId
        publisherSessionId sourceGeneration mediaSsrc)
  | .cancelKeyframeRequests subscriberSessionId =>
      s.withRouter (s.router.cancelKeyframeRequests subscriberSessionId)
  | .publishRtp _ _ _ => s
  | .publishSourceBye streamId publisherSessionId sourceGeneration sourceSsrc reason =>
      match s.router.publishSourceBye streamId publisherSessionId sourceGeneration sourceSsrc
          reason with
      | none => s
      | some (router, _) => s.withRouter router
  | .publishSenderTiming streamId publisherSessionId sourceGeneration sourceSsrc ntpTimestamp
      sourceRtpTimestamp senderPacketCount senderOctetCount =>
      match s.router.publishSenderTiming streamId publisherSessionId sourceGeneration sourceSsrc
          ntpTimestamp sourceRtpTimestamp senderPacketCount senderOctetCount with
      | none => s
      | some (router, _) => s.withRouter router
  | .timerExpired index => { s with pending := s.pending.modify index PendingRetry.expire }
  | .retryCompleted index =>
      match s.pending[index]? with
      | none => s
      | some retry =>
          let s' := { s with pending := s.pending.eraseIdx index }
          match retry.status with
          | .waiting => s
          | .aborted => s'
          | .expired =>
              s'.withWait (s'.router.handleKeyframeRetry retry.key retry.timerToken).1 retry.key

/-- What starting a wait leaves alone. -/
theorem withWait_frame (s : RouterState) (router : MediaFanoutRouter) (key : KeyframeRequestKey) :
    (s.withWait router key).router = router ∧ (s.withWait router key).cycleOf = s.cycleOf ∧
      (s.withWait router key).allocated = s.allocated := by
  unfold withWait
  cases startedWait s.router router key with
  | none => exact ⟨rfl, rfl, rfl⟩
  | some timerToken => exact ⟨rfl, rfl, rfl⟩

theorem beginCycle_frame (s : RouterState) (key : KeyframeRequestKey) :
    (s.beginCycle key).router = s.router ∧ (s.beginCycle key).pending = s.pending ∧
      (s.beginCycle key).allocated = s.allocated := by
  unfold beginCycle
  cases s.router.keyframeRequests.find? key with
  | none => exact ⟨rfl, rfl, rfl⟩
  | some state => exact ⟨rfl, rfl, rfl⟩

def system : EventSystem RouterState RouterEvent :=
  .ofStep (fun s => s = {}) fun s e => some (s.perform e)

end RouterState

/-! ## What the operations do to the keyframe requests -/

/-- An entry with fewer waiting subscribers, but not without any. -/
structure Shrunk (state state' : KeyframeRequestState) : Prop where
  timerToken : state'.timerToken = state.timerToken
  waiting : state'.waitingSubscriberSessionIds ⊆ state.waitingSubscriberSessionIds
  nonempty : state.waitingSubscriberSessionIds ≠ ∅ → state'.waitingSubscriberSessionIds ≠ ∅

theorem Shrunk.refl (state : KeyframeRequestState) : Shrunk state state :=
  ⟨rfl, Finset.Subset.refl _, id⟩

/-- Entries are dropped or shrink; none is made. -/
def Shrinks (before after : MediaFanoutRouter) : Prop :=
  ∀ key state', after.keyframeRequests.find? key = some state' →
    ∃ state, before.keyframeRequests.find? key = some state ∧ Shrunk state state'

namespace Shrinks
variable {r : MediaFanoutRouter}

theorem of_eq {r' : MediaFanoutRouter} (h : r'.keyframeRequests = r.keyframeRequests) :
    Shrinks r r' := by
  intro key state' hfind
  rw [h] at hfind
  exact ⟨state', hfind, .refl state'⟩

theorem cancelKeyframeRequestsForSubscriber (r : MediaFanoutRouter) (id : Text) :
    Shrinks r (r.cancelKeyframeRequestsForSubscriber id) := by
  intro key state' hfind
  simp only [MediaFanoutRouter.cancelKeyframeRequestsForSubscriber, AssocMap.find?_filter,
    AssocMap.find?_mapValues, Option.filter_eq_some_iff, Option.map_eq_some_iff,
    decide_eq_true_eq] at hfind
  obtain ⟨⟨state, hstate, rfl⟩, hnonempty⟩ := hfind
  exact ⟨state, hstate, rfl, Finset.erase_subset _ _, fun _ => hnonempty⟩

theorem cancelStreamKeyframeRequests (r : MediaFanoutRouter) (streamId : Text) :
    Shrinks r (r.cancelStreamKeyframeRequests streamId) := by
  intro key state' hfind
  simp only [MediaFanoutRouter.cancelStreamKeyframeRequests, AssocMap.find?_filter,
    Option.filter_eq_some_iff] at hfind
  exact ⟨state', hfind.1, .refl state'⟩

theorem cancelKeyframeRequests (r : MediaFanoutRouter) (id : Text) :
    Shrinks r (r.cancelKeyframeRequests id) := by
  unfold MediaFanoutRouter.cancelKeyframeRequests
  split_ifs
  · exact of_eq rfl
  · exact cancelKeyframeRequestsForSubscriber r id

theorem unsubscribe (r : MediaFanoutRouter) (id : Text) : Shrinks r (r.unsubscribe id) := by
  unfold MediaFanoutRouter.unsubscribe
  split_ifs
  · exact of_eq rfl
  · cases r.subscriptionsBySessionId.find? id with
    | none => exact of_eq rfl
    | some _ => exact cancelKeyframeRequestsForSubscriber r id

theorem completeKeyframeRequest (r : MediaFanoutRouter) (streamId id publisherSessionId : Text)
    (sourceGeneration : ℕ) (mediaSsrc : UInt32) :
    Shrinks r (r.completeKeyframeRequest streamId id publisherSessionId sourceGeneration
      mediaSsrc) := by
  unfold MediaFanoutRouter.completeKeyframeRequest
  split_ifs
  · exact of_eq rfl
  · simp only
    cases hfind : r.keyframeRequests.find?
        ⟨streamId, publisherSessionId, sourceGeneration, mediaSsrc⟩ with
    | none => exact of_eq rfl
    | some state =>
        simp only
        intro key state' hstate
        split_ifs at hstate with hempty
        · rw [AssocMap.find?_erase] at hstate
          split_ifs at hstate
          exact ⟨state', hstate, .refl state'⟩
        · rw [AssocMap.find?_insertOrAssign] at hstate
          split_ifs at hstate with hkey
          · subst hkey
            cases hstate
            exact ⟨state, hfind, rfl, Finset.erase_subset _ _, fun _ => hempty⟩
          · exact ⟨state', hstate, .refl state'⟩

theorem publishSourceBye {streamId publisherSessionId : Text} {sourceGeneration : ℕ}
    {sourceSsrc : UInt32} {reason : Text} {result : MediaFanoutRouter × _ × _}
    (h : r.publishSourceBye streamId publisherSessionId sourceGeneration sourceSsrc reason =
      some result) : Shrinks r result.1 := by
  unfold MediaFanoutRouter.publishSourceBye at h
  split_ifs at h
  cases hsource : r.findCurrentSource streamId publisherSessionId sourceGeneration with
  | none =>
      rw [hsource] at h
      cases h
  | some source =>
      rw [hsource] at h
      cases h
      intro key state' hstate
      simp only [AssocMap.find?_erase] at hstate
      split_ifs at hstate
      exact ⟨state', hstate, .refl state'⟩

theorem setPublisherSource {streamId publisherSessionId : Text} {offer : WebrtcOfferSummary}
    {result : MediaFanoutRouter × _}
    (h : r.setPublisherSource streamId publisherSessionId offer = some result) :
    Shrinks r result.1 := by
  unfold MediaFanoutRouter.setPublisherSource at h
  split_ifs at h
  cases h
  exact cancelStreamKeyframeRequests r streamId

theorem clearPublisherSource {streamId publisherSessionId : Text} {result : MediaFanoutRouter × ℕ}
    (h : r.clearPublisherSource streamId publisherSessionId = some result) :
    Shrinks r result.1 := by
  unfold MediaFanoutRouter.clearPublisherSource at h
  split_ifs at h
  cases hsource : r.publisherSourcesByStreamId.find? streamId with
  | none =>
      rw [hsource] at h
      cases h
  | some source =>
      simp only [hsource] at h
      split_ifs at h
      cases h
      exact cancelStreamKeyframeRequests r streamId

theorem subscribe {streamId id : Text} {transport : ℕ} {result : MediaFanoutRouter × _ × _}
    (h : r.subscribe streamId id transport = some result) : Shrinks r result.1 := by
  unfold MediaFanoutRouter.subscribe at h
  split_ifs at h
  cases h
  exact of_eq rfl

theorem publishSenderTiming {streamId publisherSessionId : Text} {sourceGeneration : ℕ}
    {sourceSsrc : UInt32} {ntpTimestamp : UInt64}
    {sourceRtpTimestamp senderPacketCount senderOctetCount : UInt32}
    {result : MediaFanoutRouter × _ × _}
    (h : r.publishSenderTiming streamId publisherSessionId sourceGeneration sourceSsrc ntpTimestamp
      sourceRtpTimestamp senderPacketCount senderOctetCount = some result) :
    Shrinks r result.1 := by
  unfold MediaFanoutRouter.publishSenderTiming at h
  split_ifs at h
  cases hsource : r.findCurrentSource streamId publisherSessionId sourceGeneration with
  | none =>
      rw [hsource] at h
      cases h
  | some source =>
      rw [hsource] at h
      cases h
      exact of_eq rfl

end Shrinks

/-- The checks of a request. -/
structure AcceptsRequest (r : MediaFanoutRouter) (streamId id publisherSessionId : Text)
    (sourceGeneration : ℕ) (mediaSsrc : UInt32) : Prop where
  named : ¬(streamId = [] ∨ id = [] ∨ publisherSessionId = [] ∨ sourceGeneration = 0 ∨ mediaSsrc = 0)
  subscribed : (r.subscriptionsBySessionId.find? id).map Subscription.streamId = some streamId
  current : (r.findCurrentSource streamId publisherSessionId sourceGeneration).isSome = true

/-- A request which is accepted joins or makes the entry of its key. -/
theorem requestKeyframe_some {r : MediaFanoutRouter} {streamId id publisherSessionId : Text}
    {sourceGeneration : ℕ} {mediaSsrc : UInt32} {result : MediaFanoutRouter × Bool}
    (h : r.requestKeyframe streamId id publisherSessionId sourceGeneration mediaSsrc =
      some result) :
    AcceptsRequest r streamId id publisherSessionId sourceGeneration mediaSsrc ∧
    result.1 = { r with
      keyframeRequests := r.keyframeRequests.insertOrAssign
        ⟨streamId, publisherSessionId, sourceGeneration, mediaSsrc⟩
        (MediaFanoutRouter.joinKeyframeRequest id
          ((r.keyframeRequests.find?
            ⟨streamId, publisherSessionId, sourceGeneration, mediaSsrc⟩).getD {})) } := by
  unfold MediaFanoutRouter.requestKeyframe at h
  split_ifs at h with hempty hsubscribed
  cases hsource : r.findCurrentSource streamId publisherSessionId sourceGeneration with
  | none =>
      rw [hsource] at h
      cases h
  | some source =>
      rw [hsource] at h
      cases h
      refine ⟨⟨hempty, not_not.mp hsubscribed, ?_⟩, rfl⟩
      rw [hsource]
      rfl

/-- A retry does nothing, drops the entry of its key, or asks again. -/
theorem handleKeyframeRetry_cases (r : MediaFanoutRouter) (key : KeyframeRequestKey)
    (timerToken : ℕ) :
    r.handleKeyframeRetry key timerToken = (r, false) ∨
    ∃ state, r.keyframeRequests.find? key = some state ∧ state.timerToken = timerToken ∧
      (r.findCurrentSource key.streamId key.publisherSessionId key.sourceGeneration = none ∧
        r.handleKeyframeRetry key timerToken =
          ({ r with keyframeRequests := r.keyframeRequests.erase key }, false) ∨
      r.handleKeyframeRetry key timerToken =
        ({ r with
          keyframeRequests := r.keyframeRequests.insertOrAssign key
            (MediaFanoutRouter.scheduleKeyframeRetry
              { state with sentCount := state.sentCount + 1 }) }, true)) := by
  unfold MediaFanoutRouter.handleKeyframeRetry
  cases hfind : r.keyframeRequests.find? key with
  | none => exact .inl rfl
  | some state =>
      simp only
      split_ifs with hstale
      · exact .inl rfl
      · right
        refine ⟨state, rfl, not_not.mp fun h => hstale (.inl h), ?_⟩
        cases hsource : r.findCurrentSource key.streamId key.publisherSessionId
            key.sourceGeneration with
        | none => exact .inl ⟨rfl, rfl⟩
        | some source => exact .inr rfl

/-- The token of an entry goes up where its retries go on. -/
theorem scheduleKeyframeRetry_timerToken (state : KeyframeRequestState) :
    (MediaFanoutRouter.scheduleKeyframeRetry state).timerToken = state.timerToken ∨
      (MediaFanoutRouter.scheduleKeyframeRetry state).timerToken = state.timerToken + 1 := by
  unfold MediaFanoutRouter.scheduleKeyframeRetry
  split_ifs
  · exact .inl rfl
  · exact .inr rfl

theorem scheduleKeyframeRetry_waiting (state : KeyframeRequestState) :
    (MediaFanoutRouter.scheduleKeyframeRetry state).waitingSubscriberSessionIds =
      state.waitingSubscriberSessionIds := by
  unfold MediaFanoutRouter.scheduleKeyframeRetry
  split_ifs
  · rfl
  · rfl

/-! ## A stream which is watched -/

def retriedKey : KeyframeRequestKey := ⟨ascii "live", ascii "publisher", 1, 7⟩

def askingForKeyframe : RouterEvent :=
  .requestKeyframe (ascii "live") (ascii "subscriber") (ascii "publisher") 1 7

def subscribing : RouterEvent := .subscribe (ascii "live") (ascii "subscriber") 0

def publishing : RouterEvent := .setPublisherSource (ascii "live") (ascii "publisher") {}

def publishedState : RouterState := (RouterState.perform {} subscribing).perform publishing

def askedState : RouterState := publishedState.perform askingForKeyframe

end SimpleWebrtc.MediaFanout
