import SimpleWebrtc.ArmedRetries
import SimpleWebrtc.ConfiguredRewriter
import SimpleWebrtc.KeyframeRuns
import SimpleWebrtc.RewriterOutput

/-!
# Keyframes which are still asked for

What the sessions do to the router is a run of the router's own operations, so
what holds in every run of the router holds of it under all its subscribers. As
long as no retry finds its delays used up, a session which waits for a keyframe
has a retry to come.
-/
namespace SimpleWebrtc.WhepMedia
open Library Library.Text SdpSummary MediaFanout WhepSession WhipMedia RtcpCompoundPacket

/-! ## The operations of the router -/

/-- The router has got from one state to the other by operations of its own. -/
def Reaches (s s' : RouterState) : Prop :=
  ∃ events : List RouterEvent, s' = events.foldl RouterState.perform s

namespace Reaches
variable {s s' s'' : RouterState}

theorem refl (s : RouterState) : Reaches s s := ⟨[], rfl⟩

theorem trans (h : Reaches s s') (h' : Reaches s' s'') : Reaches s s'' := by
  obtain ⟨events, rfl⟩ := h
  obtain ⟨events', rfl⟩ := h'
  exact ⟨events ++ events', List.foldl_append.symm⟩

/-- What every step of a loop does, the loop does. -/
theorem foldl {σ α : Type*} (routing : σ → RouterState) {f : σ → α → σ}
    (hf : ∀ w a, Reaches (routing w) (routing (f w a))) (w : σ) (as : List α) :
    Reaches (routing w) (routing (as.foldl f w)) := by
  induction as generalizing w with
  | nil => exact refl _
  | cons a as ih => exact (hf w a).trans (ih (f w a))

theorem dispatchKeyframeRequest (w : Recovering) (context : KeyframeRequestContext) :
    Reaches w.routing (w.dispatchKeyframeRequest context).routing := by
  unfold Recovering.dispatchKeyframeRequest
  simp only
  split_ifs
  · split
    · exact ⟨[.requestKeyframe w.transport.session.streamId w.transport.session.sessionId
        context.publisherSessionId context.sourceGeneration context.sourceSsrc], rfl⟩
    · exact refl _
  · exact refl _

theorem completeKeyframeRequest (w : Recovering) (context : KeyframeRequestContext) :
    Reaches w.routing (w.completeKeyframeRequest context).routing := by
  unfold Recovering.completeKeyframeRequest
  simp only
  split_ifs
  · exact ⟨[.completeKeyframeRequest w.transport.session.streamId w.transport.session.sessionId
      context.publisherSessionId context.sourceGeneration context.sourceSsrc], rfl⟩
  · exact refl _

theorem cancelKeyframeRecovery (w : Recovering) :
    Reaches w.routing w.cancelKeyframeRecovery.routing :=
  ⟨[.cancelKeyframeRequests w.transport.session.sessionId], rfl⟩

theorem finishRecovery (w : Recovering) (step : MediaTransport.RecoveryStep) :
    Reaches w.routing (w.finishRecovery step).routing := by
  unfold Recovering.finishRecovery
  cases step.completed with
  | none =>
      cases step.request with
      | none => exact refl _
      | some context => exact dispatchKeyframeRequest { w with transport := step.transport } context
  | some completed =>
      have hcompleted := completeKeyframeRequest { w with transport := step.transport } completed
      cases step.request with
      | none => exact hcompleted
      | some context => exact hcompleted.trans (dispatchKeyframeRequest _ context)

theorem followKeyframes (w : Recovering) (sourceGeneration : ℕ)
    (rewritten : RtpRewriter.RewriteResult) :
    Reaches w.routing (w.followKeyframes sourceGeneration rewritten).routing := by
  unfold Recovering.followKeyframes
  split
  · exact refl _
  · split_ifs
    · exact refl _
    · have hbegun : Reaches w.routing (w.beginRecovery rewritten).routing := by
        unfold Recovering.beginRecovery
        split_ifs
        · exact cancelKeyframeRecovery w
        · exact refl _
      exact hbegun.trans (finishRecovery _ _)

theorem sendRtp (w : Recovering) (now : ℤ) (srtp : SrtpAnswers) (sourceGeneration : ℕ)
    (plainRtp : List UInt8) :
    Reaches w.routing (w.sendRtp now srtp sourceGeneration plainRtp).routing := by
  unfold Recovering.sendRtp
  split
  · exact refl _
  · rename_i t rewritten _
    exact followKeyframes { w with transport := t } sourceGeneration rewritten

theorem handleKeyframeFeedback (compound : RtcpCompoundPacket) (w : Recovering) :
    Reaches w.routing (w.handleKeyframeFeedback compound).routing :=
  foldl Recovering.routing dispatchKeyframeRequest { w with transport := _ } _

theorem nominate (endpoint : Stun.UdpEndpoint) (rebound : Except Text Bool) (w : Recovering) :
    Reaches w.routing (w.nominate endpoint rebound).routing := by
  unfold Recovering.nominate
  simp only
  split_ifs
  · exact refl _
  · exact refl _
  · exact cancelKeyframeRecovery { w with transport := _ }

variable (w : MediaSystem)

theorem recover {f : Recovering → Recovering} (hf : ∀ w, Reaches w.routing (f w).routing)
    (transport : ℕ) : Reaches w.routing (w.recover f transport).routing := by
  unfold MediaSystem.recover
  split
  · exact refl _
  · rename_i t _
    exact hf ⟨w.routing, t⟩

theorem tell (f : MediaTransport → MediaTransport) (transport : ℕ) :
    Reaches w.routing (w.tell f transport).routing := by
  rw [MediaSystem.tell_routing]
  exact refl _

theorem closeTransport (transport : ℕ) :
    Reaches w.routing (w.closeTransport transport).routing := by
  unfold MediaSystem.closeTransport
  split
  · exact refl _
  · rename_i t _
    exact ⟨[.unsubscribe t.session.sessionId], rfl⟩

theorem notifyPublisherFailure (order : VisitOrder ℕ) (transport : ℕ) :
    Reaches w.routing (w.notifyPublisherFailure order transport).routing := by
  unfold MediaSystem.notifyPublisherFailure
  split
  · exact refl _
  · simp only
    split
    · exact refl _
    · exact foldl MediaSystem.routing closeTransport { w with transports := _ } _

theorem handlePublisherSource (order : VisitOrder ℕ) (update : MediaPublisherSourceUpdate)
    (transport : ℕ) :
    Reaches w.routing (MediaSystem.handlePublisherSource order update w transport).routing := by
  unfold MediaSystem.handlePublisherSource
  split
  · exact refl _
  · rename_i t _
    split_ifs
    · exact refl _
    · simp only
      have hcancelled : Reaches w.routing
          (w.routing.perform (.cancelKeyframeRequests t.session.sessionId)) :=
        ⟨[.cancelKeyframeRequests t.session.sessionId], rfl⟩
      split_ifs
      · exact hcancelled
      · exact hcancelled.trans (notifyPublisherFailure { w with
          routing := w.routing.perform (.cancelKeyframeRequests t.session.sessionId)
          transports := w.transports.set transport (t.acceptPublisherSource update).1 } order
            transport)

theorem join (order : VisitOrder ℕ) (streamId sessionId : Text)
    (target : RewriterConfig.WhepRtpRewriterTarget) :
    Reaches w.routing (w.join order streamId sessionId target).routing := by
  rcases join_cases w order streamId sessionId target with heq | ⟨-, m, hm, heq⟩
  · rw [heq]
    exact refl _
  · rw [heq]
    have htold : Reaches w.routing (MediaSystem.handlePublisherSource order (told w streamId)
        (subscribed w streamId sessionId target) w.transports.length).routing :=
      @trans _ (subscribed w streamId sessionId target).routing _
        ⟨[.subscribe streamId sessionId w.transports.length], rfl⟩
        (handlePublisherSource _ order _ _)
    rw [hm]
    exact htold.trans (foldl MediaSystem.routing (fun m _ => tell m _ _) _ _)

/-- The router has done its operation, and the sessions are told of it. -/
theorem performed (event : RouterEvent) {f : MediaSystem → ℕ → MediaSystem}
    (hf : ∀ m i, Reaches m.routing (f m i).routing) (order : List ℕ) :
    Reaches w.routing
      (order.foldl f { w with routing := w.routing.perform event }).routing := by
  have hperformed : Reaches w.routing (w.routing.perform event) := ⟨[event], rfl⟩
  exact hperformed.trans
    (foldl MediaSystem.routing hf { w with routing := w.routing.perform event } order)

theorem perform_event (event : MediaEvent) : Reaches w.routing (w.perform event).routing := by
  cases event with
  | join order streamId sessionId target => exact join w order streamId sessionId target
  | leave transport => exact closeTransport w transport
  | setPublisherSource notifying closing streamId publisherSessionId publisherOffer =>
      simp only [MediaSystem.perform, MediaSystem.setPublisherSource]
      split
      · exact refl _
      · exact performed w (.setPublisherSource streamId publisherSessionId publisherOffer)
          (fun m i => handlePublisherSource m closing _ i) _
  | clearPublisherSource notifying closing streamId publisherSessionId =>
      simp only [MediaSystem.perform, MediaSystem.clearPublisherSource]
      split
      · exact refl _
      · exact performed w (.clearPublisherSource streamId publisherSessionId)
          (fun m i => handlePublisherSource m closing _ i) _
  | publishRtp delivery streamId publisherSessionId packet =>
      simp only [MediaSystem.perform, MediaSystem.publishRtp]
      split
      · exact refl _
      · refine foldl MediaSystem.routing (fun m i => ?_) w _
        rw [MediaSystem.sendRtp_eq_recover]
        exact recover m (fun m => sendRtp m _ _ _ _) i
  | publishSourceBye order streamId publisherSessionId sourceGeneration sourceSsrc reason =>
      simp only [MediaSystem.perform, MediaSystem.publishSourceBye]
      split
      · exact refl _
      · exact performed w
          (.publishSourceBye streamId publisherSessionId sourceGeneration sourceSsrc reason)
          (fun m i => tell m _ i) _
  | publishSenderTiming order streamId publisherSessionId sourceGeneration sourceSsrc ntpTimestamp
      sourceRtpTimestamp senderPacketCount senderOctetCount =>
      simp only [MediaSystem.perform, MediaSystem.publishSenderTiming]
      split
      · exact refl _
      · exact performed w
          (.publishSenderTiming streamId publisherSessionId sourceGeneration sourceSsrc ntpTimestamp
            sourceRtpTimestamp senderPacketCount senderOctetCount)
          (fun m i => tell m _ i) _
  | keyframeFeedback transport plainRtcp =>
      simp only [MediaSystem.perform, MediaSystem.handleKeyframeFeedback]
      split
      · exact refl _
      · exact recover w (handleKeyframeFeedback _) transport
  | nominate transport endpoint rebound =>
      exact recover w (nominate endpoint rebound) transport
  | timerExpired index => exact ⟨[.timerExpired index], rfl⟩
  | retryCompleted index => exact ⟨[.retryCompleted index], rfl⟩

end Reaches

/-! ## A subscriber which waits -/

def protecting : Delivery where
  now := 0
  srtp _ := ⟨.ok true, fun _ => .ok { state := .protectedPacket, protectedPacket := [1] }⟩
  order := .asStored

/-- A subscriber is reached by a frame that leans on others before it. -/
def joinedLate : List MediaEvent :=
  [.join .asStored (ascii "live") (ascii "w") ConfiguredRewriter.vp8Target,
    .setPublisherSource .asStored .asStored (ascii "live") (ascii "p")
      ConfiguredRewriter.vp8Publisher,
    .nominate 0 ⟨Stun.loopback, 9⟩ (.ok false),
    .publishRtp protecting (ascii "live") (ascii "p") RtpRewriter.plainPacket]

theorem joinedLate_run : ∃ w t, MediaSystem.system.Run joinedLate w ∧ w.lock 0 = some t ∧
    9 ∈ t.session.keyframeWaitingSourceSsrcs := by
  have hany : ((joinedLate.foldlM MediaSystem.step {}).any fun w =>
      (w.lock 0).any fun t => decide (9 ∈ t.session.keyframeWaitingSourceSsrcs)) = true := by
    decide +kernel
  obtain ⟨w, hw, hlocked⟩ := Option.any_eq_true _ _ |>.mp hany
  obtain ⟨t, ht, hwaits⟩ := Option.any_eq_true _ _ |>.mp hlocked
  have hstart : MediaSystem.system.Run [] {} := .start rfl
  exact ⟨w, t, hstart.exec hw, ht, of_decide_eq_true hwaits⟩

/-! ## Every run -/

/-- Under all its subscribers the router only ever does what its own operations do. -/
theorem routing_run {events : List MediaEvent} {w : MediaSystem}
    (h : MediaSystem.system.Run events w) :
    ∃ routerEvents, RouterState.system.Run routerEvents w.routing := by
  refine @EventSystem.Run.invariant _ _ _
    (fun w => ∃ routerEvents, RouterState.system.Run routerEvents w.routing) ?_ ?_ _ _ h
  · rintro w rfl
    exact ⟨[], .start rfl⟩
  · rintro w event w' ⟨routerEvents, hrun⟩ hstep
    simp only [MediaSystem.system, EventSystem.ofStep, MediaSystem.step] at hstep
    split_ifs at hstep
    rw [← Option.some.inj hstep]
    obtain ⟨more, hmore⟩ := Reaches.perform_event w event
    rw [hmore]
    exact ⟨routerEvents ++ more, hrun.foldl⟩

/-- Whoever waits is listed, and whoever is listed waits. -/
theorem run_waits_listed {events : List MediaEvent} {w : MediaSystem}
    (h : MediaSystem.system.Run events w) : WaitsListed w := by
  have hrun : (MediaSystem.system.restrict fun _ _ => True).Run events w :=
    h.to_restrict fun _ _ _ => trivial
  have hcovered : Covered False [] w := run_covered (fun _ _ _ hfalse => hfalse.elim) hrun
  exact hcovered.waitsListed

theorem run_waits_listed_late : ∃ w, MediaSystem.system.Run joinedLate w ∧ WaitsListed w := by
  obtain ⟨w, t, hrun, -, -⟩ := joinedLate_run
  exact ⟨w, hrun, run_waits_listed hrun⟩

/-- As long as no retry has used its delays up, whoever waits has a retry to come. -/
theorem run_waits_retried {events : List MediaEvent} {w : MediaSystem}
    (h : (MediaSystem.system.restrict HasDelayLeft).Run events w) {transport : ℕ}
    {t : MediaTransport} (ht : w.lock transport = some t) {sourceSsrc : UInt32}
    (hwaiting : sourceSsrc ∈ t.session.keyframeWaitingSourceSsrcs) :
    ∃ source state, w.router.publisherSourcesByStreamId.find? t.session.streamId = some source ∧
      w.router.keyframeRequests.find?
        ⟨t.session.streamId, source.sessionId, source.generation, sourceSsrc⟩ = some state ∧
      t.session.sessionId ∈ state.waitingSubscriberSessionIds ∧ state.retryActive = true ∧
      HasWait w.routing ⟨t.session.streamId, source.sessionId, source.generation, sourceSsrc⟩
        state.timerToken := by
  have hcovered : Covered True [] w := run_covered (fun _ _ hdelay _ => hdelay) h
  obtain ⟨source, state, hsource, hstate, hid⟩ :=
    hcovered.waitsListed.waits transport t sourceSsrc ht hwaiting
  have hactive : state.retryActive = true := hcovered.retrying trivial _ state hstate
  obtain ⟨routerEvents, hrouter⟩ := routing_run h.of_restrict
  have harmed : EntryArmed w.routing _ state := Armed.of_run hrouter _ state hstate
  exact ⟨source, state, hsource, hstate, hid, hactive, harmed.wait hactive⟩

theorem run_waits_retried_late : ∃ w t key token, MediaSystem.system.Run joinedLate w ∧
    w.lock 0 = some t ∧ key.mediaSsrc = 9 ∧ HasWait w.routing key token := by
  obtain ⟨w, t, hrun, ht, hwaits⟩ := joinedLate_run
  have hleft : (MediaSystem.system.restrict HasDelayLeft).Run joinedLate w := by
    refine hrun.to_restrict fun event hevent w' => ?_
    simp only [joinedLate, List.mem_cons, List.not_mem_nil, or_false] at hevent
    rcases hevent with rfl | rfl | rfl | rfl <;> exact trivial
  obtain ⟨source, state, -, -, -, -, hwait⟩ := run_waits_retried hleft ht hwaits
  exact ⟨w, t, _, _, hrun, ht, rfl, hwait⟩

end SimpleWebrtc.WhepMedia
