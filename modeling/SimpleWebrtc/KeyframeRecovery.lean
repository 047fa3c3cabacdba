import SimpleWebrtc.KeyframeWaits

/-!
# The keyframe recovery of a subscriber

A packet, or the feedback of a compound, leaves the subscriber and the router in
agreement: what a packet completes is told to the router at once, and whatever is
newly waited for is asked for before the handler ends.
-/
namespace SimpleWebrtc.WhepMedia
open Library Library.Text RtpPacket RtpRewriter MediaFanout WhepSession VideoKeyframeDetector
  RtcpCompoundPacket

/-! ## What does not concern the recovery -/

/-- A transport which waits as before. -/
structure Quiet (t t' : WhepSessionTransport) : Prop extends SameSession t t' where
  waiting : t'.keyframeWaitingSourceSsrcs = t.keyframeWaitingSourceSsrcs
  ready : t'.keyframeReadySourceSsrcs = t.keyframeReadySourceSsrcs

namespace Quiet
variable {t t' t'' : WhepSessionTransport}

theorem refl (t : WhepSessionTransport) : Quiet t t := ⟨.refl t, rfl, rfl⟩

theorem trans (h : Quiet t t') (h' : Quiet t' t'') : Quiet t t'' :=
  ⟨h.toSameSession.trans h'.toSameSession, h'.waiting.trans h.waiting, h'.ready.trans h.ready⟩

theorem agrees (h : Quiet t t') {asked done : List UInt32} {r : MediaFanoutRouter}
    (ht : Agrees asked done r t) : Agrees asked done r t' :=
  ht.of_same h.toSameSession h.waiting (by rw [h.ready]) fun _ => Iff.rfl

theorem refreshSenderTiming (sourceSsrc : UInt32) (t : WhepSessionTransport) :
    Quiet t (t.refreshSenderTiming sourceSsrc) := by
  rcases refreshSenderTiming_cases t sourceSsrc with heq | ⟨known, mapped, -, -, heq⟩
  · rw [heq]
    exact refl t
  · rw [heq]
    exact ⟨⟨rfl, rfl, rfl, rfl, rfl⟩, rfl, rfl⟩

theorem recordOutboundRtpSent (rewritten : RewriteResult) (t : WhepSessionTransport) :
    Quiet t (t.recordOutboundRtpSent rewritten) := by
  have hcounted : Quiet t (t.countOutboundRtp rewritten.targetSsrc rewritten.payloadSize
      rewritten.targetTimestamp) := ⟨⟨rfl, rfl, rfl, rfl, rfl⟩, rfl, rfl⟩
  unfold WhepSessionTransport.recordOutboundRtpSent
  simp only
  split
  · exact hcounted
  · split_ifs
    · exact hcounted.trans (refreshSenderTiming rewritten.sourceSsrc _)
    · exact hcounted

theorem handlePublisherSenderTiming (timing : MediaPublisherSenderTiming)
    (t : WhepSessionTransport) : Quiet t (t.handlePublisherSenderTiming timing) := by
  unfold WhepSessionTransport.handlePublisherSenderTiming
  split
  · exact refl t
  · split_ifs
    · exact refl t
    · have hkept : Quiet t { t with
          publisherSenderTimings :=
            t.publisherSenderTimings.insertOrAssign timing.sourceSsrc timing } :=
        ⟨⟨rfl, rfl, rfl, rfl, rfl⟩, rfl, rfl⟩
      exact hkept.trans (refreshSenderTiming timing.sourceSsrc _)

end Quiet

/-! ## A video packet -/

/-- What is prepared of a video packet: the router is still to be told what it completed, and to be
asked for what is newly waited for. -/
structure Prepared (r : MediaFanoutRouter) (t : WhepSessionTransport)
    (step : MediaTransport.RecoveryStep) : Prop where
  agrees : Agrees (step.request.toList.map KeyframeRequestContext.sourceSsrc)
    (step.completed.toList.map KeyframeRequestContext.sourceSsrc) r step.transport.session
  completed : ∀ context, step.completed = some context → ContextOf t context ∧
    context.sourceSsrc ∈ step.transport.session.keyframeReadySourceSsrcs
  request : ∀ context, step.request = some context → ContextOf t context ∧
    context.sourceSsrc ≠ 0 ∧
      context.sourceSsrc ∈ step.transport.session.keyframeWaitingSourceSsrcs

namespace MediaTransport
variable {t : MediaTransport} {r : MediaFanoutRouter} {source : MediaPublisherSource}
  {sourceGeneration : ℕ} {rewritten : RewriteResult}

theorem prepareKeyframeRequest_unforced (t : WhepSessionTransport) (sourceGeneration : ℕ)
    (sourceSsrc targetSsrc : UInt32) (coalesceIfWaiting : Bool) :
    (t.prepareKeyframeRequest sourceGeneration sourceSsrc targetSsrc false
      coalesceIfWaiting).1.keyframeReadySourceSsrcs = t.keyframeReadySourceSsrcs := by
  rcases prepareKeyframeRequest_cases t sourceGeneration sourceSsrc targetSsrc false
    coalesceIfWaiting with heq | ⟨source, -, heq⟩
  · rw [heq]
  · rw [heq]
    rfl

/-- A source which is ready is waited for no longer. -/
theorem completeKeyframe_prepared (h : Agrees [] [] r t.session)
    (hsource : t.session.publisherSource = some source)
    (hgeneration : sourceGeneration = t.session.publisherSourceGeneration) :
    Prepared r t.session (t.completeKeyframe source sourceGeneration rewritten) := by
  unfold completeKeyframe
  refine ⟨⟨?_, ?_, ?_⟩, ?_, ?_⟩
  · intro sourceSsrc hmem _
    exact h.requested sourceSsrc (Finset.mem_of_mem_erase hmem) List.not_mem_nil
  · intro key hlisted
    obtain ⟨hwaits, hne, hkey⟩ := h.listed key hlisted
    have hwaits := hwaits.resolve_right List.not_mem_nil
    refine ⟨?_, hne, hkey⟩
    by_cases heq : key.mediaSsrc = rewritten.sourceSsrc
    · right
      rw [heq] at hwaits ⊢
      rw [if_neg (h.ready _ hwaits).1]
      simp
    · exact .inl (Finset.mem_erase.mpr ⟨heq, hwaits⟩)
  · intro sourceSsrc hmem
    obtain ⟨hne, hwaits⟩ := Finset.mem_erase.mp hmem
    refine ⟨?_, ?_⟩
    · rw [Finset.mem_insert, not_or]
      exact ⟨hne, (h.ready sourceSsrc hwaits).1⟩
    · split_ifs
      · exact List.not_mem_nil
      · simpa using hne
  · intro context hcontext
    simp only at hcontext
    split_ifs at hcontext
    cases hcontext
    exact ⟨⟨hgeneration, source, hsource, rfl⟩, Finset.mem_insert_self _ _⟩
  · intro context hcontext
    cases hcontext

theorem prepareKeyframeRequest_prepared (h : Agrees [] [] r t.session) (sourceSsrc : UInt32)
    (targetSsrc : UInt32) (forceDispatch coalesceIfWaiting : Bool) :
    Prepared r t.session
      { transport := (t.prepareKeyframeRequest sourceGeneration sourceSsrc targetSsrc forceDispatch
          coalesceIfWaiting).1
        request := (t.prepareKeyframeRequest sourceGeneration sourceSsrc targetSsrc forceDispatch
          coalesceIfWaiting).2 } := by
  refine ⟨?_, ?_, ?_⟩
  · have hagrees := prepareKeyframeRequest_agrees h (show sourceSsrc ∉ [] from List.not_mem_nil)
      sourceGeneration targetSsrc forceDispatch coalesceIfWaiting
    rw [List.append_nil] at hagrees
    exact hagrees
  · intro context hcontext
    cases hcontext
  · intro context hcontext
    obtain ⟨hof, rfl, hne, hmem⟩ := prepareKeyframeRequest_some hcontext
    exact ⟨hof, hne, hmem⟩

theorem observeKeyframe_prepared (rewritten : RtpRewriter.RewriteResult)
    (h : Agrees [] [] r t.session)
    (hsource : t.session.publisherSource = some source)
    (hgeneration : sourceGeneration = t.session.publisherSourceGeneration) :
    Prepared r t.session (t.observeKeyframe source sourceGeneration rewritten) := by
  have hsame : ∀ tracker, Prepared r t.session
      { transport := { t with keyframeTracker := tracker } } := by
    intro tracker
    refine ⟨h, ?_, ?_⟩
    · intro context hcontext
      cases hcontext
    · intro context hcontext
      cases hcontext
  unfold observeKeyframe
  split
  · exact hsame _
  · rename_i observation tracker hobserved
    split
    · exact completeKeyframe_prepared (t := { t with keyframeTracker := tracker }) h hsource
        hgeneration
    · exact prepareKeyframeRequest_prepared (t := { t with keyframeTracker := tracker }) h _ _ _ _
    all_goals exact hsame tracker

/-- A source which is not ready is asked for as well. -/
theorem askUnlessReady_prepared {t : WhepSessionTransport} {step : RecoveryStep}
    (hsame : SameSession t step.transport.session) (h : Prepared r t step) :
    Prepared r t (step.askUnlessReady sourceGeneration rewritten) := by
  unfold RecoveryStep.askUnlessReady
  split_ifs with hneeded
  · obtain ⟨hnotReady, hnone⟩ := hneeded
    rw [Option.isNone_iff_eq_none] at hnone
    have hnotDone : rewritten.sourceSsrc ∉
        step.completed.toList.map KeyframeRequestContext.sourceSsrc := by
      intro hmem
      obtain ⟨context, hcontext, heq⟩ := List.mem_map.mp hmem
      have hready := (h.completed context (Option.mem_toList.mp hcontext)).2
      rw [heq] at hready
      exact hnotReady hready
    have hagrees := h.agrees
    rw [hnone, Option.toList_none, List.map_nil] at hagrees
    have hprepared := prepareKeyframeRequest_agrees hagrees hnotDone sourceGeneration
      rewritten.targetSsrc false false
    rw [List.append_nil] at hprepared
    refine ⟨hprepared, ?_, ?_⟩
    · intro context hcontext
      obtain ⟨hof, hready⟩ := h.completed context hcontext
      refine ⟨hof, ?_⟩
      change context.sourceSsrc ∈ (step.transport.session.prepareKeyframeRequest sourceGeneration
        rewritten.sourceSsrc rewritten.targetSsrc false false).1.keyframeReadySourceSsrcs
      rw [prepareKeyframeRequest_unforced]
      exact hready
    · intro context hcontext
      obtain ⟨hof, heq, hne, hmem⟩ := prepareKeyframeRequest_some hcontext
      rw [heq]
      refine ⟨⟨hof.generation.trans hsame.generation, ?_⟩, hne, hmem⟩
      rw [← hsame.publisherSource]
      exact hof.publisherSource
  · exact h

end MediaTransport

namespace KeepsOthers
variable {w : Recovering}

theorem finishRecovery (w : Recovering) {step : MediaTransport.RecoveryStep}
    (h : SameSession w.transport.session step.transport.session) :
    KeepsOthers w (w.finishRecovery step) := by
  have hstep := of_transport (w := w) h
  unfold Recovering.finishRecovery
  cases hcompleted : step.completed with
  | none =>
      cases hrequest : step.request with
      | none => exact hstep
      | some context => exact hstep.trans (dispatchKeyframeRequest_keeps _ context)
  | some completed =>
      have hcomplete := hstep.trans (completeKeyframeRequest_keeps _ completed)
      cases hrequest : step.request with
      | none => exact hcomplete
      | some context => exact hcomplete.trans (dispatchKeyframeRequest_keeps _ context)

theorem beginRecovery (rewritten : RewriteResult) (w : Recovering) :
    KeepsOthers w (w.beginRecovery rewritten) := by
  unfold Recovering.beginRecovery
  split_ifs
  · exact cancelKeyframeRecovery_keeps w
  · exact refl w

theorem followKeyframes (sourceGeneration : ℕ) (rewritten : RewriteResult) (w : Recovering) :
    KeepsOthers w (w.followKeyframes sourceGeneration rewritten) := by
  unfold Recovering.followKeyframes
  split
  · exact refl w
  · split_ifs
    · exact refl w
    · exact (beginRecovery rewritten w).trans (finishRecovery _
        (.of_follows MediaTransport.observeKeyframe_concerns.askUnlessReady.transport))

end KeepsOthers

/-- Once a packet is dealt with, the router knows what the transport waits for. -/
theorem finishRecovery_agrees {w : Recovering}
    (ht : SubscribedTo w.routing.router w.transport.session)
    {step : MediaTransport.RecoveryStep}
    (hsame : SameSession w.transport.session step.transport.session)
    (h : Prepared w.routing.router w.transport.session step) :
    Agrees [] [] (w.finishRecovery step).routing.router
      (w.finishRecovery step).transport.session := by
  let w₁ : Recovering := { w with transport := step.transport }
  have hkeeps : KeepsOthers w w₁ := .of_transport hsame
  have ht₁ : SubscribedTo w₁.routing.router w₁.transport.session := hkeeps.subscribedTo ht
  have hdispatch : ∀ w₂ : Recovering, KeepsOthers w₁ w₂ →
      w₂.transport.session.keyframeWaitingSourceSsrcs =
        w₁.transport.session.keyframeWaitingSourceSsrcs →
      Agrees (step.request.toList.map KeyframeRequestContext.sourceSsrc) [] w₂.routing.router
        w₂.transport.session →
      ∀ context, step.request = some context →
        Agrees [] [] (w₂.dispatchKeyframeRequest context).routing.router
          (w₂.dispatchKeyframeRequest context).transport.session := by
    intro w₂ hkeeps₂ hwaiting hagrees context hcontext
    obtain ⟨hof, hne, hmem⟩ := h.request context hcontext
    rw [hcontext] at hagrees
    apply dispatchKeyframeRequest_agrees (hkeeps₂.subscribedTo ht₁)
      ((hof.of_same hsame).of_same hkeeps₂.session) hne _ hagrees
    rw [hwaiting]
    exact hmem
  unfold Recovering.finishRecovery
  cases hcompleted : step.completed with
  | none =>
      have hagrees := h.agrees
      rw [hcompleted, Option.toList_none, List.map_nil] at hagrees
      cases hrequest : step.request with
      | none =>
          rw [hrequest] at hagrees
          exact hagrees
      | some context => exact hdispatch w₁ (.refl w₁) rfl hagrees context hrequest
  | some completed =>
      obtain ⟨hof, hready⟩ := h.completed completed hcompleted
      have hagrees := h.agrees
      rw [hcompleted] at hagrees
      have hcomplete := completeKeyframeRequest_agrees (w := w₁) ht₁ (hof.of_same hsame) hready
        hagrees
      have hwaiting : (w₁.completeKeyframeRequest
          completed).transport.session.keyframeWaitingSourceSsrcs =
            w₁.transport.session.keyframeWaitingSourceSsrcs := by
        unfold Recovering.completeKeyframeRequest
        simp only
        split_ifs
        · rfl
        · rfl
      cases hrequest : step.request with
      | none =>
          rw [hrequest] at hcomplete
          exact hcomplete
      | some context =>
          exact hdispatch _ (completeKeyframeRequest_keeps _ completed) hwaiting hcomplete context
            hrequest

theorem followKeyframes_agrees {w : Recovering}
    (ht : SubscribedTo w.routing.router w.transport.session)
    (h : Agrees [] [] w.routing.router w.transport.session) (sourceGeneration : ℕ)
    (rewritten : RewriteResult) :
    Agrees [] [] (w.followKeyframes sourceGeneration rewritten).routing.router
      (w.followKeyframes sourceGeneration rewritten).transport.session := by
  unfold Recovering.followKeyframes
  split
  · exact h
  · rename_i source hsource
    split_ifs with hother
    · exact h
    · have hgeneration : sourceGeneration = w.transport.session.publisherSourceGeneration := by
        by_contra hne
        exact hother (.inr (.inr hne))
      have hbegin := KeepsOthers.beginRecovery rewritten w
      have hagrees : Agrees [] [] (w.beginRecovery rewritten).routing.router
          (w.beginRecovery rewritten).transport.session := by
        unfold Recovering.beginRecovery
        split_ifs
        · exact cancelKeyframeRecovery_agrees ht.sessionId
        · exact h
      have hobserved := MediaTransport.observeKeyframe_prepared rewritten hagrees
        (hbegin.session.publisherSource.trans hsource)
        (hgeneration.trans hbegin.session.generation.symm)
      have hsame : SameSession (w.beginRecovery rewritten).transport.session
          ((w.beginRecovery rewritten).transport.observeKeyframe source sourceGeneration
            rewritten).transport.session :=
        .of_follows MediaTransport.observeKeyframe_concerns.transport
      exact finishRecovery_agrees (hbegin.subscribedTo ht)
        (.of_follows MediaTransport.observeKeyframe_concerns.askUnlessReady.transport)
        (MediaTransport.askUnlessReady_prepared hsame hobserved)

/-- What is sent of a packet does not concern the recovery. -/
theorem forwardRtp_quiet (t : MediaTransport) (now : ℤ) (srtp : SrtpAnswers)
    (sourceGeneration : ℕ) (plainRtp : List UInt8) :
    Quiet t.session (t.forwardRtp now srtp sourceGeneration plainRtp).1.session := by
  have hrewrote : Quiet t.session (t.rewrote plainRtp).session :=
    ⟨⟨rfl, rfl, rfl, rfl, rfl⟩, rfl, rfl⟩
  rcases MediaTransport.forwardRtp_cases t now srtp sourceGeneration plainRtp with
    heq | heq | ⟨rewritten, datagram, -, heq⟩
  · rw [heq]
    exact .refl _
  · rw [heq]
    exact hrewrote
  · rw [heq, MediaTransport.recordSent_session]
    exact hrewrote.trans (.recordOutboundRtpSent rewritten _)

theorem sendRtp_cases (w : Recovering) (now : ℤ) (srtp : SrtpAnswers) (sourceGeneration : ℕ)
    (plainRtp : List UInt8) :
    ∃ t, Quiet w.transport.session t.session ∧
      (w.sendRtp now srtp sourceGeneration plainRtp = { w with transport := t } ∨
      ∃ rewritten, w.sendRtp now srtp sourceGeneration plainRtp =
        { w with transport := t }.followKeyframes sourceGeneration rewritten) := by
  have hquiet := forwardRtp_quiet w.transport now srtp sourceGeneration plainRtp
  unfold Recovering.sendRtp
  split
  · rename_i t heq
    rw [heq] at hquiet
    exact ⟨t, hquiet, .inl rfl⟩
  · rename_i t rewritten heq
    rw [heq] at hquiet
    exact ⟨t, hquiet, .inr ⟨rewritten, rfl⟩⟩

theorem KeepsOthers.sendRtp (w : Recovering) (now : ℤ) (srtp : SrtpAnswers) (sourceGeneration : ℕ)
    (plainRtp : List UInt8) : KeepsOthers w (w.sendRtp now srtp sourceGeneration plainRtp) := by
  obtain ⟨t, hquiet, heq | ⟨rewritten, heq⟩⟩ :=
    sendRtp_cases w now srtp sourceGeneration plainRtp
  · rw [heq]
    exact .of_transport hquiet.toSameSession
  · rw [heq]
    exact (of_transport (w := w) hquiet.toSameSession).trans (.followKeyframes _ _ _)

theorem sendRtp_agrees {w : Recovering} (ht : SubscribedTo w.routing.router w.transport.session)
    (h : Agrees [] [] w.routing.router w.transport.session) (now : ℤ) (srtp : SrtpAnswers)
    (sourceGeneration : ℕ) (plainRtp : List UInt8) :
    Agrees [] [] (w.sendRtp now srtp sourceGeneration plainRtp).routing.router
      (w.sendRtp now srtp sourceGeneration plainRtp).transport.session := by
  obtain ⟨t, hquiet, heq | ⟨rewritten, heq⟩⟩ :=
    sendRtp_cases w now srtp sourceGeneration plainRtp
  · rw [heq]
    exact hquiet.agrees h
  · rw [heq]
    exact followKeyframes_agrees (w := { w with transport := t })
      (hquiet.toSameSession.subscribedTo ht) (hquiet.agrees h) _ _

/-! ## The feedback of a compound -/

/-- To ask for more is still to be asked for what it was. -/
theorem Agrees.of_asked {asked asked' done : List UInt32} {r : MediaFanoutRouter}
    {t : WhepSessionTransport} (h : Agrees asked done r t) (hasked : asked ⊆ asked') :
    Agrees asked' done r t :=
  ⟨fun sourceSsrc hmem hnot => h.requested sourceSsrc hmem fun hold => hnot (hasked hold), h.listed,
    h.ready⟩

/-- A request which may be dispatched. -/
structure Dispatchable (t : WhepSessionTransport) (context : KeyframeRequestContext) : Prop where
  known : ContextOf t context
  source_ne_zero : context.sourceSsrc ≠ 0
  waits : context.sourceSsrc ∈ t.keyframeWaitingSourceSsrcs

/-- What the feedback handled so far has prepared: every request is still to be dispatched. -/
structure Collected (r : MediaFanoutRouter) (t : WhepSessionTransport) (step : FeedbackStep) :
    Prop where
  session : SameSession t step.transport.session
  agrees : Agrees (step.requests.map KeyframeRequestContext.sourceSsrc) [] r step.transport.session
  requests : ∀ context ∈ step.requests, Dispatchable step.transport.session context

namespace Collected
variable {r : MediaFanoutRouter} {t : WhepSessionTransport} {step : FeedbackStep}

theorem quiet (h : Collected r t step) {transport : MediaTransport}
    (hquiet : Quiet step.transport.session transport.session) :
    Collected r t { step with transport } where
  session := h.session.trans hquiet.toSameSession
  agrees := hquiet.agrees h.agrees
  requests context hmem := by
    obtain ⟨hcontext, hne, hwaits⟩ := h.requests context hmem
    refine ⟨hcontext.of_same hquiet.toSameSession, hne, ?_⟩
    rw [hquiet.waiting]
    exact hwaits

theorem prepareKeyframeRequest (h : Collected r t step) (requestedSourceSsrcs : Finset UInt32)
    (sourceGeneration : ℕ) (sourceSsrc targetSsrc : UInt32) :
    Collected r t
      { transport := (step.transport.prepareKeyframeRequest sourceGeneration sourceSsrc targetSsrc
          true true).1
        requestedSourceSsrcs
        requests := step.requests ++ (step.transport.prepareKeyframeRequest sourceGeneration
          sourceSsrc targetSsrc true true).2.toList } := by
  have hfollows : FollowsIn sourceSsrc step.transport.session
      (step.transport.prepareKeyframeRequest sourceGeneration sourceSsrc targetSsrc true
        true).1.session := .prepareKeyframeRequest _ _ _ _ _ _
  have hsame := SameSession.of_follows hfollows
  refine ⟨h.session.trans hsame, ?_, ?_⟩
  · refine (prepareKeyframeRequest_agrees h.agrees List.not_mem_nil sourceGeneration targetSsrc
      true true).of_asked ?_
    rw [List.map_append]
    intro ssrc hmem
    rw [List.mem_append] at hmem ⊢
    exact hmem.symm
  · intro context hmem
    rcases List.mem_append.mp hmem with hold | hnew
    · obtain ⟨hcontext, hne, hwaits⟩ := h.requests context hold
      exact ⟨hcontext.of_same hsame, hne, prepareKeyframeRequest_waits _ _ _ _ _ _ hwaits⟩
    · obtain ⟨hcontext, rfl, hne, hwaits⟩ :=
        prepareKeyframeRequest_some (Option.mem_toList.mp hnew)
      exact ⟨hcontext.of_same hsame, hne, hwaits⟩

theorem accept (h : Collected r t step) (feedback : InboundKeyframeFeedback) :
    Collected r t (step.accept feedback) := by
  unfold FeedbackStep.accept
  simp only
  split
  · exact h
  · rename_i sourceSsrc hsourceSsrc
    have htracked : ∀ firSequenceTracker, Collected r t { step with
        transport := { step.transport with
          session := { step.transport.session with firSequenceTracker } } } :=
      fun _ => h.quiet ⟨⟨rfl, rfl, rfl, rfl, rfl⟩, rfl, rfl⟩
    split_ifs
    · exact h
    · exact htracked _
    · exact (htracked _).prepareKeyframeRequest _ _ _ _

theorem foldl (h : Collected r t step) (feedback : List InboundKeyframeFeedback) :
    Collected r t (feedback.foldl FeedbackStep.accept step) := by
  induction feedback generalizing step with
  | nil => exact h
  | cons first feedback ih => exact ih (h.accept first)

end Collected

/-- The router takes what may be dispatched, and the transport stays as it is. -/
theorem dispatchKeyframeRequest_transport {w : Recovering} {context : KeyframeRequestContext}
    (ht : SubscribedTo w.routing.router w.transport.session)
    (h : Dispatchable w.transport.session context) :
    (w.dispatchKeyframeRequest context).transport = w.transport := by
  obtain ⟨result, hresult⟩ := requestKeyframe_accepts ht h.known h.source_ne_zero
  rcases dispatchKeyframeRequest_cases w context with heq | ⟨hnone, -⟩ | ⟨-, -, htransport, -⟩
  · rw [heq]
  · rw [hnone] at hresult
    cases hresult
  · exact htransport

theorem dispatchAll_agrees {requests : List KeyframeRequestContext} {w : Recovering}
    (ht : SubscribedTo w.routing.router w.transport.session)
    (h : Agrees (requests.map KeyframeRequestContext.sourceSsrc) [] w.routing.router
      w.transport.session)
    (hrequests : ∀ context ∈ requests, Dispatchable w.transport.session context) :
    Agrees [] [] (requests.foldl Recovering.dispatchKeyframeRequest w).routing.router
      (requests.foldl Recovering.dispatchKeyframeRequest w).transport.session := by
  induction requests generalizing w with
  | nil => exact h
  | cons context requests ih =>
      rw [List.forall_mem_cons] at hrequests
      obtain ⟨hfirst, hrest⟩ := hrequests
      have htransport := dispatchKeyframeRequest_transport ht hfirst
      apply ih ((dispatchKeyframeRequest_keeps w context).subscribedTo ht)
      · exact dispatchKeyframeRequest_agrees ht hfirst.known hfirst.source_ne_zero hfirst.waits h
      · rw [htransport]
        exact hrest

theorem KeepsOthers.dispatchAll (w : Recovering) (requests : List KeyframeRequestContext) :
    KeepsOthers w (requests.foldl Recovering.dispatchKeyframeRequest w) := by
  induction requests generalizing w with
  | nil => exact refl w
  | cons context requests ih => exact (dispatchKeyframeRequest_keeps w context).trans (ih _)

/-! ## Operations of a subscribed transport -/

/-- An operation of a transport which keeps the others, and the agreement with the router. -/
def Recovers (f : Recovering → Recovering) : Prop :=
  ∀ w : Recovering, SubscribedTo w.routing.router w.transport.session →
    Agrees [] [] w.routing.router w.transport.session →
      KeepsOthers w (f w) ∧ Agrees [] [] (f w).routing.router (f w).transport.session

theorem recovers_sendRtp (now : ℤ) (srtp : SrtpAnswers) (sourceGeneration : ℕ)
    (plainRtp : List UInt8) :
    Recovers fun w => w.sendRtp now srtp sourceGeneration plainRtp :=
  fun w ht h => ⟨.sendRtp w _ _ _ _, sendRtp_agrees ht h _ _ _ _⟩

theorem recovers_handleKeyframeFeedback (compound : RtcpCompoundPacket) :
    Recovers (Recovering.handleKeyframeFeedback compound) := by
  intro w ht h
  have hstart : Collected w.routing.router w.transport.session ⟨w.transport, ∅, []⟩ := by
    refine ⟨.refl _, h, fun context hmem => ?_⟩
    cases hmem
  obtain ⟨hsession, hagrees, hrequests⟩ := hstart.foldl (inboundKeyframeFeedback compound)
  exact ⟨(KeepsOthers.of_transport hsession).trans (.dispatchAll _ _),
    dispatchAll_agrees (hsession.subscribedTo ht) hagrees hrequests⟩

theorem recovers_nominate (endpoint : Stun.UdpEndpoint) (rebound : Except Text Bool) :
    Recovers (Recovering.nominate endpoint rebound) := by
  intro w ht h
  unfold Recovering.nominate
  simp only
  split_ifs
  · exact ⟨.refl w, h⟩
  · exact ⟨.refl w, h⟩
  · let moved : MediaTransport := { w.transport with
      session := { w.transport.session with selectedRemoteEndpoint := some endpoint } }
    have hmoved : KeepsOthers w { w with transport := moved } :=
      .of_transport ⟨rfl, rfl, rfl, rfl, rfl⟩
    exact ⟨hmoved.trans (cancelKeyframeRecovery_keeps _),
      cancelKeyframeRecovery_agrees ht.sessionId⟩

end SimpleWebrtc.WhepMedia
