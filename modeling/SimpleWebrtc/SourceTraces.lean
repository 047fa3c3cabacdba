import SimpleWebrtc.PublisherGenerations
import SimpleWebrtc.RewriterRuns
import SimpleWebrtc.WhipMediaPath

/-!
# Traces of a source

What is kept of a source SSRC: its sender timing and the requests for a keyframe
of it, with the router and with every subscriber. A packet of one source leaves
no trace of another one, whatever the subscriber's transport and the router do
with it.
-/
namespace SimpleWebrtc.WhepMedia
open Library Library.Text RtpPacket RtpRewriter RewrittenExtensions MediaFanout WhepSession
  VideoKeyframeDetector

/-! ## What is sent -/

theorem parseRewriteableRtpPacket_header {packet : List UInt8} {parsed : ParsedRtpPacket}
    (h : parseRewriteableRtpPacket packet = .ok parsed) :
    parseRtpPacketHeader packet = .ok parsed.header := by
  unfold parseRewriteableRtpPacket at h
  cases hheader : parseRtpPacketHeader packet with
  | error e => simp [hheader] at h
  | ok header =>
      simp only [hheader] at h
      split at h
      · cases h
      · split_ifs at h <;> cases h <;> rfl

theorem rewriteBound_sourceSsrc {bound : BoundSource} {packet : List UInt8}
    {parsed : ParsedRtpPacket} {payloadType : PayloadTypeMapping} {number : UInt16}
    {rewritten : RewriteResult}
    (h : (rewriteBound bound packet parsed payloadType number).2 = .ok rewritten) :
    rewritten.sourceSsrc = parsed.header.ssrc := by
  have hemit : ∀ {original}, (emit bound packet parsed payloadType number original).2 =
      .ok rewritten → rewritten.sourceSsrc = parsed.header.ssrc := by
    intro original hresult
    obtain ⟨block, timestamp, -, rfl⟩ := emit_result hresult
    rfl
  unfold rewriteBound at h
  split_ifs at h
  · cases h
    rfl
  · split at h
    · cases h
      rfl
    · exact hemit h
  · exact hemit h

/-- A rewritten packet is of the source its header names. -/
theorem rewrite_sourceSsrc {s : Impl} {packet : List UInt8} {number : UInt16}
    {rewritten : RewriteResult} (h : (s.rewrite packet number).2 = .ok rewritten) :
    ∃ header, parseRtpPacketHeader packet = .ok header ∧ rewritten.sourceSsrc = header.ssrc := by
  unfold Impl.rewrite at h
  cases hparse : parseRewriteableRtpPacket packet with
  | error e => simp [hparse] at h
  | ok parsed =>
      refine ⟨parsed.header, parseRewriteableRtpPacket_header hparse, ?_⟩
      simp only [hparse] at h
      split_ifs at h
      · cases h
        rfl
      · split at h
        · cases h
          rfl
        · unfold Impl.rewriteResolved at h
          split at h
          · cases h
            rfl
          · exact rewriteBound_sourceSsrc h

namespace MediaTransport
variable (t : MediaTransport) (now : ℤ) (srtp : SrtpAnswers) (sourceGeneration : ℕ)
  (plainRtp : List UInt8)

/-- The transport once the rewriter has seen the packet. -/
def rewrote : MediaTransport :=
  { t with
    session := { t.session with
      rtpRewriter := (t.session.rtpRewriter.rewrite plainRtp
        t.transportFeedbackHistory.nextSequenceNumber).1 } }

/-- A packet which is sent is one the rewriter has rewritten and the SRTP transport protected. -/
structure Sends (rewritten : RewriteResult) (datagram : List UInt8) : Prop where
  accepted : t.accepts srtp sourceGeneration plainRtp = true
  rewrite : (t.session.rtpRewriter.rewrite plainRtp
    t.transportFeedbackHistory.nextSequenceNumber).2 = .ok rewritten
  state : rewritten.state = .rewritten
  nonempty : rewritten.packet ≠ []
  datagram : protectedDatagram (srtp.protect 0) = some datagram

/-- A packet is not sent, and leaves at most what the rewriter learned of it, or it is sent. -/
theorem forwardRtp_cases :
    (t.forwardRtp now srtp sourceGeneration plainRtp = (t, none)) ∨
    (t.forwardRtp now srtp sourceGeneration plainRtp = (t.rewrote plainRtp, none)) ∨
    ∃ rewritten datagram, Sends t srtp sourceGeneration plainRtp rewritten datagram ∧
      t.forwardRtp now srtp sourceGeneration plainRtp =
        ((t.rewrote plainRtp).recordSent now sourceGeneration datagram rewritten,
          some rewritten) := by
  unfold forwardRtp
  split_ifs with haccepted
  · right
    cases hresult : (t.session.rtpRewriter.rewrite plainRtp
        t.transportFeedbackHistory.nextSequenceNumber).2 with
    | error e => exact .inl (by simp only [hresult]; rfl)
    | ok rewritten =>
        simp only [hresult]
        split_ifs with hdropped
        · exact .inl rfl
        · rw [not_or, not_not] at hdropped
          cases hdatagram : protectedDatagram (srtp.protect 0) with
          | none => exact .inl rfl
          | some datagram =>
              exact .inr ⟨rewritten, datagram,
                ⟨haccepted, hresult, hdropped.1, hdropped.2, hdatagram⟩, rfl⟩
  · exact .inl rfl

end MediaTransport

/-! ## What a packet of a source changes in a transport -/

/-- A sender's timing is one it had, or comes from what is known of a source. -/
def TimingsFollow (sourceSsrc : UInt32) (t t' : WhepSessionTransport) : Prop :=
  ∀ targetSsrc sender' timing, t'.outboundRtcpSenders.find? targetSsrc = some sender' →
    sender'.senderTiming = some timing →
    (∃ sender, t.outboundRtcpSenders.find? targetSsrc = some sender ∧
      sender.senderTiming = some timing) ∨
    ∃ known, t.publisherSenderTimings.find? sourceSsrc = some known ∧
      timing.sourceSsrc = known.sourceSsrc

/-- Nothing is refreshed, or every sender which follows the mapped target is. -/
theorem refreshSenderTiming_cases (t : WhepSessionTransport) (sourceSsrc : UInt32) :
    t.refreshSenderTiming sourceSsrc = t ∨
    ∃ known mapped, t.publisherSenderTimings.find? sourceSsrc = some known ∧
      t.rtpRewriter.mapSourceTimestamp sourceSsrc known.sourceRtpTimestamp = some mapped ∧
      t.refreshSenderTiming sourceSsrc =
        { t with
          outboundRtcpSenders := t.outboundRtcpSenders.mapValues fun targetSsrc sender =>
            if WhepSessionTransport.senderFollows targetSsrc sender mapped.targetSsrc then
              { sender with
                senderTiming := some
                  (WhepSessionTransport.makeSenderTiming known mapped.targetTimestamp) }
            else sender } := by
  unfold WhepSessionTransport.refreshSenderTiming
  split
  · exact .inl rfl
  · rename_i known hknown
    split
    · exact .inl rfl
    · rename_i mapped hmapped
      exact .inr ⟨known, mapped, hknown, hmapped, rfl⟩

theorem refreshSenderTiming_waiting (t : WhepSessionTransport) (sourceSsrc : UInt32) :
    (t.refreshSenderTiming sourceSsrc).keyframeWaitingSourceSsrcs =
      t.keyframeWaitingSourceSsrcs := by
  rcases refreshSenderTiming_cases t sourceSsrc with heq | ⟨known, mapped, -, -, heq⟩
  · rw [heq]
  · rw [heq]

/-- What holds where a request is prepared and not turned away. -/
structure Prepares (t : WhepSessionTransport) (sourceGeneration : ℕ)
    (sourceSsrc targetSsrc : UInt32) (forceDispatch coalesceIfWaiting : Bool)
    (source : MediaPublisherSource) : Prop where
  publisherSource : t.publisherSource = some source
  generation_ne_zero : sourceGeneration ≠ 0
  source_ne_zero : sourceSsrc ≠ 0
  target_ne_zero : targetSsrc ≠ 0
  generation : sourceGeneration = t.publisherSourceGeneration
  coalesced : coalesceIfWaiting = true → sourceSsrc ∉ t.keyframeWaitingSourceSsrcs
  ready : forceDispatch = false → sourceSsrc ∉ t.keyframeReadySourceSsrcs

theorem prepareKeyframeRequest_cases (t : WhepSessionTransport) (sourceGeneration : ℕ)
    (sourceSsrc targetSsrc : UInt32) (forceDispatch coalesceIfWaiting : Bool) :
    t.prepareKeyframeRequest sourceGeneration sourceSsrc targetSsrc forceDispatch
      coalesceIfWaiting = (t, none) ∨
    ∃ source, Prepares t sourceGeneration sourceSsrc targetSsrc forceDispatch coalesceIfWaiting
        source ∧
      t.prepareKeyframeRequest sourceGeneration sourceSsrc targetSsrc forceDispatch
        coalesceIfWaiting =
      ({ t with
          keyframeWaitingSourceSsrcs := insert sourceSsrc t.keyframeWaitingSourceSsrcs
          keyframeReadySourceSsrcs :=
            if forceDispatch then t.keyframeReadySourceSsrcs.erase sourceSsrc
            else t.keyframeReadySourceSsrcs },
        if sourceSsrc ∈ t.keyframeWaitingSourceSsrcs ∧ forceDispatch = false then none
        else some
          { publisherSessionId := source.sessionId
            sourceGeneration
            sourceSsrc
            targetSsrc }) := by
  unfold WhepSessionTransport.prepareKeyframeRequest
  split
  · exact .inl rfl
  · rename_i source hsource
    simp only [Bool.and_eq_true, decide_eq_true_eq, Bool.not_eq_true']
    by_cases hnamed : sourceGeneration = 0 ∨ sourceSsrc = 0 ∨ targetSsrc = 0 ∨
        sourceGeneration ≠ t.publisherSourceGeneration
    · exact .inl (if_pos hnamed)
    rw [if_neg hnamed]
    by_cases hwaiting : coalesceIfWaiting = true ∧ sourceSsrc ∈ t.keyframeWaitingSourceSsrcs
    · exact .inl (if_pos hwaiting)
    rw [if_neg hwaiting]
    by_cases hready : forceDispatch = false ∧ sourceSsrc ∈ t.keyframeReadySourceSsrcs
    · exact .inl (if_pos hready)
    rw [if_neg hready]
    simp only [not_or, not_not] at hnamed
    obtain ⟨hgeneration, hsourceSsrc, htargetSsrc, hcurrent⟩ := hnamed
    refine .inr ⟨source, ⟨hsource, hgeneration, hsourceSsrc, htargetSsrc, hcurrent,
      fun hcoalesce hmem => hwaiting ⟨hcoalesce, hmem⟩,
      fun hforce hmem => hready ⟨hforce, hmem⟩⟩, ?_⟩
    split_ifs <;> rfl

structure FollowsIn (sourceSsrc : UInt32) (t t' : WhepSessionTransport) : Prop where
  closed : t'.closed = t.closed
  owned : t'.owned = t.owned
  streamId : t'.streamId = t.streamId
  sessionId : t'.sessionId = t.sessionId
  publisherSource : t'.publisherSource = t.publisherSource
  publisherSourceGeneration : t'.publisherSourceGeneration = t.publisherSourceGeneration
  publisherSenderTimings : t'.publisherSenderTimings = t.publisherSenderTimings
  waiting : ∀ ssrc ∈ t'.keyframeWaitingSourceSsrcs,
    ssrc ∈ t.keyframeWaitingSourceSsrcs ∨ ssrc = sourceSsrc ∧ sourceSsrc ≠ 0
  senders : TimingsFollow sourceSsrc t t'

theorem TimingsFollow.of_eq {sourceSsrc : UInt32} {t t' : WhepSessionTransport}
    (h : t'.outboundRtcpSenders = t.outboundRtcpSenders) : TimingsFollow sourceSsrc t t' := by
  intro targetSsrc sender' timing hsender htiming
  rw [h] at hsender
  exact .inl ⟨sender', hsender, htiming⟩

theorem TimingsFollow.trans {sourceSsrc : UInt32} {t t' t'' : WhepSessionTransport}
    (h : TimingsFollow sourceSsrc t t') (h' : TimingsFollow sourceSsrc t' t'')
    (hknown : t'.publisherSenderTimings = t.publisherSenderTimings) :
    TimingsFollow sourceSsrc t t'' := by
  intro targetSsrc sender'' timing hsender htiming
  rcases h' targetSsrc sender'' timing hsender htiming with ⟨sender', hsender', htiming'⟩ | hnew
  · exact h targetSsrc sender' timing hsender' htiming'
  · rw [hknown] at hnew
    exact .inr hnew

namespace FollowsIn
variable {sourceSsrc : UInt32} {t t' t'' : WhepSessionTransport}

theorem refl (sourceSsrc : UInt32) (t : WhepSessionTransport) : FollowsIn sourceSsrc t t :=
  ⟨rfl, rfl, rfl, rfl, rfl, rfl, rfl, fun _ h => .inl h, .of_eq rfl⟩

theorem trans (h : FollowsIn sourceSsrc t t') (h' : FollowsIn sourceSsrc t' t'') :
    FollowsIn sourceSsrc t t'' where
  closed := h'.closed.trans h.closed
  owned := h'.owned.trans h.owned
  streamId := h'.streamId.trans h.streamId
  sessionId := h'.sessionId.trans h.sessionId
  publisherSource := h'.publisherSource.trans h.publisherSource
  publisherSourceGeneration := h'.publisherSourceGeneration.trans h.publisherSourceGeneration
  publisherSenderTimings := h'.publisherSenderTimings.trans h.publisherSenderTimings
  waiting := by
    intro ssrc hssrc
    rcases h'.waiting ssrc hssrc with hwaiting | hnew
    · exact h.waiting ssrc hwaiting
    · exact .inr hnew
  senders := h.senders.trans h'.senders h.publisherSenderTimings

/-- Fewer sources are waited for, and nothing else changes but the rewriter and the sources which
are ready. -/
theorem of_waiting {waiting ready : Finset UInt32} (h : waiting ⊆ t.keyframeWaitingSourceSsrcs)
    (rtpRewriter : Impl) : FollowsIn sourceSsrc t
      { t with
        rtpRewriter
        keyframeWaitingSourceSsrcs := waiting
        keyframeReadySourceSsrcs := ready } :=
  ⟨rfl, rfl, rfl, rfl, rfl, rfl, rfl, fun _ hssrc => .inl (h hssrc), .of_eq rfl⟩

theorem countOutboundRtp (targetSsrc : UInt32) (payloadSize : ℕ) (targetTimestamp : UInt32) :
    FollowsIn sourceSsrc t (t.countOutboundRtp targetSsrc payloadSize targetTimestamp) := by
  refine ⟨rfl, rfl, rfl, rfl, rfl, rfl, rfl, fun _ h => .inl h, ?_⟩
  intro ssrc sender' timing hsender htiming
  simp only [WhepSessionTransport.countOutboundRtp, AssocMap.find?_mapValues,
    Option.map_eq_some_iff] at hsender
  obtain ⟨sender, hsender, rfl⟩ := hsender
  refine .inl ⟨sender, hsender, ?_⟩
  split_ifs at htiming <;> exact htiming

theorem refreshSenderTiming (sourceSsrc : UInt32) (t : WhepSessionTransport) :
    FollowsIn sourceSsrc t (t.refreshSenderTiming sourceSsrc) := by
  rcases refreshSenderTiming_cases t sourceSsrc with heq | ⟨known, mapped, hknown, -, heq⟩
  · rw [heq]
    exact refl sourceSsrc t
  · rw [heq]
    refine ⟨rfl, rfl, rfl, rfl, rfl, rfl, rfl, fun _ h => .inl h, ?_⟩
    intro targetSsrc sender' timing hsender htiming
    simp only [AssocMap.find?_mapValues, Option.map_eq_some_iff] at hsender
    obtain ⟨sender, hsender, rfl⟩ := hsender
    split_ifs at htiming
    · rw [Option.some.injEq] at htiming
      subst htiming
      exact .inr ⟨known, hknown, rfl⟩
    · exact .inl ⟨sender, hsender, htiming⟩

theorem recordOutboundRtpSent (rewritten : RewriteResult) (t : WhepSessionTransport) :
    FollowsIn rewritten.sourceSsrc t (t.recordOutboundRtpSent rewritten) := by
  have hcounted : FollowsIn rewritten.sourceSsrc t (t.countOutboundRtp rewritten.targetSsrc
      rewritten.payloadSize rewritten.targetTimestamp) := countOutboundRtp _ _ _
  unfold WhepSessionTransport.recordOutboundRtpSent
  simp only
  split
  · exact hcounted
  · split_ifs
    · exact hcounted.trans (refreshSenderTiming rewritten.sourceSsrc _)
    · exact hcounted

theorem prepareKeyframeRequest (sourceGeneration : ℕ) (sourceSsrc targetSsrc : UInt32)
    (forceDispatch coalesceIfWaiting : Bool) (t : WhepSessionTransport) :
    FollowsIn sourceSsrc t (t.prepareKeyframeRequest sourceGeneration sourceSsrc targetSsrc
      forceDispatch coalesceIfWaiting).1 := by
  rcases prepareKeyframeRequest_cases t sourceGeneration sourceSsrc targetSsrc forceDispatch
    coalesceIfWaiting with heq | ⟨source, hprepares, heq⟩
  · rw [heq]
    exact refl sourceSsrc t
  · rw [heq]
    refine ⟨rfl, rfl, rfl, rfl, rfl, rfl, rfl, ?_, .of_eq rfl⟩
    intro ssrc hssrc
    rcases Finset.mem_insert.mp hssrc with rfl | hwaiting
    · exact .inr ⟨rfl, hprepares.source_ne_zero⟩
    · exact .inl hwaiting

end FollowsIn

/-! ## What a packet of a source changes in the router -/

/-- Requests for keyframes go, or are new ones for the source at a current publisher. -/
structure RoutesFollow (sourceSsrc : UInt32) (r r' : MediaFanoutRouter) : Prop where
  subscriptions : r'.subscriptionsBySessionId = r.subscriptionsBySessionId
  sources : r'.publisherSourcesByStreamId = r.publisherSourcesByStreamId
  generations : r'.publisherSourceGenerationsByStreamId = r.publisherSourceGenerationsByStreamId
  timings : r'.publisherSenderTimingsByStreamId = r.publisherSenderTimingsByStreamId
  requests : ∀ key state', r'.keyframeRequests.find? key = some state' →
    (∃ state, r.keyframeRequests.find? key = some state) ∨
    key.mediaSsrc = sourceSsrc ∧ sourceSsrc ≠ 0 ∧
      IsCurrent r key.streamId key.publisherSessionId key.sourceGeneration

namespace RoutesFollow
variable {sourceSsrc : UInt32} {r r' r'' : MediaFanoutRouter}

theorem refl (sourceSsrc : UInt32) (r : MediaFanoutRouter) : RoutesFollow sourceSsrc r r :=
  ⟨rfl, rfl, rfl, rfl, fun _ state h => .inl ⟨state, h⟩⟩

theorem trans (h : RoutesFollow sourceSsrc r r') (h' : RoutesFollow sourceSsrc r' r'') :
    RoutesFollow sourceSsrc r r'' where
  subscriptions := h'.subscriptions.trans h.subscriptions
  sources := h'.sources.trans h.sources
  generations := h'.generations.trans h.generations
  timings := h'.timings.trans h.timings
  requests := by
    intro key state'' hstate
    rcases h'.requests key state'' hstate with ⟨state', hstate'⟩ | ⟨hssrc, hzero, hcurrent⟩
    · exact h.requests key state' hstate'
    · rw [IsCurrent, h.sources] at hcurrent
      exact .inr ⟨hssrc, hzero, hcurrent⟩

theorem of_shrinks (hshrinks : Shrinks r r')
    (hrest : ∃ requests, r' = { r with keyframeRequests := requests }) :
    RoutesFollow sourceSsrc r r' := by
  obtain ⟨requests, rfl⟩ := hrest
  refine ⟨rfl, rfl, rfl, rfl, fun key state' hstate => ?_⟩
  obtain ⟨state, hfind, -⟩ := hshrinks key state' hstate
  exact .inl ⟨state, hfind⟩

theorem cancelKeyframeRequests (r : MediaFanoutRouter) (id : Text) :
    RoutesFollow sourceSsrc r (r.cancelKeyframeRequests id) := by
  refine of_shrinks (Shrinks.cancelKeyframeRequests r id) ?_
  unfold MediaFanoutRouter.cancelKeyframeRequests
  split_ifs
  · exact ⟨_, rfl⟩
  · exact ⟨_, rfl⟩

theorem completeKeyframeRequest (r : MediaFanoutRouter) (streamId id publisherSessionId : Text)
    (sourceGeneration : ℕ) (mediaSsrc : UInt32) :
    RoutesFollow sourceSsrc r (r.completeKeyframeRequest streamId id publisherSessionId
      sourceGeneration mediaSsrc) :=
  of_shrinks (Shrinks.completeKeyframeRequest r _ _ _ _ _)
    (completeKeyframeRequest_requests r _ _ _ _ _)

theorem requestKeyframe {streamId id publisherSessionId : Text} {sourceGeneration : ℕ}
    {mediaSsrc : UInt32} {result : MediaFanoutRouter × Bool}
    (h : r.requestKeyframe streamId id publisherSessionId sourceGeneration mediaSsrc =
      some result) : RoutesFollow mediaSsrc r result.1 := by
  obtain ⟨haccepts, heq⟩ := requestKeyframe_some h
  rw [heq]
  refine ⟨rfl, rfl, rfl, rfl, fun key state' hstate => ?_⟩
  rw [AssocMap.find?_insertOrAssign] at hstate
  split_ifs at hstate with hkey
  · subst hkey
    refine .inr ⟨rfl, fun hzero => haccepts.named ?_, findCurrentSource_isSome.mp haccepts.current⟩
    exact .inr (.inr (.inr (.inr hzero)))
  · exact .inl ⟨state', hstate⟩

end RoutesFollow

/-- What handling a packet of a source changes in a transport and the router it calls. -/
structure Follows (sourceSsrc : UInt32) (w w' : Recovering) : Prop where
  routing : RoutesFollow sourceSsrc w.routing.router w'.routing.router
  transport : FollowsIn sourceSsrc w.transport.session w'.transport.session

namespace Follows
variable {sourceSsrc : UInt32} {w w' w'' : Recovering}

theorem refl (sourceSsrc : UInt32) (w : Recovering) : Follows sourceSsrc w w :=
  ⟨.refl _ _, .refl _ _⟩

theorem trans (h : Follows sourceSsrc w w') (h' : Follows sourceSsrc w' w'') :
    Follows sourceSsrc w w'' := ⟨h.routing.trans h'.routing, h.transport.trans h'.transport⟩

theorem of_transport {t : MediaTransport} (h : FollowsIn sourceSsrc w.transport.session t.session) :
    Follows sourceSsrc w { w with transport := t } := ⟨.refl _ _, h⟩

theorem cancelKeyframeRecovery (w : Recovering) : Follows sourceSsrc w w.cancelKeyframeRecovery :=
  ⟨.cancelKeyframeRequests _ _,
    .of_waiting (Finset.empty_subset _) w.transport.session.rtpRewriter⟩

theorem beginRecovery (rewritten : RewriteResult) (w : Recovering) :
    Follows sourceSsrc w (w.beginRecovery rewritten) := by
  unfold Recovering.beginRecovery
  split_ifs
  · exact cancelKeyframeRecovery w
  · exact refl sourceSsrc w

theorem dispatchKeyframeRequest (w : Recovering) (context : KeyframeRequestContext) :
    Follows context.sourceSsrc w (w.dispatchKeyframeRequest context) := by
  unfold Recovering.dispatchKeyframeRequest
  simp only
  split_ifs
  · split
    · rename_i result hresult
      refine ⟨?_, .refl _ _⟩
      have hperform : (w.routing.perform (.requestKeyframe w.transport.session.streamId
          w.transport.session.sessionId context.publisherSessionId context.sourceGeneration
          context.sourceSsrc)).router = result.1 := by
        simp only [RouterState.perform, hresult]
        exact (RouterState.withWait_frame _ _ _).1
      rw [hperform]
      exact .requestKeyframe hresult
    · exact ⟨.refl _ _, .of_waiting (Finset.erase_subset _ _) w.transport.session.rtpRewriter⟩
  · exact refl _ w

theorem completeKeyframeRequest (w : Recovering) (context : KeyframeRequestContext) :
    Follows sourceSsrc w (w.completeKeyframeRequest context) := by
  unfold Recovering.completeKeyframeRequest
  simp only
  split_ifs
  · exact ⟨.completeKeyframeRequest _ _ _ _ _ _, .refl _ _⟩
  · exact refl sourceSsrc w

end Follows

/-! ## Sending a packet -/

namespace MediaTransport
variable {t : MediaTransport} {source : MediaPublisherSource} {sourceGeneration : ℕ}
  {rewritten : RewriteResult}

/-- A step of the recovery concerns one source. -/
structure RecoveryStep.Concerns (step : RecoveryStep) (sourceSsrc : UInt32)
    (t : WhepSessionTransport) : Prop where
  transport : FollowsIn sourceSsrc t step.transport.session
  request : ∀ context, step.request = some context → context.sourceSsrc = sourceSsrc

theorem prepareKeyframeRequest_context {sourceSsrc targetSsrc : UInt32}
    {forceDispatch coalesceIfWaiting : Bool} {context : KeyframeRequestContext}
    (h : (t.prepareKeyframeRequest sourceGeneration sourceSsrc targetSsrc forceDispatch
      coalesceIfWaiting).2 = some context) : context.sourceSsrc = sourceSsrc := by
  unfold prepareKeyframeRequest at h
  rcases prepareKeyframeRequest_cases t.session sourceGeneration sourceSsrc targetSsrc
    forceDispatch coalesceIfWaiting with heq | ⟨source, -, heq⟩
  · rw [heq] at h
    cases h
  · rw [heq] at h
    simp only at h
    split_ifs at h
    cases h
    rfl

theorem observeKeyframe_concerns :
    (t.observeKeyframe source sourceGeneration rewritten).Concerns rewritten.sourceSsrc
      t.session := by
  have hsame : FollowsIn rewritten.sourceSsrc t.session t.session := .refl _ _
  unfold observeKeyframe
  split
  · exact ⟨hsame, fun context h => by cases h⟩
  · split
    · exact ⟨.of_waiting (Finset.erase_subset _ _) t.session.rtpRewriter, fun context h => by cases h⟩
    · exact ⟨.prepareKeyframeRequest _ _ _ _ _ _, fun context => prepareKeyframeRequest_context⟩
    all_goals exact ⟨hsame, fun context h => by cases h⟩

theorem RecoveryStep.Concerns.askUnlessReady {step : RecoveryStep} {t : WhepSessionTransport}
    (h : step.Concerns rewritten.sourceSsrc t) :
    (step.askUnlessReady sourceGeneration rewritten).Concerns rewritten.sourceSsrc t := by
  unfold RecoveryStep.askUnlessReady
  split_ifs
  · exact ⟨h.transport.trans (.prepareKeyframeRequest _ _ _ _ _ _),
      fun context => prepareKeyframeRequest_context⟩
  · exact h

@[simp] theorem rememberSent_session (t : MediaTransport) (now : ℤ) (packetSize : ℕ) (rtx : Bool)
    (number : Option UInt16) : (t.rememberSent now packetSize rtx number).session = t.session := by
  unfold rememberSent
  split_ifs <;> rfl

@[simp] theorem cacheRewrittenRtp_session (t : MediaTransport) (now : ℤ) (sourceGeneration : ℕ)
    (rewritten : RewriteResult) :
    (t.cacheRewrittenRtp now sourceGeneration rewritten).session = t.session := by
  unfold cacheRewrittenRtp
  split_ifs <;> rfl

theorem recordSent_session (t : MediaTransport) (now : ℤ) (sourceGeneration : ℕ)
    (datagram : List UInt8) (rewritten : RewriteResult) :
    (t.recordSent now sourceGeneration datagram rewritten).session =
      t.session.recordOutboundRtpSent rewritten := by
  rw [recordSent, cacheRewrittenRtp_session, rememberSent_session]

end MediaTransport

namespace Follows

theorem finishRecovery {sourceSsrc : UInt32} (w : Recovering) {step : MediaTransport.RecoveryStep}
    (h : step.Concerns sourceSsrc w.transport.session) :
    Follows sourceSsrc w (w.finishRecovery step) := by
  have hstep := of_transport (w := w) h.transport
  have hdispatched : ∀ w' context, step.request = some context → Follows sourceSsrc w w' →
      Follows sourceSsrc w (w'.dispatchKeyframeRequest context) := by
    intro w' context hcontext hw'
    have hdispatch := dispatchKeyframeRequest w' context
    rw [h.request context hcontext] at hdispatch
    exact hw'.trans hdispatch
  unfold Recovering.finishRecovery
  cases hcompleted : step.completed with
  | none =>
      cases hrequest : step.request with
      | none => exact hstep
      | some context => exact hdispatched _ context hrequest hstep
  | some completed =>
      have hcomplete : Follows sourceSsrc w _ := hstep.trans (completeKeyframeRequest _ completed)
      cases hrequest : step.request with
      | none => exact hcomplete
      | some context => exact hdispatched _ context hrequest hcomplete

theorem followKeyframes (sourceGeneration : ℕ) (rewritten : RewriteResult) (w : Recovering) :
    Follows rewritten.sourceSsrc w (w.followKeyframes sourceGeneration rewritten) := by
  unfold Recovering.followKeyframes
  split
  · exact refl _ w
  · split_ifs
    · exact refl _ w
    · exact (beginRecovery rewritten w).trans
        (finishRecovery _ MediaTransport.observeKeyframe_concerns.askUnlessReady)

/-- What is done with a packet concerns the source its header names. -/
theorem sendRtp {plainRtp : List UInt8} {header : RtpPacketHeader}
    (hheader : parseRtpPacketHeader plainRtp = .ok header) (now : ℤ) (srtp : SrtpAnswers)
    (sourceGeneration : ℕ) (w : Recovering) :
    Follows header.ssrc w (w.sendRtp now srtp sourceGeneration plainRtp) := by
  have hrewrote : FollowsIn header.ssrc w.transport.session
      (w.transport.rewrote plainRtp).session :=
    .of_waiting (Finset.Subset.refl _) _
  unfold Recovering.sendRtp
  rcases MediaTransport.forwardRtp_cases w.transport now srtp sourceGeneration plainRtp with
    heq | heq | ⟨rewritten, datagram, hsends, heq⟩
  · rw [heq]
    exact refl _ w
  · rw [heq]
    exact of_transport hrewrote
  · rw [heq]
    obtain ⟨header', hheader', hssrc⟩ := rewrite_sourceSsrc hsends.rewrite
    rw [hheader, Except.ok.injEq] at hheader'
    subst hheader'
    rw [← hssrc] at hrewrote ⊢
    refine Follows.trans (of_transport ?_) (followKeyframes sourceGeneration rewritten _)
    rw [MediaTransport.recordSent_session]
    exact hrewrote.trans (.recordOutboundRtpSent rewritten _)

end Follows

/-! ## Telling the subscribers -/

theorem lock_some {m : MediaSystem} {transport : ℕ} {t : MediaTransport} :
    m.lock transport = some t ↔ m.transports[transport]? = some t ∧ t.session.closed = false := by
  simp [MediaSystem.lock, Option.filter_eq_some_iff]

/-- What a packet of a source changes in the router and in all transports. -/
structure MediaFollows (sourceSsrc : UInt32) (m m' : MediaSystem) : Prop where
  routing : RoutesFollow sourceSsrc m.router m'.router
  transports : ∀ (i : ℕ) t, m.transports[i]? = some t → ∃ t', m'.transports[i]? = some t' ∧
    FollowsIn sourceSsrc t.session t'.session

namespace MediaFollows
variable {sourceSsrc : UInt32} {m m' m'' : MediaSystem}

theorem refl (sourceSsrc : UInt32) (m : MediaSystem) : MediaFollows sourceSsrc m m :=
  ⟨.refl _ _, fun _ t ht => ⟨t, ht, .refl _ _⟩⟩

theorem trans (h : MediaFollows sourceSsrc m m') (h' : MediaFollows sourceSsrc m' m'') :
    MediaFollows sourceSsrc m m'' := by
  refine ⟨h.routing.trans h'.routing, fun i t ht => ?_⟩
  obtain ⟨t', ht', hfollows⟩ := h.transports i t ht
  obtain ⟨t'', ht'', hfollows'⟩ := h'.transports i t' ht'
  exact ⟨t'', ht'', hfollows.trans hfollows'⟩

theorem foldl {α : Type*} {f : MediaSystem → α → MediaSystem}
    (hf : ∀ m a, MediaFollows sourceSsrc m (f m a)) (m : MediaSystem) (as : List α) :
    MediaFollows sourceSsrc m (as.foldl f m) := by
  induction as generalizing m with
  | nil => exact refl sourceSsrc m
  | cons a as ih => exact (hf m a).trans (ih (f m a))

theorem sendRtp {plainRtp : List UInt8} {header : RtpPacketHeader}
    (hheader : parseRtpPacketHeader plainRtp = .ok header) (delivery : Delivery)
    (sourceGeneration : ℕ) (m : MediaSystem) (transport : ℕ) :
    MediaFollows header.ssrc m (m.sendRtp delivery sourceGeneration plainRtp transport) := by
  unfold MediaSystem.sendRtp
  split
  · exact refl _ m
  · rename_i t ht
    obtain ⟨hat, -⟩ := lock_some.mp ht
    have hsent := Follows.sendRtp hheader delivery.now (delivery.srtp transport) sourceGeneration
      ⟨m.routing, t⟩
    refine ⟨hsent.routing, fun i t' ht' => ?_⟩
    by_cases hi : transport = i
    · subst hi
      rw [hat, Option.some.injEq] at ht'
      subst ht'
      have hlt := (List.getElem?_eq_some_iff.mp hat).1
      exact ⟨_, List.getElem?_set_self hlt, hsent.transport⟩
    · exact ⟨t', by simpa [List.getElem?_set_ne hi] using ht', .refl _ _⟩

theorem publishRtp {plainRtp : List UInt8} {header : RtpPacketHeader}
    (hheader : parseRtpPacketHeader plainRtp = .ok header) (delivery : Delivery)
    (streamId publisherSessionId : Text) (m : MediaSystem) :
    MediaFollows header.ssrc m (m.publishRtp delivery streamId publisherSessionId plainRtp) := by
  unfold MediaSystem.publishRtp
  split
  · exact refl _ m
  · exact foldl (sendRtp hheader delivery _) m _

end MediaFollows

namespace MediaSystem
variable {f : MediaTransport → MediaTransport}

theorem tell_routing (m : MediaSystem) (f : MediaTransport → MediaTransport) (transport : ℕ) :
    (m.tell f transport).routing = m.routing := by
  unfold tell
  split <;> rfl

theorem foldl_tell_routing (m : MediaSystem) (f : MediaTransport → MediaTransport)
    (transports : List ℕ) :
    (transports.foldl (fun m transport => m.tell f transport) m).routing = m.routing := by
  induction transports generalizing m with
  | nil => rfl
  | cons transport transports ih => exact (ih _).trans (tell_routing m f transport)

theorem tell_self {m : MediaSystem} {transport : ℕ} {t : MediaTransport}
    (ht : m.transports[transport]? = some t) (hopen : t.session.closed = false) :
    (m.tell f transport).transports[transport]? = some (f t) := by
  have hlt := (List.getElem?_eq_some_iff.mp ht).1
  simp only [tell, lock_some.mpr ⟨ht, hopen⟩]
  exact List.getElem?_set_self hlt

theorem tell_other {m : MediaSystem} {transport i : ℕ} (hne : transport ≠ i) :
    (m.tell f transport).transports[i]? = m.transports[i]? := by
  unfold tell
  split
  · rfl
  · exact List.getElem?_set_ne hne

theorem tell_closed {m : MediaSystem} {transport : ℕ} {t : MediaTransport}
    (ht : m.transports[transport]? = some t) (hclosed : t.session.closed = true) :
    m.tell f transport = m := by
  have hnone : m.lock transport = none := by simp [lock, ht, hclosed]
  simp only [tell, hnone]

/-- What telling a transport does in one step it does in any number of steps, and an open one
which is named is told at least once. -/
theorem foldl_tell_transports {R : WhepSessionTransport → WhepSessionTransport → Prop}
    (hrefl : ∀ t, R t t) (htrans : ∀ t t' t'', R t t' → R t' t'' → R t t'')
    (hstep : ∀ t, R t.session (f t).session)
    (transports : List ℕ) {m : MediaSystem} {i : ℕ} {t : MediaTransport}
    (ht : m.transports[i]? = some t) :
    ∃ t', (transports.foldl (fun m transport => m.tell f transport) m).transports[i]? = some t' ∧
      R t.session t'.session ∧ (i ∈ transports → t.session.closed = false →
        ∃ u, R t.session u.session ∧ R (f u).session t'.session) := by
  induction transports generalizing m t with
  | nil =>
      refine ⟨t, ht, hrefl _, fun hmem => ?_⟩
      cases hmem
  | cons transport transports ih =>
      rw [List.foldl_cons]
      by_cases hself : transport = i ∧ t.session.closed = false
      · obtain ⟨rfl, hopen⟩ := hself
        obtain ⟨t', ht', hrelated, -⟩ := ih (tell_self (f := f) ht hopen)
        exact ⟨t', ht', htrans _ _ _ (hstep t) hrelated, fun _ _ => ⟨t, hrefl _, hrelated⟩⟩
      · have hsame : (m.tell f transport).transports[i]? = some t := by
          by_cases hi : transport = i
          · subst hi
            rw [tell_closed ht (by simpa using hself), ht]
          · rw [tell_other hi, ht]
        obtain ⟨t', ht', hrelated, hnamed⟩ := ih hsame
        refine ⟨t', ht', hrelated, fun hmem hopen => ?_⟩
        rcases List.mem_cons.mp hmem with rfl | hmem
        · exact absurd ⟨rfl, hopen⟩ hself
        · exact hnamed hmem hopen

end MediaSystem

/-! ## Timings and BYEs in a transport -/

/-- What a timing which arrives changes in a transport. -/
structure Learns (timing : MediaPublisherSenderTiming) (t t' : WhepSessionTransport) : Prop where
  closed : t'.closed = t.closed
  sessionId : t'.sessionId = t.sessionId
  publisherSource : t'.publisherSource = t.publisherSource
  publisherSourceGeneration : t'.publisherSourceGeneration = t.publisherSourceGeneration
  waiting : t'.keyframeWaitingSourceSsrcs = t.keyframeWaitingSourceSsrcs
  timings : ∀ ssrc known, t'.publisherSenderTimings.find? ssrc = some known →
    t.publisherSenderTimings.find? ssrc = some known ∨ ssrc = timing.sourceSsrc ∧ known = timing
  kept : ∀ ssrc known, t.publisherSenderTimings.find? ssrc = some known →
    ∃ known', t'.publisherSenderTimings.find? ssrc = some known'
  senders : ∀ targetSsrc sender' mapped, t'.outboundRtcpSenders.find? targetSsrc = some sender' →
    sender'.senderTiming = some mapped →
    (∃ sender, t.outboundRtcpSenders.find? targetSsrc = some sender ∧
      sender.senderTiming = some mapped) ∨
    mapped.sourceSsrc = timing.sourceSsrc ∧
      ∃ known, t'.publisherSenderTimings.find? timing.sourceSsrc = some known

namespace Learns
variable {timing : MediaPublisherSenderTiming} {t t' t'' : WhepSessionTransport}

theorem refl (timing : MediaPublisherSenderTiming) (t : WhepSessionTransport) :
    Learns timing t t :=
  ⟨rfl, rfl, rfl, rfl, rfl, fun _ _ h => .inl h, fun _ known h => ⟨known, h⟩,
    fun _ sender _ hsender hmapped => .inl ⟨sender, hsender, hmapped⟩⟩

theorem trans (h : Learns timing t t') (h' : Learns timing t' t'') : Learns timing t t'' where
  closed := h'.closed.trans h.closed
  sessionId := h'.sessionId.trans h.sessionId
  publisherSource := h'.publisherSource.trans h.publisherSource
  publisherSourceGeneration := h'.publisherSourceGeneration.trans h.publisherSourceGeneration
  waiting := h'.waiting.trans h.waiting
  timings ssrc known hknown := (h'.timings ssrc known hknown).elim (h.timings ssrc known) .inr
  kept ssrc known hknown := by
    obtain ⟨known', hknown'⟩ := h.kept ssrc known hknown
    exact h'.kept ssrc known' hknown'
  senders := by
    intro targetSsrc sender'' mapped hsender hmapped
    rcases h'.senders targetSsrc sender'' mapped hsender hmapped with
      ⟨sender', hsender', hmapped'⟩ | hnew
    · rcases h.senders targetSsrc sender' mapped hsender' hmapped' with hold | ⟨hssrc, known, hknown⟩
      · exact .inl hold
      · exact .inr ⟨hssrc, h'.kept _ known hknown⟩
    · exact .inr hnew

theorem handlePublisherSenderTiming (timing : MediaPublisherSenderTiming)
    (t : WhepSessionTransport) : Learns timing t (t.handlePublisherSenderTiming timing) := by
  unfold WhepSessionTransport.handlePublisherSenderTiming
  split
  · exact refl timing t
  · split_ifs
    · exact refl timing t
    · let kept : WhepSessionTransport := { t with
        publisherSenderTimings := t.publisherSenderTimings.insertOrAssign timing.sourceSsrc timing }
      have hfollows := FollowsIn.refreshSenderTiming timing.sourceSsrc kept
      have hfind : ∀ ssrc, (kept.refreshSenderTiming
          timing.sourceSsrc).publisherSenderTimings.find? ssrc =
          if ssrc = timing.sourceSsrc then some timing
          else t.publisherSenderTimings.find? ssrc := by
        intro ssrc
        rw [hfollows.publisherSenderTimings]
        exact AssocMap.find?_insertOrAssign _ _ _ _
      refine ⟨hfollows.closed, hfollows.sessionId, hfollows.publisherSource,
        hfollows.publisherSourceGeneration, ?_, ?_, ?_, ?_⟩
      · exact refreshSenderTiming_waiting kept timing.sourceSsrc
      · intro ssrc known hknown
        rw [hfind] at hknown
        split_ifs at hknown with hssrc
        · exact .inr ⟨hssrc, (Option.some.inj hknown).symm⟩
        · exact .inl hknown
      · intro ssrc known hknown
        rw [hfind]
        split_ifs
        · exact ⟨timing, rfl⟩
        · exact ⟨known, hknown⟩
      · intro targetSsrc sender' mapped hsender hmapped
        rcases hfollows.senders targetSsrc sender' mapped hsender hmapped with
          hold | ⟨known, hknown, hssrc⟩
        · exact .inl hold
        · have heq : known = timing := by
            rw [AssocMap.find?_insertOrAssign_self] at hknown
            exact (Option.some.inj hknown).symm
          refine .inr ⟨heq ▸ hssrc, timing, ?_⟩
          rw [hfind, if_pos rfl]

end Learns

/-- What a BYE of a source may change in a transport. -/
structure Releases (sourceSsrc : UInt32) (t t' : WhepSessionTransport) : Prop where
  closed : t'.closed = t.closed
  sessionId : t'.sessionId = t.sessionId
  publisherSource : t'.publisherSource = t.publisherSource
  publisherSourceGeneration : t'.publisherSourceGeneration = t.publisherSourceGeneration
  rtpRewriter : t'.rtpRewriter = t.rtpRewriter
  waiting : t'.keyframeWaitingSourceSsrcs ⊆ t.keyframeWaitingSourceSsrcs
  timings : ∀ ssrc known, t'.publisherSenderTimings.find? ssrc = some known →
    t.publisherSenderTimings.find? ssrc = some known
  kept : ∀ ssrc known, ssrc ≠ sourceSsrc → t.publisherSenderTimings.find? ssrc = some known →
    t'.publisherSenderTimings.find? ssrc = some known
  senders : ∀ targetSsrc sender' mapped, t'.outboundRtcpSenders.find? targetSsrc = some sender' →
    sender'.senderTiming = some mapped → ∃ sender,
      t.outboundRtcpSenders.find? targetSsrc = some sender ∧ sender.senderTiming = some mapped

namespace Releases
variable {sourceSsrc : UInt32} {t t' t'' : WhepSessionTransport}

theorem refl (sourceSsrc : UInt32) (t : WhepSessionTransport) : Releases sourceSsrc t t :=
  ⟨rfl, rfl, rfl, rfl, rfl, Finset.Subset.refl _, fun _ _ h => h, fun _ _ _ h => h,
    fun _ sender _ hsender hmapped => ⟨sender, hsender, hmapped⟩⟩

theorem trans (h : Releases sourceSsrc t t') (h' : Releases sourceSsrc t' t'') :
    Releases sourceSsrc t t'' where
  closed := h'.closed.trans h.closed
  sessionId := h'.sessionId.trans h.sessionId
  publisherSource := h'.publisherSource.trans h.publisherSource
  publisherSourceGeneration := h'.publisherSourceGeneration.trans h.publisherSourceGeneration
  rtpRewriter := h'.rtpRewriter.trans h.rtpRewriter
  waiting := h'.waiting.trans h.waiting
  timings ssrc known hknown := h.timings ssrc known (h'.timings ssrc known hknown)
  kept ssrc known hne hknown := h'.kept ssrc known hne (h.kept ssrc known hne hknown)
  senders targetSsrc sender'' mapped hsender hmapped := by
    obtain ⟨sender', hsender', hmapped'⟩ := h'.senders targetSsrc sender'' mapped hsender hmapped
    exact h.senders targetSsrc sender' mapped hsender' hmapped'

theorem handlePublisherSourceBye (bye : MediaPublisherSourceBye) (t : WhepSessionTransport) :
    Releases bye.sourceSsrc t (t.handlePublisherSourceBye bye) := by
  unfold WhepSessionTransport.handlePublisherSourceBye
  split
  · exact refl _ t
  · rename_i source hsource
    split_ifs
    · exact refl _ t
    · refine ⟨rfl, rfl, hsource.symm ▸ rfl, rfl, rfl, Finset.erase_subset _ _, ?_, ?_, ?_⟩
      · intro ssrc known hknown
        rw [AssocMap.find?_erase] at hknown
        split_ifs at hknown
        exact hknown
      · intro ssrc known hne hknown
        rw [AssocMap.find?_erase, if_neg hne]
        exact hknown
      · intro targetSsrc sender' mapped hsender hmapped
        simp only [AssocMap.find?_mapValues, Option.map_eq_some_iff] at hsender
        obtain ⟨sender, hsender, rfl⟩ := hsender
        refine ⟨sender, hsender, ?_⟩
        split_ifs at hmapped
        exact hmapped

end Releases

/-- A BYE which is not turned away leaves nothing of its source but the timings of SSRCs the source
is not bound to. -/
theorem handlePublisherSourceBye_released {bye : MediaPublisherSourceBye}
    {t : WhepSessionTransport} {source : MediaPublisherSource}
    (hsource : t.publisherSource = some source) (hsession : bye.publisherSessionId = source.sessionId)
    (hgeneration : bye.sourceGeneration = t.publisherSourceGeneration)
    (hssrc : bye.sourceSsrc ≠ 0) :
    (t.handlePublisherSourceBye bye).publisherSenderTimings.find? bye.sourceSsrc = none ∧
      bye.sourceSsrc ∉ (t.handlePublisherSourceBye bye).keyframeWaitingSourceSsrcs ∧
      ∀ targetSsrc sender' mapped,
        (t.handlePublisherSourceBye bye).outboundRtcpSenders.find? targetSsrc = some sender' →
        sender'.senderTiming = some mapped →
          t.rtpRewriter.sourceSsrcForTargetSsrc targetSsrc ≠ some bye.sourceSsrc := by
  have hcurrent : ¬(bye.publisherSessionId ≠ source.sessionId ∨
      bye.sourceGeneration ≠ t.publisherSourceGeneration ∨ bye.sourceSsrc = 0) := by
    rintro (hne | hne | hzero)
    · exact hne hsession
    · exact hne hgeneration
    · exact hssrc hzero
  simp only [WhepSessionTransport.handlePublisherSourceBye, hsource, if_neg hcurrent]
  refine ⟨AssocMap.find?_erase_self _ _, Finset.notMem_erase _ _, ?_⟩
  intro targetSsrc sender' mapped hsender hmapped hbound
  simp only [AssocMap.find?_mapValues, Option.map_eq_some_iff] at hsender
  obtain ⟨sender, -, rfl⟩ := hsender
  rw [if_pos hbound] at hmapped
  cases hmapped

end SimpleWebrtc.WhepMedia
