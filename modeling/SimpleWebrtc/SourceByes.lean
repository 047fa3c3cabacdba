import SimpleWebrtc.TrackedSources

/-!
# The end of a source

The sources a BYE names leave the table one after the other, and the router and
the subscribers are told of those which were in it. What is told forgets the
source, whatever else the subscribers and the router keep.
-/
namespace SimpleWebrtc.WhipMedia
open Library Library.Text RtpPacket RtcpReport RtcpCompoundPacket MediaFanout WhepSession WhepMedia
  RewriterConfig

/-! ## The reports of a compound -/

theorem handleReport_consistent {pending : List UInt32} {w : PublishedStream}
    (hw : Consistent pending w) (delivery : Delivery) (report : RtcpReportPacket)
    (hroom : report.senderInfo.isSome = true → report.senderSsrc ≠ 0 →
      w.HasRoomFor report.senderSsrc) :
    Consistent pending (PublishedStream.handleReport delivery w report) := by
  rcases handleReport_cases hw delivery report hroom with
    ⟨-, heq⟩ | ⟨-, hfollows⟩ | ⟨-, timing, -, hreports⟩
  · rw [heq]
    exact hw
  · exact hfollows.consistent hw
  · exact hreports.consistent hw

theorem handleReport_forgotten {pending : List UInt32} {w : PublishedStream}
    (hw : Consistent pending w) (delivery : Delivery) (report : RtcpReportPacket)
    (hroom : report.senderInfo.isSome = true → report.senderSsrc ≠ 0 →
      w.HasRoomFor report.senderSsrc) {ssrc : UInt32}
    (hother : report.senderInfo.isSome = true → report.senderSsrc ≠ ssrc)
    (hforgotten : w.Forgotten ssrc) :
    (PublishedStream.handleReport delivery w report).Forgotten ssrc := by
  rcases handleReport_cases hw delivery report hroom with
    ⟨-, heq⟩ | ⟨hzero, hfollows⟩ | ⟨hinfo, timing, htiming, hreports⟩
  · rw [heq]
    exact hforgotten
  · by_cases hssrc : ssrc = 0
    · rw [hssrc]
      exact (hfollows.consistent hw).forgotten_zero
    · exact hfollows.forgotten hw hssrc hforgotten
  · apply hreports.forgotten hw _ hforgotten
    rw [htiming]
    exact (hother hinfo).symm

theorem reports_consistent (delivery : Delivery) {reports : List RtcpReportPacket}
    {pending : List UInt32} {w : PublishedStream} (hw : Consistent pending w)
    (hfit : PublishedStream.ReportsFit delivery w reports) :
    Consistent pending (reports.foldl (PublishedStream.handleReport delivery) w) := by
  induction reports generalizing w with
  | nil => exact hw
  | cons report reports ih => exact ih (handleReport_consistent hw delivery report hfit.1) hfit.2

theorem reports_forgotten (delivery : Delivery) {reports : List RtcpReportPacket}
    {pending : List UInt32} {w : PublishedStream} (hw : Consistent pending w)
    (hfit : PublishedStream.ReportsFit delivery w reports) {ssrc : UInt32}
    (hother : ∀ report ∈ reports, report.senderInfo.isSome = true → report.senderSsrc ≠ ssrc)
    (hforgotten : w.Forgotten ssrc) :
    (reports.foldl (PublishedStream.handleReport delivery) w).Forgotten ssrc := by
  induction reports generalizing w with
  | nil => exact hforgotten
  | cons report reports ih =>
      rw [List.forall_mem_cons] at hother
      apply ih (handleReport_consistent hw delivery report hfit.1) hfit.2 hother.2
      exact handleReport_forgotten hw delivery report hfit.1 hother.1 hforgotten

/-! ## Leaving the table -/

/-- What the table keeps of the sources BYEs name. -/
structure EndsSources (t t' : WhipSessionTransport) (sources ended : List EndedSource) : Prop where
  streamId : t'.streamId = t.streamId
  sessionId : t'.sessionId = t.sessionId
  generation : t'.publisherSourceGeneration = t.publisherSourceGeneration
  bounded : t'.inboundRtcpReceivers.size ≤ t.inboundRtcpReceivers.size
  kept : ∀ ssrc, (t.inboundRtcpReceivers.find? ssrc).isSome = true →
    (t'.inboundRtcpReceivers.find? ssrc).isSome = true ∨ ssrc ∈ ended.map EndedSource.sourceSsrc
  named : ∀ source ∈ ended, source ∈ sources ∧ source.sourceSsrc ≠ 0 ∧
    (t.inboundRtcpReceivers.find? source.sourceSsrc).isSome = true
  complete : ∀ source ∈ sources, source.sourceSsrc ≠ 0 →
    (t.inboundRtcpReceivers.find? source.sourceSsrc).isSome = true →
      source.sourceSsrc ∈ ended.map EndedSource.sourceSsrc

/-- One source after the other. -/
theorem endSources_cons (t : WhipSessionTransport) (source : EndedSource)
    (sources : List EndedSource) :
    t.endSources (source :: sources) =
      if source.sourceSsrc ≠ 0 ∧ (t.inboundRtcpReceivers.find? source.sourceSsrc).isSome = true then
        let rest := WhipSessionTransport.endSources { t with
          inboundRtcpReceivers := t.inboundRtcpReceivers.erase source.sourceSsrc } sources
        (rest.1, source :: rest.2)
      else t.endSources sources := by
  rw [WhipSessionTransport.endSources, WhipSessionTransport.endSource]
  split_ifs <;> rfl

theorem endSources_spec (t : WhipSessionTransport) (sources : List EndedSource) :
    EndsSources t (t.endSources sources).1 sources (t.endSources sources).2 := by
  induction sources generalizing t with
  | nil =>
      exact ⟨rfl, rfl, rfl, le_refl _, fun _ h => .inl h, fun _ h => absurd h List.not_mem_nil,
        fun _ h => absurd h List.not_mem_nil⟩
  | cons source sources ih =>
      rw [endSources_cons]
      split_ifs with htracked
      · have hrest := ih { t with
          inboundRtcpReceivers := t.inboundRtcpReceivers.erase source.sourceSsrc }
        constructor
        · exact hrest.streamId
        · exact hrest.sessionId
        · exact hrest.generation
        · exact hrest.bounded.trans (List.length_filter_le _ _)
        · intro ssrc hssrc
          rw [List.map_cons, List.mem_cons]
          by_cases heq : ssrc = source.sourceSsrc
          · exact .inr (.inl heq)
          · have hkept := hrest.kept ssrc
            rw [AssocMap.find?_erase, if_neg heq] at hkept
            exact (hkept hssrc).imp_right .inr
        · intro source' hsource'
          rcases List.mem_cons.mp hsource' with rfl | hmem
          · exact ⟨List.mem_cons_self, htracked⟩
          · obtain ⟨hnamed, hne, hfind⟩ := hrest.named source' hmem
            rw [AssocMap.find?_erase] at hfind
            split_ifs at hfind
            · exact absurd hfind (by simp)
            · exact ⟨List.mem_cons_of_mem _ hnamed, hne, hfind⟩
        · intro source' hsource' hne hfind
          rw [List.map_cons, List.mem_cons]
          by_cases heq : source'.sourceSsrc = source.sourceSsrc
          · exact .inl heq
          · rcases List.mem_cons.mp hsource' with rfl | hmem
            · exact absurd rfl heq
            · refine .inr (hrest.complete source' hmem hne ?_)
              rw [AssocMap.find?_erase, if_neg heq]
              exact hfind
      · have hrest := ih t
        constructor
        · exact hrest.streamId
        · exact hrest.sessionId
        · exact hrest.generation
        · exact hrest.bounded
        · exact hrest.kept
        · intro source' hsource'
          obtain ⟨hnamed, hfind⟩ := hrest.named source' hsource'
          exact ⟨List.mem_cons_of_mem _ hnamed, hfind⟩
        · intro source' hsource' hne hfind
          rcases List.mem_cons.mp hsource' with rfl | hmem
          · exact absurd ⟨hne, hfind⟩ htracked
          · exact hrest.complete source' hmem hne hfind

/-! ## Telling the router and the subscribers -/

/-- A subscriber which was told of the end of a source. -/
structure Released (sourceSsrc : UInt32) (t t' : WhepSessionTransport) : Prop
    extends Releases sourceSsrc t t' where
  forgotten : t'.publisherSenderTimings.find? sourceSsrc = none
  unasked : sourceSsrc ∉ t'.keyframeWaitingSourceSsrcs
  unbound : ∀ targetSsrc sender' mapped, t'.outboundRtcpSenders.find? targetSsrc = some sender' →
    sender'.senderTiming = some mapped →
      t.rtpRewriter.sourceSsrcForTargetSsrc targetSsrc ≠ some sourceSsrc

/-- What is told between does not matter. -/
theorem Released.of_told {bye : MediaPublisherSourceBye} {t u t' : WhepSessionTransport}
    {source : MediaPublisherSource} (hsource : t.publisherSource = some source)
    (hsession : bye.publisherSessionId = source.sessionId)
    (hgeneration : bye.sourceGeneration = t.publisherSourceGeneration)
    (hssrc : bye.sourceSsrc ≠ 0) (hbefore : Releases bye.sourceSsrc t u)
    (hafter : Releases bye.sourceSsrc (u.handlePublisherSourceBye bye) t') :
    Released bye.sourceSsrc t t' := by
  obtain ⟨htiming, hwaiting, hsenders⟩ := handlePublisherSourceBye_released
    (hbefore.publisherSource.trans hsource) hsession
    (hgeneration.trans hbefore.publisherSourceGeneration.symm) hssrc
  refine ⟨(hbefore.trans (.handlePublisherSourceBye bye u)).trans hafter, ?_, ?_, ?_⟩
  · rw [Option.eq_none_iff_forall_ne_some]
    intro known hknown
    rw [hafter.timings _ known hknown] at htiming
    cases htiming
  · intro hmem
    exact hwaiting (hafter.waiting hmem)
  · intro targetSsrc sender' mapped hsender' hmapped
    obtain ⟨sender, hsender, hsame⟩ := hafter.senders targetSsrc sender' mapped hsender' hmapped
    rw [← hbefore.rtpRewriter]
    exact hsenders targetSsrc sender mapped hsender hsame

/-- What telling the end of a source changes. -/
structure Erases (sourceSsrc : UInt32) (w w' : PublishedStream) : Prop where
  publisher : w'.publisher = w.publisher
  subscriptions : w'.media.router.subscriptionsBySessionId =
    w.media.router.subscriptionsBySessionId
  sources : w'.media.router.publisherSourcesByStreamId = w.media.router.publisherSourcesByStreamId
  generations : w'.media.router.publisherSourceGenerationsByStreamId =
    w.media.router.publisherSourceGenerationsByStreamId
  requests : ∀ key state, w'.media.router.keyframeRequests.find? key = some state →
    w.media.router.keyframeRequests.find? key = some state ∧
      key ≠ ⟨w.publisher.streamId, w.publisher.sessionId, w.publisher.publisherSourceGeneration,
        sourceSsrc⟩
  stores : ∀ ssrc timing, w'.Stores ssrc timing ↔ ssrc ≠ sourceSsrc ∧ w.Stores ssrc timing
  subscribers : ∀ id transport media, w.media.router.subscriptionsBySessionId.find? id =
    some ⟨w.publisher.streamId, transport⟩ → w.media.transports[transport]? = some media →
      ∃ media', w'.media.transports[transport]? = some media' ∧
        Released sourceSsrc media.session media'.session

theorem publishSourceBye_perform (s : RouterState) {streamId publisherSessionId : Text}
    {sourceGeneration : ℕ} {sourceSsrc : UInt32} {reason : Text}
    {result : MediaFanoutRouter × MediaPublisherSourceBye × List ℕ}
    (h : s.router.publishSourceBye streamId publisherSessionId sourceGeneration sourceSsrc reason =
      some result) :
    (s.perform (.publishSourceBye streamId publisherSessionId sourceGeneration sourceSsrc
      reason)).router = result.1 := by
  simp only [RouterState.perform, h]
  rfl

/-- What the router forgets is the timing of one source. -/
theorem forgetSenderTiming_stores {r : MediaFanoutRouter} {streamId : Text}
    {sourceSsrc ssrc : UInt32} {timing : MediaPublisherSenderTiming} :
    (∃ timings, (r.forgetSenderTiming streamId sourceSsrc).find? streamId = some timings ∧
      timings.find? ssrc = some timing) ↔
      ssrc ≠ sourceSsrc ∧ StoresTiming r streamId ssrc timing := by
  unfold MediaFanoutRouter.forgetSenderTiming StoresTiming
  cases hold : r.publisherSenderTimingsByStreamId.find? streamId with
  | none => simp [hold]
  | some timings =>
      have herased : (timings.erase sourceSsrc).find? ssrc = some timing ↔
          ssrc ≠ sourceSsrc ∧ timings.find? ssrc = some timing := by
        rw [AssocMap.find?_erase]
        split_ifs with hssrc
        · simp [hssrc]
        · simp [hssrc]
      simp only [Option.some.injEq, exists_eq_left']
      rw [← herased]
      split_ifs with hempty
      · have hnone : (timings.erase sourceSsrc).find? ssrc = none := by
          simp [AssocMap.find?, hempty]
        simp [hnone]
      · simp

theorem publishBye_erases {pending : List UInt32} {w : PublishedStream} (hw : Consistent pending w)
    (delivery : Delivery) (source : EndedSource) (hne : source.sourceSsrc ≠ 0) :
    Erases source.sourceSsrc w (PublishedStream.publishBye delivery w source) := by
  obtain ⟨current, hcurrent⟩ :=
    Option.isSome_iff_exists.mp (findCurrentSource_isSome.mpr hw.current)
  let bye : MediaPublisherSourceBye :=
    { publisherSessionId := current.sessionId
      sourceGeneration := current.generation
      sourceSsrc := source.sourceSsrc
      reason := source.reason }
  have hresult : w.media.router.publishSourceBye w.publisher.streamId w.publisher.sessionId
      w.publisher.publisherSourceGeneration source.sourceSsrc source.reason =
        some ({ w.media.router with
          publisherSenderTimingsByStreamId :=
            w.media.router.forgetSenderTiming w.publisher.streamId source.sourceSsrc
          keyframeRequests := w.media.router.keyframeRequests.erase
            ⟨w.publisher.streamId, w.publisher.sessionId, w.publisher.publisherSourceGeneration,
              source.sourceSsrc⟩ },
          bye, w.media.router.streamTransports w.publisher.streamId) := by
    simp only [MediaFanoutRouter.publishSourceBye, hw.streamId, hw.sessionId,
      hw.generation_ne_zero, hne, or_self, if_false, hcurrent]
    rfl
  have hrouter := publishSourceBye_perform w.media.routing hresult
  unfold PublishedStream.publishBye MediaSystem.publishSourceBye
  simp only [hresult]
  constructor
  · rfl
  all_goals
    simp only [MediaSystem.router, MediaSystem.foldl_tell_routing, hrouter]
  · intro key state hstate
    rw [AssocMap.find?_erase] at hstate
    split_ifs at hstate with hkey
    exact ⟨hstate, hkey⟩
  · intro ssrc timing
    simp only [PublishedStream.Stores, StoresTiming, MediaSystem.router,
      MediaSystem.foldl_tell_routing, hrouter]
    exact forgetSenderTiming_stores
  · intro id transport media hsubscription hmedia
    obtain ⟨media', hmedia', hserved⟩ := hw.subscriptions id transport hsubscription
    rw [hmedia, Option.some.injEq] at hmedia'
    subst hmedia'
    have hnamed : transport ∈ delivery.order.visit
        (w.media.router.streamTransports w.publisher.streamId) := by
      rw [VisitOrder.mem_visit, MediaFanoutRouter.mem_streamTransports]
      exact ⟨id, hsubscription⟩
    obtain ⟨t', ht', -, htold⟩ := MediaSystem.foldl_tell_transports
      (f := MediaTransport.handlePublisherSourceBye bye) (Releases.refl source.sourceSsrc)
      (fun _ _ _ => Releases.trans)
      (fun t => Releases.handlePublisherSourceBye bye t.session)
      (delivery.order.visit (w.media.router.streamTransports w.publisher.streamId))
      (m := { w.media with
        routing := w.media.routing.perform (.publishSourceBye w.publisher.streamId
          w.publisher.sessionId w.publisher.publisherSourceGeneration source.sourceSsrc
          source.reason) }) hmedia
    obtain ⟨u, hbefore, hafter⟩ := htold hnamed hserved.opened
    obtain ⟨told, hpublisher, hsession⟩ := hserved.publisherSource
    obtain ⟨-, hid, hgeneration⟩ := findCurrentSource_some hcurrent
    have hreleased : Released bye.sourceSsrc media.session t'.session :=
      .of_told hpublisher (hid.trans hsession.symm) (hgeneration.trans hserved.generation.symm) hne
        hbefore hafter
    exact ⟨t', ht', hreleased⟩

namespace Erases
variable {pending : List UInt32} {w w' : PublishedStream} {sourceSsrc : UInt32}

/-- A subscriber of the stream was one before, and was told. -/
theorem subscribed (h : Erases sourceSsrc w w') (hw : Consistent pending w) {id : Text}
    {t' : WhepSessionTransport} (ht' : w'.Subscribed id t') :
    ∃ t, w.Subscribed id t ∧ Released sourceSsrc t t' := by
  obtain ⟨transport, media', hsubscription, hmedia', rfl⟩ := ht'
  rw [h.publisher, h.subscriptions] at hsubscription
  obtain ⟨media, hmedia, -⟩ := hw.subscriptions id transport hsubscription
  obtain ⟨media'', hmedia'', hreleased⟩ := h.subscribers id transport media hsubscription hmedia
  rw [hmedia', Option.some.injEq] at hmedia''
  subst hmedia''
  exact ⟨media.session, ⟨transport, media, hsubscription, hmedia, rfl⟩, hreleased⟩

theorem served (h : Erases sourceSsrc w w') (hbound : w.BoundWhereTimed sourceSsrc) {id : Text}
    {t t' : WhepSessionTransport} (ht : w.Subscribed id t) (hserved : Served w id t)
    (hreleased : Released sourceSsrc t t') : Served w' id t' where
  named := hserved.named
  opened := hreleased.closed.trans hserved.opened
  sessionId := hreleased.sessionId.trans hserved.sessionId
  publisherSource := by
    rw [hreleased.publisherSource, h.publisher]
    exact hserved.publisherSource
  generation := by
    rw [hreleased.publisherSourceGeneration, h.publisher]
    exact hserved.generation
  waiting hzero := hserved.waiting (hreleased.waiting hzero)
  timings := by
    intro ssrc known hknown
    have hne : ssrc ≠ sourceSsrc := by
      rintro rfl
      rw [hreleased.forgotten] at hknown
      cases hknown
    obtain ⟨hssrc, stored, hstores⟩ := hserved.timings ssrc known (hreleased.timings ssrc known hknown)
    exact ⟨hssrc, stored, (h.stores ssrc stored).mpr ⟨hne, hstores⟩⟩
  senders := by
    intro targetSsrc sender' mapped hsender' hmapped
    obtain ⟨sender, hsender, hsame⟩ := hreleased.senders targetSsrc sender' mapped hsender' hmapped
    obtain ⟨known, hknown⟩ := hserved.senders targetSsrc sender mapped hsender hsame
    have hne : mapped.sourceSsrc ≠ sourceSsrc := by
      intro heq
      exact hreleased.unbound targetSsrc sender' mapped hsender' hmapped
        (hbound id t ht targetSsrc sender mapped hsender hsame heq)
    exact ⟨known, hreleased.kept mapped.sourceSsrc known hne hknown⟩

theorem consistent (h : Erases sourceSsrc w w') (hw : Consistent (sourceSsrc :: pending) w)
    (hbound : w.BoundWhereTimed sourceSsrc) : Consistent pending w' where
  streamId := h.publisher ▸ hw.streamId
  sessionId := h.publisher ▸ hw.sessionId
  generation_ne_zero := h.publisher ▸ hw.generation_ne_zero
  current := by
    rw [h.publisher, IsCurrent, h.sources]
    exact hw.current
  generation := by
    rw [h.publisher, h.generations]
    exact hw.generation
  bounded := by
    rw [h.publisher]
    exact hw.bounded
  stored := by
    intro ssrc timing hstores
    obtain ⟨hne, hstores⟩ := (h.stores ssrc timing).mp hstores
    obtain ⟨heq, hzero, htracked⟩ := hw.stored ssrc timing hstores
    rw [h.publisher]
    exact ⟨heq, hzero, htracked.imp_right fun hmem => (List.mem_cons.mp hmem).resolve_left hne⟩
  requests := by
    intro key state hstate hstream
    rw [h.publisher] at hstream ⊢
    exact hw.requests key state (h.requests key state hstate).1 hstream
  subscriptions := by
    intro id transport hsubscription
    rw [h.publisher, h.subscriptions] at hsubscription
    obtain ⟨media, hmedia, hserved⟩ := hw.subscriptions id transport hsubscription
    obtain ⟨media', hmedia', hreleased⟩ := h.subscribers id transport media hsubscription hmedia
    exact ⟨media', hmedia', h.served hbound ⟨transport, media, hsubscription, hmedia, rfl⟩ hserved
      hreleased⟩

theorem forgotten_self (h : Erases sourceSsrc w w') (hw : Consistent pending w)
    (hbound : w.BoundWhereTimed sourceSsrc) : w'.Forgotten sourceSsrc where
  timing timing hstores := ((h.stores sourceSsrc timing).mp hstores).1 rfl
  requests := by
    intro key state hstate hstream hssrc
    obtain ⟨hold, hkey⟩ := h.requests key state hstate
    rw [h.publisher] at hstream
    obtain ⟨hsession, hgeneration, -⟩ := hw.requests key state hold hstream
    apply hkey
    rw [← hstream, ← hsession, ← hgeneration, ← hssrc]
  subscribers := by
    intro id t' ht'
    obtain ⟨t, ht, hreleased⟩ := h.subscribed hw ht'
    refine ⟨hreleased.forgotten, ?_, hreleased.unasked⟩
    intro targetSsrc sender' mapped hsender' hmapped heq
    obtain ⟨sender, hsender, hsame⟩ := hreleased.senders targetSsrc sender' mapped hsender' hmapped
    exact hreleased.unbound targetSsrc sender' mapped hsender' hmapped
      (hbound id t ht targetSsrc sender mapped hsender hsame heq)

/-- What was forgotten stays so. -/
theorem forgotten (h : Erases sourceSsrc w w') (hw : Consistent pending w) {ssrc : UInt32}
    (hforgotten : w.Forgotten ssrc) : w'.Forgotten ssrc where
  timing timing hstores := hforgotten.timing timing ((h.stores ssrc timing).mp hstores).2
  requests := by
    intro key state hstate hstream
    rw [h.publisher] at hstream
    exact hforgotten.requests key state (h.requests key state hstate).1 hstream
  subscribers := by
    intro id t' ht'
    obtain ⟨t, ht, hreleased⟩ := h.subscribed hw ht'
    have hforgets := hforgotten.subscribers id t ht
    constructor
    · rw [Option.eq_none_iff_forall_ne_some]
      intro known hknown
      have hold := hreleased.timings ssrc known hknown
      rw [hforgets.timing] at hold
      cases hold
    · intro targetSsrc sender' mapped hsender' hmapped
      obtain ⟨sender, hsender, hsame⟩ :=
        hreleased.senders targetSsrc sender' mapped hsender' hmapped
      exact hforgets.senders targetSsrc sender mapped hsender hsame
    · exact fun hwaiting => hforgets.waiting (hreleased.waiting hwaiting)

/-- The rewriters stay, and no sender gets a timing. -/
theorem boundWhereTimed (h : Erases sourceSsrc w w') (hw : Consistent pending w) {ssrc : UInt32}
    (hbound : w.BoundWhereTimed ssrc) : w'.BoundWhereTimed ssrc := by
  intro id t' ht' targetSsrc sender' mapped hsender' hmapped heq
  obtain ⟨t, ht, hreleased⟩ := h.subscribed hw ht'
  obtain ⟨sender, hsender, hsame⟩ := hreleased.senders targetSsrc sender' mapped hsender' hmapped
  rw [hreleased.rtpRewriter]
  exact hbound id t ht targetSsrc sender mapped hsender hsame heq

end Erases

/-- After the last of the sources nothing is left of any of them. -/
theorem publishByes_erase (delivery : Delivery) {ended : List EndedSource} {w : PublishedStream}
    (hw : Consistent (ended.map EndedSource.sourceSsrc) w)
    (hended : ∀ source ∈ ended, source.sourceSsrc ≠ 0 ∧ w.BoundWhereTimed source.sourceSsrc) :
    Consistent [] (ended.foldl (PublishedStream.publishBye delivery) w) ∧
      (∀ source ∈ ended,
        (ended.foldl (PublishedStream.publishBye delivery) w).Forgotten source.sourceSsrc) ∧
      ∀ ssrc, w.Forgotten ssrc →
        (ended.foldl (PublishedStream.publishBye delivery) w).Forgotten ssrc := by
  induction ended generalizing w with
  | nil => exact ⟨hw, fun _ h => absurd h List.not_mem_nil, fun _ h => h⟩
  | cons source ended ih =>
      rw [List.forall_mem_cons] at hended
      obtain ⟨⟨hne, hbound⟩, hrest⟩ := hended
      have herases := publishBye_erases hw delivery source hne
      obtain ⟨hconsistent, hall, hkept⟩ := ih (herases.consistent hw hbound)
        fun source' hsource' => ⟨(hrest source' hsource').1,
          herases.boundWhereTimed hw (hrest source' hsource').2⟩
      refine ⟨hconsistent, ?_, fun ssrc hforgotten => hkept ssrc (herases.forgotten hw hforgotten)⟩
      rw [List.forall_mem_cons]
      exact ⟨hkept _ (herases.forgotten_self hw hbound), hall⟩

/-! ## A compound -/

theorem mem_namedSources {byePackets : List RtcpByePacket} {ssrc : UInt32} :
    (∃ source ∈ namedSources byePackets, source.sourceSsrc = ssrc) ↔
      ∃ bye ∈ byePackets, ssrc ∈ bye.ssrcs := by
  simp only [namedSources, List.mem_flatMap, List.mem_map]
  constructor
  · rintro ⟨_, ⟨bye, hbye, named, hnamed, rfl⟩, rfl⟩
    exact ⟨bye, hbye, hnamed⟩
  · rintro ⟨bye, hbye, hnamed⟩
    exact ⟨⟨ssrc, bye.reason⟩, ⟨bye, hbye, ssrc, hnamed, rfl⟩, rfl⟩

namespace EndsSources
variable {w : PublishedStream} {publisher : WhipSessionTransport} {sources ended : List EndedSource}

theorem consistent (h : EndsSources w.publisher publisher sources ended) (hw : Consistent [] w) :
    Consistent (ended.map EndedSource.sourceSsrc) { w with publisher } where
  streamId := h.streamId ▸ hw.streamId
  sessionId := h.sessionId ▸ hw.sessionId
  generation_ne_zero := h.generation ▸ hw.generation_ne_zero
  current := by
    rw [h.streamId, h.sessionId, h.generation]
    exact hw.current
  generation := by
    rw [h.streamId, h.generation]
    exact hw.generation
  bounded := h.bounded.trans hw.bounded
  stored := by
    intro ssrc timing hstores
    rw [PublishedStream.Stores, h.streamId] at hstores
    obtain ⟨heq, hne, htracked⟩ := hw.stored ssrc timing hstores
    exact ⟨heq, hne, h.kept ssrc (htracked.resolve_right List.not_mem_nil)⟩
  requests := by
    intro key state hstate hstream
    rw [h.streamId] at hstream
    rw [h.sessionId, h.generation]
    exact hw.requests key state hstate hstream
  subscriptions := by
    intro id transport hsubscription
    rw [h.streamId] at hsubscription
    obtain ⟨media, hmedia, hserved⟩ := hw.subscriptions id transport hsubscription
    refine ⟨media, hmedia, ⟨⟨hserved.named, hserved.opened, hserved.sessionId, ?_, ?_⟩,
      hserved.waiting, ?_, hserved.senders⟩⟩
    · rw [h.sessionId]
      exact hserved.publisherSource
    · exact hserved.generation.trans h.generation.symm
    · intro ssrc timing htiming
      obtain ⟨heq, stored, hstores⟩ := hserved.timings ssrc timing htiming
      refine ⟨heq, stored, ?_⟩
      rw [PublishedStream.Stores, h.streamId]
      exact hstores

theorem forgotten (h : EndsSources w.publisher publisher sources ended) {ssrc : UInt32}
    (hforgotten : w.Forgotten ssrc) : PublishedStream.Forgotten { w with publisher } ssrc where
  timing := by
    intro timing hstores
    rw [PublishedStream.Stores, h.streamId] at hstores
    exact hforgotten.timing timing hstores
  requests := by
    intro key state hstate hstream
    rw [h.streamId] at hstream
    exact hforgotten.requests key state hstate hstream
  subscribers := by
    intro id t ht
    rw [PublishedStream.Subscribed, h.streamId] at ht
    exact hforgotten.subscribers id t ht

theorem boundWhereTimed (h : EndsSources w.publisher publisher sources ended) {ssrc : UInt32}
    (hbound : w.BoundWhereTimed ssrc) :
    PublishedStream.BoundWhereTimed { w with publisher } ssrc := by
  intro id t ht
  rw [PublishedStream.Subscribed, h.streamId] at ht
  exact hbound id t ht

end EndsSources

/-- Of a source which is not tracked nothing is kept that was not asked for. -/
theorem forgotten_of_untracked {w : PublishedStream} (hw : Consistent [] w) {ssrc : UInt32}
    (huntracked : (w.publisher.inboundRtcpReceivers.find? ssrc).isSome = false)
    (hunrequested : w.Unrequested ssrc) : w.Forgotten ssrc := by
  have hunstored : ∀ timing, ¬w.Stores ssrc timing := by
    intro timing hstores
    rcases (hw.stored ssrc timing hstores).2.2 with htracked | hpending
    · rw [huntracked] at htracked
      cases htracked
    · cases hpending
  refine ⟨hunstored, hunrequested.requests, ?_⟩
  intro id t ht
  have hserved := hw.served ht
  have hunknown : t.publisherSenderTimings.find? ssrc = none := by
    rw [Option.eq_none_iff_forall_ne_some]
    intro known hknown
    obtain ⟨stored, hstores⟩ := (hserved.timings ssrc known hknown).2
    exact hunstored stored hstores
  refine ⟨hunknown, ?_, hunrequested.waiting id t ht⟩
  intro targetSsrc sender timing hsender htiming heq
  obtain ⟨known, hknown⟩ := hserved.senders targetSsrc sender timing hsender htiming
  rw [heq, hunknown] at hknown
  cases hknown

/-- After the BYEs nothing is left of any source they name. -/
theorem handleInboundByes_erases {w : PublishedStream} (hw : Consistent [] w) (delivery : Delivery)
    {byePackets : List RtcpByePacket} (hreach : w.ByesReach byePackets) :
    Consistent [] (w.handleInboundByes delivery byePackets) ∧
      (∀ bye ∈ byePackets, ∀ ssrc ∈ bye.ssrcs,
        (w.handleInboundByes delivery byePackets).Forgotten ssrc) ∧
      ∀ ssrc, w.Forgotten ssrc → (w.handleInboundByes delivery byePackets).Forgotten ssrc := by
  have hends := endSources_spec w.publisher (namedSources byePackets)
  have hended : ∀ source ∈ (w.publisher.endSources (namedSources byePackets)).2,
      source.sourceSsrc ≠ 0 ∧ w.BoundWhereTimed source.sourceSsrc := by
    intro source hsource
    obtain ⟨hnamed, hne, htracked⟩ := hends.named source hsource
    obtain ⟨bye, hbye, hmem⟩ := mem_namedSources.mp ⟨source, hnamed, rfl⟩
    have hbound := hreach bye hbye source.sourceSsrc hmem hne
    rw [if_pos htracked] at hbound
    exact ⟨hne, hbound⟩
  obtain ⟨hconsistent, hall, hkept⟩ := publishByes_erase delivery (hends.consistent hw)
    fun source hsource =>
      ⟨(hended source hsource).1, hends.boundWhereTimed (hended source hsource).2⟩
  refine ⟨hconsistent, ?_, fun ssrc hforgotten => hkept ssrc (hends.forgotten hforgotten)⟩
  intro bye hbye ssrc hmem
  by_cases hne : ssrc = 0
  · rw [hne]
    exact hconsistent.forgotten_zero
  · have hcondition := hreach bye hbye ssrc hmem hne
    by_cases htracked : (w.publisher.inboundRtcpReceivers.find? ssrc).isSome = true
    · obtain ⟨named, hnamed, rfl⟩ := mem_namedSources.mpr ⟨bye, hbye, hmem⟩
      obtain ⟨source, hsource, heq⟩ :=
        List.mem_map.mp (hends.complete named hnamed hne htracked)
      rw [← heq]
      exact hall source hsource
    · rw [if_neg htracked] at hcondition
      rw [Bool.not_eq_true] at htracked
      exact hkept ssrc (hends.forgotten (forgotten_of_untracked hw htracked hcondition))

end SimpleWebrtc.WhipMedia
