import SimpleWebrtc.SourceTraces

/-!
# Tracked sources

A publisher's session with the router and the subscribers, in one generation of
its stream. Timings are stored for whatever source reports, while the table of
tracked sources has an end, and the router is told of a BYE only where the table
knew the source. So a BYE erases every trace of its source as long as the
reports find room in the table, and nothing was asked of a source it never held.
A subscriber forgets a timing of the source only under the SSRC the source is
bound to when the BYE comes.
-/
namespace SimpleWebrtc.WhipMedia
open Library Library.Text RtpPacket RtcpReport RtcpCompoundPacket MediaFanout WhepSession WhepMedia
  RewriterConfig

/-! ## Runs -/

inductive StreamEvent where
  | rtp (delivery : Delivery) (plainPacket : List UInt8)
  | rtcp (delivery : Delivery) (plainRtcp : List UInt8)
  | join (order : VisitOrder ℕ) (streamId sessionId : Text) (target : WhepRtpRewriterTarget)
  | leave (transport : ℕ)
  | timerExpired (index : ℕ)
  | retryCompleted (index : ℕ)

/-- A packet or a sender report of a source. -/
def StreamEvent.Mentions (sourceSsrc : UInt32) : StreamEvent → Prop
  | .rtp _ plainPacket =>
      ∃ header, parseRtpPacketHeader plainPacket = .ok header ∧ header.ssrc = sourceSsrc
  | .rtcp _ plainRtcp =>
      ∃ compound, parseRtcpCompoundPacket plainRtcp = .ok compound ∧
        ∃ report ∈ compound.reportPackets, report.senderInfo.isSome = true ∧
          report.senderSsrc = sourceSsrc
  | _ => False

/-- A compound with a BYE of a source. -/
def StreamEvent.Ends (sourceSsrc : UInt32) : StreamEvent → Prop
  | .rtcp _ plainRtcp =>
      ∃ compound, parseRtcpCompoundPacket plainRtcp = .ok compound ∧
        ∃ bye ∈ compound.byePackets, sourceSsrc ∈ bye.ssrcs
  | _ => False

/-- A BYE of the source has come, and nothing of it since. -/
def Ended (sourceSsrc : UInt32) (events : List StreamEvent) : Prop :=
  ∃ before e after, events = before ++ e :: after ∧ e.Ends sourceSsrc ∧
    ∀ e' ∈ after, ¬e'.Mentions sourceSsrc

/-- A subscriber keeps nothing of a source. -/
structure Forgets (t : WhepSessionTransport) (sourceSsrc : UInt32) : Prop where
  timing : t.publisherSenderTimings.find? sourceSsrc = none
  senders : ∀ targetSsrc sender timing, t.outboundRtcpSenders.find? targetSsrc = some sender →
    sender.senderTiming = some timing → timing.sourceSsrc ≠ sourceSsrc
  waiting : sourceSsrc ∉ t.keyframeWaitingSourceSsrcs

namespace PublishedStream
variable (w : PublishedStream)

def perform : StreamEvent → PublishedStream
  | .rtp delivery plainPacket => w.handleInboundRtp delivery plainPacket
  | .rtcp delivery plainRtcp => w.handleInboundRtcp delivery plainRtcp
  | .join order streamId sessionId target =>
      { w with media := w.media.join order streamId sessionId target }
  | .leave transport => { w with media := w.media.closeTransport transport }
  | .timerExpired index =>
      { w with media := { w.media with routing := w.media.routing.perform (.timerExpired index) } }
  | .retryCompleted index =>
      { w with
        media := { w.media with routing := w.media.routing.perform (.retryCompleted index) } }

def Stores (sourceSsrc : UInt32) (timing : MediaPublisherSenderTiming) : Prop :=
  StoresTiming w.media.router w.publisher.streamId sourceSsrc timing

/-- The transports of the stream's subscriptions. -/
def Subscribed (id : Text) (t : WhepSessionTransport) : Prop :=
  ∃ transport media, w.media.router.subscriptionsBySessionId.find? id =
      some ⟨w.publisher.streamId, transport⟩ ∧
    w.media.transports[transport]? = some media ∧ media.session = t

/-- Neither the router nor a subscriber of the stream keeps anything of a source. -/
structure Forgotten (sourceSsrc : UInt32) : Prop where
  timing : ∀ timing, ¬w.Stores sourceSsrc timing
  requests : ∀ key state, w.media.router.keyframeRequests.find? key = some state →
    key.streamId = w.publisher.streamId → key.mediaSsrc ≠ sourceSsrc
  subscribers : ∀ id t, w.Subscribed id t → Forgets t sourceSsrc

/-- Timings are stored of tracked sources only. -/
structure SourcesTracked : Prop where
  tracked : ∀ sourceSsrc timing, w.Stores sourceSsrc timing →
    (w.publisher.inboundRtcpReceivers.find? sourceSsrc).isSome = true
  bounded : ∀ timings, w.media.router.publisherSenderTimingsByStreamId.find?
    w.publisher.streamId = some timings → timings.size ≤ kMaximumRtpSources

/-- The transport has been told the current source. -/
structure Told (id : Text) (t : WhepSessionTransport) : Prop where
  named : id ≠ []
  opened : t.closed = false
  sessionId : t.sessionId = id
  publisherSource : ∃ source, t.publisherSource = some source ∧
    source.sessionId = w.publisher.sessionId
  generation : t.publisherSourceGeneration = w.publisher.publisherSourceGeneration

/-- The publisher's source has just been set, and its stream's subscribers have been told. -/
structure Begins : Prop where
  streamId : w.publisher.streamId ≠ []
  sessionId : w.publisher.sessionId ≠ []
  generation_ne_zero : w.publisher.publisherSourceGeneration ≠ 0
  current : IsCurrent w.media.router w.publisher.streamId w.publisher.sessionId
    w.publisher.publisherSourceGeneration
  generation : w.media.router.publisherSourceGenerationsByStreamId.find? w.publisher.streamId =
    some w.publisher.publisherSourceGeneration
  receivers : w.publisher.inboundRtcpReceivers = AssocMap.empty
  forgotten : ∀ sourceSsrc, w.Forgotten sourceSsrc
  subscriptions : ∀ id transport, w.media.router.subscriptionsBySessionId.find? id =
    some ⟨w.publisher.streamId, transport⟩ → ∃ media, w.media.transports[transport]? = some media ∧
      w.Told id media.session

def system : EventSystem PublishedStream StreamEvent :=
  .ofStep Begins fun w e => some (w.perform e)

/-! ## The condition -/

def HasRoomFor (sourceSsrc : UInt32) : Prop :=
  (w.publisher.inboundRtcpReceivers.find? sourceSsrc).isSome = true ∨
    w.publisher.inboundRtcpReceivers.size < kMaximumRtpSources

/-- Every sender report finds its source in the table, or room for it. -/
def ReportsFit (delivery : Delivery) : PublishedStream → List RtcpReportPacket → Prop
  | _, [] => True
  | w, report :: reports =>
      (report.senderInfo.isSome = true → report.senderSsrc ≠ 0 → w.HasRoomFor report.senderSsrc) ∧
        ReportsFit delivery (w.handleReport delivery report) reports

/-- Nobody waits for a keyframe of a source. -/
structure Unrequested (sourceSsrc : UInt32) : Prop where
  requests : ∀ key state, w.media.router.keyframeRequests.find? key = some state →
    key.streamId = w.publisher.streamId → key.mediaSsrc ≠ sourceSsrc
  waiting : ∀ id t, w.Subscribed id t → sourceSsrc ∉ t.keyframeWaitingSourceSsrcs

/-- Every subscriber sends the source under the SSRCs which still have a timing of it. -/
def BoundWhereTimed (sourceSsrc : UInt32) : Prop :=
  ∀ id t, w.Subscribed id t → ∀ targetSsrc sender timing,
    t.outboundRtcpSenders.find? targetSsrc = some sender → sender.senderTiming = some timing →
      timing.sourceSsrc = sourceSsrc →
        t.rtpRewriter.sourceSsrcForTargetSsrc targetSsrc = some sourceSsrc

/-- A BYE of a tracked source finds its timings where the source is bound, one of a source which
is not tracked finds nobody waiting for it. -/
def ByesReach (byePackets : List RtcpByePacket) : Prop :=
  ∀ bye ∈ byePackets, ∀ sourceSsrc ∈ bye.ssrcs, sourceSsrc ≠ 0 →
    if (w.publisher.inboundRtcpReceivers.find? sourceSsrc).isSome then w.BoundWhereTimed sourceSsrc
    else w.Unrequested sourceSsrc

def Covered (w : PublishedStream) : StreamEvent → Prop
  | .rtcp delivery plainRtcp =>
      ∀ compound, parseRtcpCompoundPacket plainRtcp = .ok compound →
        ReportsFit delivery w compound.reportPackets ∧
          (compound.reportPackets.foldl (handleReport delivery) w).ByesReach compound.byePackets
  | _ => True

end PublishedStream

/-! ## The table of tracked sources -/

/-- The table keeps what it has, and its limit. -/
structure KeepsTable (t t' : WhipSessionTransport) : Prop where
  streamId : t'.streamId = t.streamId
  sessionId : t'.sessionId = t.sessionId
  generation : t'.publisherSourceGeneration = t.publisherSourceGeneration
  tracked : ∀ sourceSsrc, (t.inboundRtcpReceivers.find? sourceSsrc).isSome = true →
    (t'.inboundRtcpReceivers.find? sourceSsrc).isSome = true
  bounded : t.inboundRtcpReceivers.size ≤ kMaximumRtpSources →
    t'.inboundRtcpReceivers.size ≤ kMaximumRtpSources

namespace KeepsTable
variable {t t' : WhipSessionTransport}

theorem refl (t : WhipSessionTransport) : KeepsTable t t := ⟨rfl, rfl, rfl, fun _ h => h, id⟩

/-- A receiver is only made while there is room. -/
theorem keepReceiver {sourceSsrc : UInt32} {fresh receiver : InboundRtcpReceiverState}
    (h : t.receiverFor sourceSsrc fresh = some receiver) (receiver' : InboundRtcpReceiverState) :
    KeepsTable t (t.keepReceiver sourceSsrc receiver') := by
  refine ⟨rfl, rfl, rfl, ?_, ?_⟩
  · intro ssrc hssrc
    rw [WhipSessionTransport.keepReceiver, AssocMap.find?_insertOrAssign]
    split_ifs
    · rfl
    · exact hssrc
  · intro hbounded
    rw [WhipSessionTransport.keepReceiver, AssocMap.size_eq_total]
    rw [AssocMap.size_eq_total] at hbounded
    cases hfind : t.inboundRtcpReceivers.find? sourceSsrc with
    | some old =>
        have htotal := AssocMap.total_insertOrAssign_some (fun _ => 1) hfind receiver'
        simp only at htotal ⊢
        omega
    | none =>
        simp only [WhipSessionTransport.receiverFor, hfind] at h
        split_ifs at h with hfull
        rw [AssocMap.size_eq_total] at hfull
        have htotal := AssocMap.total_insertOrAssign_none (fun _ => 1) hfind receiver'
        simp only at htotal ⊢
        omega

theorem observeTransportSequence (context : WhipPublisher.InboundPayloadTypeContext)
    (sourceSsrc : UInt32) (arrivalTime : ℤ) (plainPacket : List UInt8) (t : WhipSessionTransport) :
    (t.observeTransportSequence context sourceSsrc arrivalTime plainPacket).inboundRtcpReceivers =
        t.inboundRtcpReceivers ∧
      KeepsTable t (t.observeTransportSequence context sourceSsrc arrivalTime plainPacket) := by
  unfold WhipSessionTransport.observeTransportSequence
  split_ifs
  · exact ⟨rfl, refl t⟩
  · split
    · exact ⟨rfl, refl t⟩
    · exact ⟨rfl, refl t⟩
    · split_ifs
      · exact ⟨rfl, refl t⟩
      · exact ⟨rfl, rfl, rfl, rfl, fun _ h => h, id⟩

theorem trans {t'' : WhipSessionTransport} (h : KeepsTable t t') (h' : KeepsTable t' t'') :
    KeepsTable t t'' where
  streamId := h'.streamId.trans h.streamId
  sessionId := h'.sessionId.trans h.sessionId
  generation := h'.generation.trans h.generation
  tracked ssrc hssrc := h'.tracked ssrc (h.tracked ssrc hssrc)
  bounded hbounded := h'.bounded (h.bounded hbounded)

theorem recordInboundRtp (header : RtpPacketHeader) (arrivalTime : ℤ) (plainPacket : List UInt8)
    (t : WhipSessionTransport) :
    KeepsTable t (t.recordInboundRtp header arrivalTime plainPacket) := by
  unfold WhipSessionTransport.recordInboundRtp
  split
  · exact refl t
  · rename_i context _
    obtain ⟨-, hobserved⟩ :=
      observeTransportSequence context header.ssrc arrivalTime plainPacket t
    simp only
    split
    · exact hobserved
    · rename_i receiver hreceiver
      split_ifs
      · exact hobserved.trans (keepReceiver hreceiver _)
      · exact hobserved.trans (keepReceiver hreceiver _)

theorem updateReceiverSenderReport (sourceSsrc : UInt32) (ntpTimestamp : UInt64) (receivedAt : ℤ)
    (t : WhipSessionTransport) :
    KeepsTable t (t.updateReceiverSenderReport sourceSsrc ntpTimestamp receivedAt) := by
  unfold WhipSessionTransport.updateReceiverSenderReport
  split
  · exact refl t
  · rename_i receiver hreceiver
    exact keepReceiver hreceiver _

end KeepsTable

/-- A report which finds room leaves its source tracked. -/
theorem updateReceiverSenderReport_tracks {t : WhipSessionTransport} {sourceSsrc : UInt32}
    (h : (t.inboundRtcpReceivers.find? sourceSsrc).isSome = true ∨
      t.inboundRtcpReceivers.size < kMaximumRtpSources) (ntpTimestamp : UInt64) (receivedAt : ℤ) :
    ((t.updateReceiverSenderReport sourceSsrc ntpTimestamp
      receivedAt).inboundRtcpReceivers.find? sourceSsrc).isSome = true := by
  have hreceiver : ∃ receiver, t.receiverFor sourceSsrc {} = some receiver := by
    unfold WhipSessionTransport.receiverFor
    cases hfind : t.inboundRtcpReceivers.find? sourceSsrc with
    | some receiver => exact ⟨receiver, rfl⟩
    | none =>
        rw [hfind] at h
        rw [if_neg (Nat.not_le.mpr (h.resolve_left (by simp)))]
        exact ⟨_, rfl⟩
  obtain ⟨receiver, hreceiver⟩ := hreceiver
  simp [WhipSessionTransport.updateReceiverSenderReport, hreceiver,
    WhipSessionTransport.keepReceiver]

/-! ## The invariant -/

/-- What is known of an open transport of the stream. -/
structure Served (w : PublishedStream) (id : Text) (t : WhepSessionTransport) : Prop
    extends w.Told id t where
  waiting : (0 : UInt32) ∉ t.keyframeWaitingSourceSsrcs
  timings : ∀ sourceSsrc timing, t.publisherSenderTimings.find? sourceSsrc = some timing →
    timing.sourceSsrc = sourceSsrc ∧ ∃ stored, w.Stores sourceSsrc stored
  senders : ∀ targetSsrc sender timing, t.outboundRtcpSenders.find? targetSsrc = some sender →
    sender.senderTiming = some timing →
      ∃ known, t.publisherSenderTimings.find? timing.sourceSsrc = some known

/-- Every stored timing is of a tracked source, or of one whose end the router is still to be told
of. -/
structure Consistent (pending : List UInt32) (w : PublishedStream) : Prop where
  streamId : w.publisher.streamId ≠ []
  sessionId : w.publisher.sessionId ≠ []
  generation_ne_zero : w.publisher.publisherSourceGeneration ≠ 0
  current : IsCurrent w.media.router w.publisher.streamId w.publisher.sessionId
    w.publisher.publisherSourceGeneration
  generation : w.media.router.publisherSourceGenerationsByStreamId.find? w.publisher.streamId =
    some w.publisher.publisherSourceGeneration
  bounded : w.publisher.inboundRtcpReceivers.size ≤ kMaximumRtpSources
  stored : ∀ sourceSsrc timing, w.Stores sourceSsrc timing → timing.sourceSsrc = sourceSsrc ∧
    sourceSsrc ≠ 0 ∧ ((w.publisher.inboundRtcpReceivers.find? sourceSsrc).isSome = true ∨
      sourceSsrc ∈ pending)
  requests : ∀ key state, w.media.router.keyframeRequests.find? key = some state →
    key.streamId = w.publisher.streamId →
      key.publisherSessionId = w.publisher.sessionId ∧
        key.sourceGeneration = w.publisher.publisherSourceGeneration ∧ key.mediaSsrc ≠ 0
  subscriptions : ∀ id transport, w.media.router.subscriptionsBySessionId.find? id =
    some ⟨w.publisher.streamId, transport⟩ → ∃ media, w.media.transports[transport]? = some media ∧
      Served w id media.session

theorem Consistent.of_begins {w : PublishedStream} (h : w.Begins) : Consistent [] w where
  streamId := h.streamId
  sessionId := h.sessionId
  generation_ne_zero := h.generation_ne_zero
  current := h.current
  generation := h.generation
  bounded := by
    rw [h.receivers]
    exact Nat.zero_le _
  stored sourceSsrc timing hstores := absurd hstores ((h.forgotten sourceSsrc).timing timing)
  requests key state hstate hstream :=
    absurd rfl ((h.forgotten key.mediaSsrc).requests key state hstate hstream)
  subscriptions := by
    intro id transport hsubscription
    obtain ⟨media, hmedia, htold⟩ := h.subscriptions id transport hsubscription
    have hforgets := fun sourceSsrc => (h.forgotten sourceSsrc).subscribers id media.session
      ⟨transport, media, hsubscription, hmedia, rfl⟩
    refine ⟨media, hmedia, htold, (hforgets 0).waiting, ?_, ?_⟩
    · intro sourceSsrc timing htiming
      rw [(hforgets sourceSsrc).timing] at htiming
      cases htiming
    · intro targetSsrc sender timing hsender htiming
      exact absurd rfl ((hforgets timing.sourceSsrc).senders targetSsrc sender timing hsender htiming)

namespace Consistent
variable {pending : List UInt32} {w : PublishedStream}

/-- The subscriber of a subscription is served. -/
theorem served (h : Consistent pending w) {id : Text} {t : WhepSessionTransport}
    (ht : w.Subscribed id t) : Served w id t := by
  obtain ⟨transport, media, hsubscription, hmedia, rfl⟩ := ht
  obtain ⟨media', hmedia', hserved⟩ := h.subscriptions id transport hsubscription
  rw [hmedia, Option.some.injEq] at hmedia'
  subst hmedia'
  exact hserved

/-- There is no source zero. -/
theorem forgotten_zero (h : Consistent pending w) : w.Forgotten 0 where
  timing timing hstores := (h.stored 0 timing hstores).2.1 rfl
  requests key state hstate hstream := (h.requests key state hstate hstream).2.2
  subscribers := by
    intro id t ht
    have hserved := h.served ht
    have hnone : t.publisherSenderTimings.find? 0 = none := by
      rw [Option.eq_none_iff_forall_ne_some]
      intro timing htiming
      obtain ⟨stored, hstores⟩ := (hserved.timings 0 timing htiming).2
      exact (h.stored 0 stored hstores).2.1 rfl
    refine ⟨hnone, ?_, hserved.waiting⟩
    intro targetSsrc sender timing hsender htiming hzero
    obtain ⟨known, hknown⟩ := hserved.senders targetSsrc sender timing hsender htiming
    rw [hzero, hnone] at hknown
    cases hknown

end Consistent

/-! ## A packet -/

/-- What a packet of a source, or a completed retry, changes. -/
structure StreamFollows (sourceSsrc : UInt32) (w w' : PublishedStream) : Prop where
  publisher : KeepsTable w.publisher w'.publisher
  media : MediaFollows sourceSsrc w.media w'.media

namespace StreamFollows
variable {pending : List UInt32} {w w' : PublishedStream} {sourceSsrc : UInt32}

theorem stores_iff (h : StreamFollows sourceSsrc w w') {ssrc : UInt32}
    {timing : MediaPublisherSenderTiming} : w'.Stores ssrc timing ↔ w.Stores ssrc timing := by
  rw [PublishedStream.Stores, PublishedStream.Stores, StoresTiming, StoresTiming,
    h.publisher.streamId, h.media.routing.timings]

theorem served (h : StreamFollows sourceSsrc w w') {id : Text} {t t' : WhepSessionTransport}
    (hserved : Served w id t) (hfollows : FollowsIn sourceSsrc t t') : Served w' id t' where
  named := hserved.named
  opened := hfollows.closed.trans hserved.opened
  sessionId := hfollows.sessionId.trans hserved.sessionId
  publisherSource := by
    rw [hfollows.publisherSource, h.publisher.sessionId]
    exact hserved.publisherSource
  generation := by
    rw [hfollows.publisherSourceGeneration, h.publisher.generation]
    exact hserved.generation
  waiting := by
    intro hzero
    rcases hfollows.waiting 0 hzero with hwaiting | ⟨hsource, hne⟩
    · exact hserved.waiting hwaiting
    · exact hne hsource.symm
  timings := by
    intro ssrc timing htiming
    rw [hfollows.publisherSenderTimings] at htiming
    obtain ⟨hssrc, stored, hstores⟩ := hserved.timings ssrc timing htiming
    exact ⟨hssrc, stored, h.stores_iff.mpr hstores⟩
  senders := by
    intro targetSsrc sender' timing hsender' htiming
    rw [hfollows.publisherSenderTimings]
    rcases hfollows.senders targetSsrc sender' timing hsender' htiming with
      ⟨sender, hsender, hold⟩ | ⟨known, hknown, hssrc⟩
    · exact hserved.senders targetSsrc sender timing hsender hold
    · rw [hssrc, (hserved.timings sourceSsrc known hknown).1]
      exact ⟨known, hknown⟩

theorem consistent (h : StreamFollows sourceSsrc w w') (hw : Consistent pending w) :
    Consistent pending w' where
  streamId := h.publisher.streamId ▸ hw.streamId
  sessionId := h.publisher.sessionId ▸ hw.sessionId
  generation_ne_zero := h.publisher.generation ▸ hw.generation_ne_zero
  current := by
    rw [h.publisher.streamId, h.publisher.sessionId, h.publisher.generation, IsCurrent,
      h.media.routing.sources]
    exact hw.current
  generation := by
    rw [h.publisher.streamId, h.publisher.generation, h.media.routing.generations]
    exact hw.generation
  bounded := h.publisher.bounded hw.bounded
  stored := by
    intro ssrc timing hstores
    obtain ⟨hssrc, hne, htracked⟩ := hw.stored ssrc timing (h.stores_iff.mp hstores)
    exact ⟨hssrc, hne, htracked.imp_left (h.publisher.tracked ssrc)⟩
  requests := by
    intro key state hstate hstream
    rw [h.publisher.streamId] at hstream
    rw [h.publisher.sessionId, h.publisher.generation]
    rcases h.media.routing.requests key state hstate with
      ⟨state', hstate'⟩ | ⟨hssrc, hne, source, hsource, hid, hgeneration⟩
    · exact hw.requests key state' hstate' hstream
    · obtain ⟨current, hcurrent, hid', hgeneration'⟩ := hw.current
      rw [hstream, hcurrent, Option.some.injEq] at hsource
      subst hsource
      exact ⟨hid.symm.trans hid', hgeneration.symm.trans hgeneration', fun hzero =>
        hne (hssrc.symm.trans hzero)⟩
  subscriptions := by
    intro id transport hsubscription
    rw [h.publisher.streamId, h.media.routing.subscriptions] at hsubscription
    obtain ⟨media, hmedia, hserved⟩ := hw.subscriptions id transport hsubscription
    obtain ⟨media', hmedia', hfollows⟩ := h.media.transports transport media hmedia
    exact ⟨media', hmedia', h.served hserved hfollows⟩

/-- A packet leaves no trace of another source. -/
theorem forgotten (h : StreamFollows sourceSsrc w w') (hw : Consistent pending w) {ssrc : UInt32}
    (hne : ssrc ≠ sourceSsrc) (hforgotten : w.Forgotten ssrc) : w'.Forgotten ssrc where
  timing timing hstores := hforgotten.timing timing (h.stores_iff.mp hstores)
  requests := by
    intro key state hstate hstream hssrc
    rw [h.publisher.streamId] at hstream
    rcases h.media.routing.requests key state hstate with ⟨state', hstate'⟩ | ⟨hsource, -⟩
    · exact hforgotten.requests key state' hstate' hstream hssrc
    · exact hne (hssrc.symm.trans hsource)
  subscribers := by
    rintro id t ⟨transport, media', hsubscription, hmedia', rfl⟩
    rw [h.publisher.streamId, h.media.routing.subscriptions] at hsubscription
    obtain ⟨media, hmedia, hserved⟩ := hw.subscriptions id transport hsubscription
    obtain ⟨media'', hmedia'', hfollows⟩ := h.media.transports transport media hmedia
    rw [hmedia', Option.some.injEq] at hmedia''
    subst hmedia''
    have hold := hforgotten.subscribers id media.session ⟨transport, media, hsubscription, hmedia, rfl⟩
    constructor
    · rw [hfollows.publisherSenderTimings]
      exact hold.timing
    · intro targetSsrc sender' timing hsender' htiming hssrc
      rcases hfollows.senders targetSsrc sender' timing hsender' htiming with
        ⟨sender, hsender, hsame⟩ | ⟨known, hknown, hknownSsrc⟩
      · exact hold.senders targetSsrc sender timing hsender hsame hssrc
      · rw [(hserved.timings sourceSsrc known hknown).1, hssrc] at hknownSsrc
        exact hne hknownSsrc
    · intro hwaiting
      rcases hfollows.waiting ssrc hwaiting with hold' | ⟨hsource, -⟩
      · exact hold.waiting hold'
      · exact hne hsource

/-- A packet which is received concerns the source its header names, and one without a header
nothing. -/
theorem handleInboundRtp (delivery : Delivery) (plainPacket : List UInt8) (w : PublishedStream) :
    w.handleInboundRtp delivery plainPacket = w ∨
    ∃ header, parseRtpPacketHeader plainPacket = .ok header ∧
      StreamFollows header.ssrc w (w.handleInboundRtp delivery plainPacket) := by
  unfold PublishedStream.handleInboundRtp
  cases hheader : parseRtpPacketHeader plainPacket with
  | error e => exact .inl rfl
  | ok header =>
      right
      refine ⟨header, rfl, ?_⟩
      have hrecorded := KeepsTable.recordInboundRtp header delivery.now plainPacket w.publisher
      simp only
      split_ifs
      · exact ⟨hrecorded, .publishRtp hheader delivery _ _ w.media⟩
      · exact ⟨hrecorded, .refl _ _⟩

theorem retry {event : RouterEvent}
    (h : RoutesFollow sourceSsrc w.media.router (w.media.routing.perform event).router) :
    StreamFollows sourceSsrc w
      { w with media := { w.media with routing := w.media.routing.perform event } } :=
  ⟨.refl _, h, fun _ t ht => ⟨t, ht, .refl _ _⟩⟩

end StreamFollows

theorem retryCompleted_follows (sourceSsrc : UInt32) (s : RouterState) (index : ℕ) :
    RoutesFollow sourceSsrc s.router (s.perform (.retryCompleted index)).router := by
  simp only [RouterState.perform]
  split
  · exact .refl _ _
  · rename_i retry _
    split
    · exact .refl _ _
    · exact .refl _ _
    · rw [(RouterState.withWait_frame _ _ _).1]
      rcases handleKeyframeRetry_cases s.router retry.key retry.timerToken with
        heq | ⟨state, hstate, -, ⟨-, heq⟩ | heq⟩
      · rw [heq]
        exact .refl _ _
      · rw [heq]
        refine ⟨rfl, rfl, rfl, rfl, fun key state' hstate' => ?_⟩
        rw [AssocMap.find?_erase] at hstate'
        split_ifs at hstate'
        exact .inl ⟨state', hstate'⟩
      · rw [heq]
        refine ⟨rfl, rfl, rfl, rfl, fun key state' hstate' => ?_⟩
        rw [AssocMap.find?_insertOrAssign] at hstate'
        split_ifs at hstate' with hkey
        · rw [hkey]
          exact .inl ⟨state, hstate⟩
        · exact .inl ⟨state', hstate'⟩

/-! ## A sender report -/

/-- What a sender report changes whose source has room in the table. -/
structure Reports (timing : MediaPublisherSenderTiming) (w w' : PublishedStream) : Prop where
  publisher : KeepsTable w.publisher w'.publisher
  tracked : (w'.publisher.inboundRtcpReceivers.find? timing.sourceSsrc).isSome = true
  ssrc_ne_zero : timing.sourceSsrc ≠ 0
  subscriptions : w'.media.router.subscriptionsBySessionId =
    w.media.router.subscriptionsBySessionId
  sources : w'.media.router.publisherSourcesByStreamId = w.media.router.publisherSourcesByStreamId
  generations : w'.media.router.publisherSourceGenerationsByStreamId =
    w.media.router.publisherSourceGenerationsByStreamId
  requests : w'.media.router.keyframeRequests = w.media.router.keyframeRequests
  stores : ∀ ssrc stored, w'.Stores ssrc stored ↔
    if ssrc = timing.sourceSsrc then stored = timing else w.Stores ssrc stored
  transports : ∀ (i : ℕ) t, w.media.transports[i]? = some t →
    ∃ t', w'.media.transports[i]? = some t' ∧ Learns timing t.session t'.session

/-- A timing which is stored may be learned. -/
theorem Served.learns {w : PublishedStream} {id : Text} {t t' : WhepSessionTransport}
    {timing stored : MediaPublisherSenderTiming} (hserved : Served w id t)
    (hstored : w.Stores timing.sourceSsrc stored) (hlearns : Learns timing t t') :
    Served w id t' where
  named := hserved.named
  opened := hlearns.closed.trans hserved.opened
  sessionId := hlearns.sessionId.trans hserved.sessionId
  publisherSource := by
    rw [hlearns.publisherSource]
    exact hserved.publisherSource
  generation := hlearns.publisherSourceGeneration.trans hserved.generation
  waiting := by
    rw [hlearns.waiting]
    exact hserved.waiting
  timings := by
    intro ssrc known hknown
    rcases hlearns.timings ssrc known hknown with hold | ⟨rfl, rfl⟩
    · exact hserved.timings ssrc known hold
    · exact ⟨rfl, stored, hstored⟩
  senders := by
    intro targetSsrc sender' mapped hsender' hmapped
    rcases hlearns.senders targetSsrc sender' mapped hsender' hmapped with
      ⟨sender, hsender, hold⟩ | ⟨hssrc, known, hknown⟩
    · obtain ⟨known, hknown⟩ := hserved.senders targetSsrc sender mapped hsender hold
      exact hlearns.kept _ known hknown
    · rw [hssrc]
      exact ⟨known, hknown⟩

/-- What is known of one source says nothing of another. -/
theorem Forgets.learns {t t' : WhepSessionTransport} {ssrc : UInt32}
    {timing : MediaPublisherSenderTiming} (hforgets : Forgets t ssrc)
    (hne : ssrc ≠ timing.sourceSsrc) (hlearns : Learns timing t t') : Forgets t' ssrc where
  timing := by
    rw [Option.eq_none_iff_forall_ne_some]
    intro known hknown
    rcases hlearns.timings ssrc known hknown with hsame | ⟨hssrc, -⟩
    · rw [hforgets.timing] at hsame
      cases hsame
    · exact hne hssrc
  senders := by
    intro targetSsrc sender' mapped hsender' hmapped hssrc
    rcases hlearns.senders targetSsrc sender' mapped hsender' hmapped with
      ⟨sender, hsender, hsame⟩ | ⟨hnew, -⟩
    · exact hforgets.senders targetSsrc sender mapped hsender hsame hssrc
    · exact hne (hssrc.symm.trans hnew)
  waiting := by
    rw [hlearns.waiting]
    exact hforgets.waiting

namespace Reports
variable {pending : List UInt32} {w w' : PublishedStream} {timing : MediaPublisherSenderTiming}

theorem stores_kept (h : Reports timing w w') {ssrc : UInt32} {stored : MediaPublisherSenderTiming}
    (hstores : w.Stores ssrc stored) : ∃ stored', w'.Stores ssrc stored' := by
  by_cases hssrc : ssrc = timing.sourceSsrc
  · exact ⟨timing, (h.stores ssrc timing).mpr (by rw [if_pos hssrc])⟩
  · exact ⟨stored, (h.stores ssrc stored).mpr (by rwa [if_neg hssrc])⟩

theorem served (h : Reports timing w w') {id : Text} {t t' : WhepSessionTransport}
    (hserved : Served w id t) (hlearns : Learns timing t t') : Served w' id t' := by
  have hserved' : Served w' id t :=
    { named := hserved.named
      opened := hserved.opened
      sessionId := hserved.sessionId
      publisherSource := by
        rw [h.publisher.sessionId]
        exact hserved.publisherSource
      generation := hserved.generation.trans h.publisher.generation.symm
      waiting := hserved.waiting
      timings := by
        intro ssrc known hknown
        obtain ⟨hssrc, stored, hstores⟩ := hserved.timings ssrc known hknown
        exact ⟨hssrc, h.stores_kept hstores⟩
      senders := hserved.senders }
  exact hserved'.learns ((h.stores _ timing).mpr (by rw [if_pos rfl])) hlearns

theorem consistent (h : Reports timing w w') (hw : Consistent pending w) :
    Consistent pending w' where
  streamId := h.publisher.streamId ▸ hw.streamId
  sessionId := h.publisher.sessionId ▸ hw.sessionId
  generation_ne_zero := h.publisher.generation ▸ hw.generation_ne_zero
  current := by
    rw [h.publisher.streamId, h.publisher.sessionId, h.publisher.generation, IsCurrent, h.sources]
    exact hw.current
  generation := by
    rw [h.publisher.streamId, h.publisher.generation, h.generations]
    exact hw.generation
  bounded := h.publisher.bounded hw.bounded
  stored := by
    intro ssrc stored hstores
    rw [h.stores] at hstores
    split_ifs at hstores with hssrc
    · rw [hstores, hssrc]
      exact ⟨rfl, h.ssrc_ne_zero, .inl h.tracked⟩
    · obtain ⟨heq, hne, htracked⟩ := hw.stored ssrc stored hstores
      exact ⟨heq, hne, htracked.imp_left (h.publisher.tracked ssrc)⟩
  requests := by
    intro key state hstate hstream
    rw [h.requests] at hstate
    rw [h.publisher.streamId] at hstream
    rw [h.publisher.sessionId, h.publisher.generation]
    exact hw.requests key state hstate hstream
  subscriptions := by
    intro id transport hsubscription
    rw [h.publisher.streamId, h.subscriptions] at hsubscription
    obtain ⟨media, hmedia, hserved⟩ := hw.subscriptions id transport hsubscription
    obtain ⟨media', hmedia', hlearns⟩ := h.transports transport media hmedia
    exact ⟨media', hmedia', h.served hserved hlearns⟩

/-- A report leaves no trace of another source. -/
theorem forgotten (h : Reports timing w w') (hw : Consistent pending w) {ssrc : UInt32}
    (hne : ssrc ≠ timing.sourceSsrc) (hforgotten : w.Forgotten ssrc) : w'.Forgotten ssrc where
  timing := by
    intro stored hstores
    rw [h.stores, if_neg hne] at hstores
    exact hforgotten.timing stored hstores
  requests := by
    intro key state hstate hstream
    rw [h.requests] at hstate
    rw [h.publisher.streamId] at hstream
    exact hforgotten.requests key state hstate hstream
  subscribers := by
    rintro id t ⟨transport, media', hsubscription, hmedia', rfl⟩
    rw [h.publisher.streamId, h.subscriptions] at hsubscription
    obtain ⟨media, hmedia, -⟩ := hw.subscriptions id transport hsubscription
    obtain ⟨media'', hmedia'', hlearns⟩ := h.transports transport media hmedia
    rw [hmedia', Option.some.injEq] at hmedia''
    subst hmedia''
    exact (hforgotten.subscribers id media.session
      ⟨transport, media, hsubscription, hmedia, rfl⟩).learns hne hlearns

end Reports

theorem publishSenderTiming_perform (s : RouterState) {streamId publisherSessionId : Text}
    {sourceGeneration : ℕ} {sourceSsrc : UInt32} {ntpTimestamp : UInt64}
    {sourceRtpTimestamp senderPacketCount senderOctetCount : UInt32}
    {result : MediaFanoutRouter × MediaPublisherSenderTiming × List ℕ}
    (h : s.router.publishSenderTiming streamId publisherSessionId sourceGeneration sourceSsrc
      ntpTimestamp sourceRtpTimestamp senderPacketCount senderOctetCount = some result) :
    (s.perform (.publishSenderTiming streamId publisherSessionId sourceGeneration sourceSsrc
      ntpTimestamp sourceRtpTimestamp senderPacketCount senderOctetCount)).router = result.1 := by
  simp only [RouterState.perform, h]
  rfl

/-- A report of no sender, or of the source zero, is as good as a packet of it. -/
theorem handleReport_cases {pending : List UInt32} {w : PublishedStream} (hw : Consistent pending w)
    (delivery : Delivery) (report : RtcpReportPacket)
    (hroom : report.senderInfo.isSome = true → report.senderSsrc ≠ 0 →
      w.HasRoomFor report.senderSsrc) :
    (report.senderInfo = none ∧ PublishedStream.handleReport delivery w report = w) ∨
    (report.senderSsrc = 0 ∧ StreamFollows 0 w (PublishedStream.handleReport delivery w report)) ∨
    report.senderInfo.isSome = true ∧ ∃ timing, timing.sourceSsrc = report.senderSsrc ∧
      Reports timing w (PublishedStream.handleReport delivery w report) := by
  unfold PublishedStream.handleReport
  cases hinfo : report.senderInfo with
  | none => exact .inl ⟨rfl, rfl⟩
  | some info =>
      right
      have hkeeps := KeepsTable.updateReceiverSenderReport report.senderSsrc
        (makeNtpTimestamp info) delivery.now w.publisher
      by_cases hzero : report.senderSsrc = 0
      · refine .inl ⟨hzero, hkeeps, ?_⟩
        have hnone : w.media.publishSenderTiming delivery.order w.publisher.streamId
            w.publisher.sessionId w.publisher.publisherSourceGeneration report.senderSsrc
            (makeNtpTimestamp info) info.rtpTimestamp info.senderPacketCount
            info.senderOctetCount = w.media := by
          simp [MediaSystem.publishSenderTiming, MediaFanoutRouter.publishSenderTiming, hzero]
        simp only [hnone]
        exact .refl _ _
      · right
        obtain ⟨source, hsource⟩ :=
          Option.isSome_iff_exists.mp (findCurrentSource_isSome.mpr hw.current)
        let timing : MediaPublisherSenderTiming :=
          { publisherSessionId := source.sessionId
            sourceGeneration := source.generation
            sourceSsrc := report.senderSsrc
            ntpTimestamp := makeNtpTimestamp info
            sourceRtpTimestamp := info.rtpTimestamp
            senderPacketCount := info.senderPacketCount
            senderOctetCount := info.senderOctetCount }
        let timings := (w.media.router.publisherSenderTimingsByStreamId.find?
          w.publisher.streamId).getD AssocMap.empty
        have hresult : w.media.router.publishSenderTiming w.publisher.streamId
            w.publisher.sessionId w.publisher.publisherSourceGeneration report.senderSsrc
            (makeNtpTimestamp info) info.rtpTimestamp info.senderPacketCount
            info.senderOctetCount =
              some ({ w.media.router with
                publisherSenderTimingsByStreamId :=
                  w.media.router.publisherSenderTimingsByStreamId.insertOrAssign
                    w.publisher.streamId (timings.insertOrAssign report.senderSsrc timing) },
                timing, w.media.router.streamTransports w.publisher.streamId) := by
          simp only [MediaFanoutRouter.publishSenderTiming, hw.streamId, hw.sessionId,
            hw.generation_ne_zero, hzero, or_self, if_false, hsource]
          rfl
        refine ⟨rfl, timing, rfl, ?_⟩
        simp only [MediaSystem.publishSenderTiming, hresult]
        have hrouter := publishSenderTiming_perform w.media.routing hresult
        constructor
        · exact hkeeps
        · exact updateReceiverSenderReport_tracks (hroom (by rw [hinfo]; rfl) hzero) _ _
        · exact hzero
        all_goals
          simp only [MediaSystem.router, MediaSystem.foldl_tell_routing, hrouter]
        · intro ssrc stored
          simp only [PublishedStream.Stores, StoresTiming, MediaSystem.router,
            MediaSystem.foldl_tell_routing, hrouter, hkeeps.streamId,
            AssocMap.find?_insertOrAssign_self, Option.some.injEq, exists_eq_left',
            AssocMap.find?_insertOrAssign]
          split_ifs with hssrc
          · rw [Option.some.injEq, eq_comm]
          · cases hfind : w.media.routing.router.publisherSenderTimingsByStreamId.find?
                w.publisher.streamId with
            | none => simp [timings, MediaSystem.router, hfind]
            | some known => simp [timings, MediaSystem.router, hfind]
        · intro i t ht
          obtain ⟨t', ht', hlearns, -⟩ := MediaSystem.foldl_tell_transports
            (f := MediaTransport.handlePublisherSenderTiming timing) (Learns.refl timing) (fun _ _ _ => Learns.trans)
            (fun t => Learns.handlePublisherSenderTiming timing t.session)
            (delivery.order.visit (w.media.router.streamTransports w.publisher.streamId))
            (m := { w.media with
              routing := w.media.routing.perform (.publishSenderTiming w.publisher.streamId
                w.publisher.sessionId w.publisher.publisherSourceGeneration report.senderSsrc
                (makeNtpTimestamp info) info.rtpTimestamp info.senderPacketCount
                info.senderOctetCount) }) ht
          exact ⟨t', ht', hlearns⟩

end SimpleWebrtc.WhipMedia
