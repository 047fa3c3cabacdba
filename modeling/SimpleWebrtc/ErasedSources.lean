import SimpleWebrtc.SubscriberChanges

/-!
# Every trace of a source is erased

Runs of a publisher's session with the router and the subscribers. While reports
find room in the table of tracked sources and BYEs reach what is kept of theirs,
timings are of tracked sources only, and nothing is kept of a source whose BYE
has come until it is heard of again.
-/
namespace SimpleWebrtc.WhipMedia
open Library Library.Text RtpPacket RtcpReport RtcpCompoundPacket MediaFanout WhepSession WhepMedia
  RewriterConfig

/-! ## One event -/

theorem Consistent.sourcesTracked {w : PublishedStream} (hw : Consistent [] w) :
    w.SourcesTracked := by
  have htracked : ∀ sourceSsrc timing, w.Stores sourceSsrc timing →
      (w.publisher.inboundRtcpReceivers.find? sourceSsrc).isSome = true := by
    intro sourceSsrc timing hstores
    exact (hw.stored sourceSsrc timing hstores).2.2.resolve_right List.not_mem_nil
  refine ⟨htracked, fun timings htimings => ?_⟩
  have hsize : timings.size ≤ w.publisher.inboundRtcpReceivers.size := by
    apply AssocMap.size_le_of_keys
    intro sourceSsrc timing htiming
    exact htracked sourceSsrc timing ⟨timings, htimings, htiming⟩
  exact hsize.trans hw.bounded

/-- A timer and a retry ask for nothing new. -/
theorem retry_follows (sourceSsrc : UInt32) (w : PublishedStream) (index : ℕ) :
    StreamFollows sourceSsrc w (w.perform (.timerExpired index)) ∧
      StreamFollows sourceSsrc w (w.perform (.retryCompleted index)) :=
  ⟨.retry (.refl _ _), .retry (retryCompleted_follows sourceSsrc w.media.routing index)⟩

theorem perform_consistent {w : PublishedStream} (hw : Consistent [] w) {e : StreamEvent}
    (hcovered : w.Covered e) : Consistent [] (w.perform e) := by
  cases e with
  | rtp delivery plainPacket =>
      rcases StreamFollows.handleInboundRtp delivery plainPacket w with heq | ⟨_, -, hfollows⟩
      · rw [PublishedStream.perform, heq]
        exact hw
      · exact hfollows.consistent hw
  | rtcp delivery plainRtcp =>
      rw [PublishedStream.perform, PublishedStream.handleInboundRtcp]
      cases hcompound : parseRtcpCompoundPacket plainRtcp with
      | error e => exact hw
      | ok compound =>
          obtain ⟨hfit, hreach⟩ := hcovered compound hcompound
          exact (handleInboundByes_erases (reports_consistent delivery hw hfit) delivery hreach).1
  | join order streamId sessionId target =>
      exact (join_narrows w.media order streamId sessionId target).consistent hw
        (join_serves hw order streamId sessionId target)
  | leave transport => exact Narrows.consistent (.closeTransport _ _) hw (leave_serves hw transport)
  | timerExpired index => exact (retry_follows 0 w index).1.consistent hw
  | retryCompleted index => exact (retry_follows 0 w index).2.consistent hw

/-- An event leaves no trace of a source it does not mention. -/
theorem perform_forgotten {w : PublishedStream} (hw : Consistent [] w) {e : StreamEvent}
    (hcovered : w.Covered e) {ssrc : UInt32} (hother : ¬e.Mentions ssrc)
    (hforgotten : w.Forgotten ssrc) : (w.perform e).Forgotten ssrc := by
  by_cases hzero : ssrc = 0
  · rw [hzero]
    exact (perform_consistent hw hcovered).forgotten_zero
  cases e with
  | rtp delivery plainPacket =>
      rcases StreamFollows.handleInboundRtp delivery plainPacket w with
        heq | ⟨header, hheader, hfollows⟩
      · rw [PublishedStream.perform, heq]
        exact hforgotten
      · apply hfollows.forgotten hw _ hforgotten
        rintro rfl
        exact hother ⟨header, hheader, rfl⟩
  | rtcp delivery plainRtcp =>
      rw [PublishedStream.perform, PublishedStream.handleInboundRtcp]
      cases hcompound : parseRtcpCompoundPacket plainRtcp with
      | error e => exact hforgotten
      | ok compound =>
          obtain ⟨hfit, hreach⟩ := hcovered compound hcompound
          have hkept := (handleInboundByes_erases (reports_consistent delivery hw hfit) delivery
            hreach).2.2
          apply hkept ssrc
          apply reports_forgotten delivery hw hfit _ hforgotten
          intro report hreport hinfo heq
          exact hother ⟨compound, hcompound, report, hreport, hinfo, heq⟩
  | join order streamId sessionId target =>
      exact (join_narrows w.media order streamId sessionId target).forgotten hw
        (join_serves hw order streamId sessionId target) hforgotten
  | leave transport =>
      exact Narrows.forgotten (.closeTransport _ _) hw (leave_serves hw transport) hforgotten
  | timerExpired index => exact (retry_follows 0 w index).1.forgotten hw hzero hforgotten
  | retryCompleted index => exact (retry_follows 0 w index).2.forgotten hw hzero hforgotten

/-- A BYE leaves nothing of its source. -/
theorem perform_ends {w : PublishedStream} (hw : Consistent [] w) {e : StreamEvent}
    (hcovered : w.Covered e) {ssrc : UInt32} (hends : e.Ends ssrc) :
    (w.perform e).Forgotten ssrc := by
  cases e with
  | rtcp delivery plainRtcp =>
      obtain ⟨compound, hcompound, bye, hbye, hmem⟩ := hends
      obtain ⟨hfit, hreach⟩ := hcovered compound hcompound
      rw [PublishedStream.perform, PublishedStream.handleInboundRtcp, hcompound]
      exact (handleInboundByes_erases (reports_consistent delivery hw hfit) delivery
        hreach).2.1 bye hbye ssrc hmem
  | rtp delivery plainPacket => cases hends
  | join order streamId sessionId target => cases hends
  | leave transport => cases hends
  | timerExpired index => cases hends
  | retryCompleted index => cases hends

/-! ## Runs -/

/-- The last event ends a source, or the source was ended before it and is not mentioned by it. -/
theorem ended_concat {ssrc : UInt32} {events : List StreamEvent} {e : StreamEvent}
    (h : Ended ssrc (events ++ [e])) : e.Ends ssrc ∨ Ended ssrc events ∧ ¬e.Mentions ssrc := by
  obtain ⟨before, bye, after, heq, hends, hsilent⟩ := h
  rcases List.eq_nil_or_concat after with rfl | ⟨after, last, rfl⟩
  · obtain ⟨-, hlast⟩ := List.append_inj' heq rfl
    obtain rfl := List.singleton_injective hlast
    exact .inl hends
  · rw [List.concat_eq_append] at heq hsilent
    rw [← List.cons_append, ← List.append_assoc] at heq
    obtain ⟨hevents, hlast⟩ := List.append_inj' heq rfl
    obtain rfl := List.singleton_injective hlast
    exact .inr ⟨⟨before, bye, after, hevents, hends, fun e' he' =>
      hsilent e' (List.mem_append_left _ he')⟩, hsilent e (List.mem_append_right _ (by simp))⟩

theorem run_erases (events : List StreamEvent) (w : PublishedStream)
    (hrun : (PublishedStream.system.restrict PublishedStream.Covered).Run events w) :
    w.SourcesTracked ∧ ∀ sourceSsrc, Ended sourceSsrc events → w.Forgotten sourceSsrc := by
  suffices h : Consistent [] w ∧ ∀ sourceSsrc, Ended sourceSsrc events → w.Forgotten sourceSsrc from
    ⟨h.1.sourcesTracked, h.2⟩
  induction hrun with
  | start hbegins =>
      refine ⟨.of_begins hbegins, ?_⟩
      rintro sourceSsrc ⟨before, bye, after, heq, -⟩
      simp at heq
  | step _ hstep ih =>
      obtain ⟨hcovered, hperform⟩ := hstep
      obtain rfl := Option.some.inj hperform
      refine ⟨perform_consistent ih.1 hcovered, ?_⟩
      intro sourceSsrc hended
      rcases ended_concat hended with hends | ⟨hbefore, hother⟩
      · exact perform_ends ih.1 hcovered hends
      · exact perform_forgotten ih.1 hcovered hother (ih.2 sourceSsrc hbefore)

/-! ## A publisher without subscribers -/

def begun : PublishedStream where
  publisher :=
    { streamId := [115]
      sessionId := [112]
      publisherSourceGeneration := 1
      inboundPayloadTypes := AssocMap.empty.insertOrAssign 96 { kind := [118], clockRate := 90000 } }
  media :=
    { routing :=
        { router :=
            { nextSourceGeneration := 2
              publisherSourcesByStreamId :=
                AssocMap.empty.insertOrAssign [115] ⟨[115], [112], 1, {}⟩
              publisherSourceGenerationsByStreamId := AssocMap.empty.insertOrAssign [115] 1 } } }

theorem begun_begins : begun.Begins where
  streamId := List.cons_ne_nil _ _
  sessionId := List.cons_ne_nil _ _
  generation_ne_zero := Nat.one_ne_zero
  current := ⟨⟨[115], [112], 1, {}⟩, AssocMap.find?_insertOrAssign_self _ _ _, rfl, rfl⟩
  generation := AssocMap.find?_insertOrAssign_self _ _ _
  receivers := rfl
  forgotten sourceSsrc :=
    { timing := by
        rintro timing ⟨timings, htimings, -⟩
        cases htimings
      requests := by
        intro key state hstate
        cases hstate
      subscribers := by
        rintro id t ⟨transport, media, hsubscription, -⟩
        cases hsubscription }
  subscriptions := by
    intro id transport hsubscription
    cases hsubscription

def unhurried : Delivery where
  now := 0
  srtp _ := ⟨.ok true, fun _ => .error []⟩
  order := .asStored

def reportBytes : List UInt8 :=
  [128, 200, 0, 6, 0, 0, 0, 65, 0, 0, 0, 1, 0, 0, 0, 0, 0, 0, 0, 9, 0, 0, 0, 1, 0, 0, 0, 1]

def byeBytes : List UInt8 := [129, 203, 0, 1, 0, 0, 0, 65]

def reporting : StreamEvent := .rtcp unhurried reportBytes

def ending : StreamEvent := .rtcp unhurried byeBytes

def reported : RtcpReportPacket := ⟨200, 65, some ⟨1, 0, 9, 1, 1⟩, []⟩

/-- A datagram of one block carries what the block does. -/
theorem parseRtcpCompoundPacket_single {data : List UInt8} (header : RtcpPacketHeader)
    {reports : List RtcpReportPacket} {byes : List RtcpByePacket}
    (hheader : (parseRtcpPacketHeader data).toOption = some header)
    (hsize : header.packetSize = data.length) (hlength : kRtcpCommonHeaderSize ≤ data.length)
    (hblock : (parseCompoundBlock header data {}).toOption.map
      (fun packet => (packet.reportPackets, packet.byePackets, packet.blocks.isEmpty)) =
        some (reports, byes, false)) :
    ∃ compound, parseRtcpCompoundPacket data = .ok compound ∧ compound.reportPackets = reports ∧
      compound.byePackets = byes := by
  obtain ⟨packet, hpacket, hcarries⟩ := Option.map_eq_some_iff.mp hblock
  simp only [Prod.mk.injEq] at hcarries
  obtain ⟨hreports, hbyes, hblocks⟩ := hcarries
  refine ⟨packet, ?_, hreports, hbyes⟩
  have hpos : 0 < data.length := Nat.lt_of_lt_of_le (by decide) hlength
  have hblocks' : parseCompoundBlocks data {} = .ok packet := by
    rw [parseCompoundBlocks, if_neg (List.ne_nil_of_length_pos hpos),
      if_neg (Nat.not_lt.mpr hlength), ok_of_toOption hheader]
    simp only [inBlock, hsize, Nat.ne_of_gt hpos, gt_iff_lt, lt_self_iff_false, ne_eq,
      not_true_eq_false, and_false, if_false, List.take_length, ok_of_toOption hpacket,
      List.drop_length]
    rw [parseCompoundBlocks, if_pos rfl]
  rw [parseRtcpCompoundPacket, if_neg (List.ne_nil_of_length_pos hpos), hblocks']
  simp only [hblocks]
  rfl

theorem reportBytes_compound : ∃ compound, parseRtcpCompoundPacket reportBytes = .ok compound ∧
    compound.reportPackets = [reported] ∧ compound.byePackets = [] :=
  parseRtcpCompoundPacket_single
    { packetType := 200, length := 6, packetSize := 28, hasSsrc := true, ssrc := 65 }
    (by decide +kernel) rfl (by decide) (by decide +kernel)

theorem byeBytes_compound : ∃ compound, parseRtcpCompoundPacket byeBytes = .ok compound ∧
    compound.reportPackets = [] ∧ compound.byePackets = [⟨[65], []⟩] :=
  parseRtcpCompoundPacket_single
    { count := 1, packetType := 203, length := 1, packetSize := 8, hasSsrc := true, ssrc := 65 }
    (by decide +kernel) rfl (by decide) (by decide +kernel)

/-- A compound is handled by what it carries. -/
theorem perform_compound (w : PublishedStream) (delivery : Delivery) {data : List UInt8}
    {compound : RtcpCompoundPacket} {reports : List RtcpReportPacket} {byes : List RtcpByePacket}
    (hparse : parseRtcpCompoundPacket data = .ok compound)
    (hreports : compound.reportPackets = reports) (hbyes : compound.byePackets = byes) :
    w.perform (.rtcp delivery data) =
      (reports.foldl (PublishedStream.handleReport delivery) w).handleInboundByes delivery byes := by
  rw [PublishedStream.perform, PublishedStream.handleInboundRtcp, hparse]
  simp only [hreports, hbyes]

theorem handleInboundByes_nil (w : PublishedStream) (delivery : Delivery) :
    w.handleInboundByes delivery [] = w := rfl

theorem reporting_covered : begun.Covered reporting := by
  intro compound hcompound
  obtain ⟨compound', hparse, hreports, hbyes⟩ := reportBytes_compound
  rw [hcompound, Except.ok.injEq] at hparse
  rw [hparse, hreports, hbyes]
  refine ⟨⟨fun _ _ => .inr (by decide), trivial⟩, ?_⟩
  intro bye hbye
  cases hbye

theorem ending_covered : (begun.perform reporting).Covered ending := by
  intro compound hcompound
  obtain ⟨compound', hparse, hreports, hbyes⟩ := byeBytes_compound
  rw [hcompound, Except.ok.injEq] at hparse
  rw [hparse, hreports, hbyes]
  refine ⟨trivial, ?_⟩
  obtain ⟨reportCompound, hparse', hreports', hbyes'⟩ := reportBytes_compound
  rw [List.foldl_nil, reporting, perform_compound begun unhurried hparse' hreports' hbyes']
  intro bye hbye sourceSsrc hmem hne
  rw [List.mem_singleton] at hbye
  subst hbye
  rw [List.mem_singleton] at hmem
  subst hmem
  rw [if_pos (by decide +kernel)]
  rintro id t ⟨transport, media, hsubscription, -⟩
  cases hsubscription

theorem run_erases_reported :
    ((begun.perform reporting).perform ending).SourcesTracked ∧
      ((begun.perform reporting).perform ending).Forgotten 65 := by
  have hrun : (PublishedStream.system.restrict PublishedStream.Covered).Run [reporting, ending]
      ((begun.perform reporting).perform ending) := by
    have hstart : (PublishedStream.system.restrict PublishedStream.Covered).Run [] begun :=
      .start begun_begins
    exact (hstart.step ⟨reporting_covered, rfl⟩).step ⟨ending_covered, rfl⟩
  obtain ⟨htracked, herased⟩ := run_erases _ _ hrun
  refine ⟨htracked, herased 65 ⟨[reporting], ending, [], rfl, ?_, ?_⟩⟩
  · obtain ⟨compound, hparse, -, hbyes⟩ := byeBytes_compound
    refine ⟨compound, hparse, ⟨[65], []⟩, ?_, List.mem_singleton_self _⟩
    rw [hbyes]
    exact List.mem_singleton_self _
  · intro e' he'
    cases he'

/-! ## A full table -/

/-- A packet of each of sixty-four sources. -/
def crowd : List StreamEvent :=
  (List.range 64).map fun n => .rtp unhurried [128, 96, 0, 1, 0, 0, 0, 0, 0, 0, 0, UInt8.ofNat n, 7]

def crowded : PublishedStream := crowd.foldl PublishedStream.perform begun

def overflowed : PublishedStream := PublishedStream.handleReport unhurried crowded reported

/-- A report of one more source is stored with the router, and not in the table. -/
theorem overflowed_untracked :
    (overflowed.publisher.inboundRtcpReceivers.find? 65).isSome = false ∧
    ((overflowed.media.router.publisherSenderTimingsByStreamId.find?
      overflowed.publisher.streamId).bind fun timings => timings.find? 65).isSome = true := by
  decide +kernel

theorem crowded_perform : crowded.perform reporting = overflowed := by
  obtain ⟨compound, hparse, hreports, hbyes⟩ := reportBytes_compound
  rw [reporting, perform_compound crowded unhurried hparse hreports hbyes, handleInboundByes_nil,
    List.foldl_cons, List.foldl_nil, overflowed]

theorem untracked_timing : ¬∀ (events : List StreamEvent) (w : PublishedStream),
    PublishedStream.system.Run events w →
      w.SourcesTracked ∧ ∀ sourceSsrc, Ended sourceSsrc events → w.Forgotten sourceSsrc := by
  intro hall
  have hstart : PublishedStream.system.Run [] begun := .start begun_begins
  have hrun : PublishedStream.system.Run (crowd ++ [reporting]) (crowded.perform reporting) := by
    have hcrowd : PublishedStream.system.Run ([] ++ crowd) crowded := hstart.foldl
    exact hcrowd.step rfl
  obtain ⟨htracked, -⟩ := hall _ _ hrun
  rw [crowded_perform] at htracked
  obtain ⟨huntracked, hstored⟩ := overflowed_untracked
  obtain ⟨timing, htiming⟩ := Option.isSome_iff_exists.mp hstored
  obtain ⟨timings, htimings, hfind⟩ := Option.bind_eq_some_iff.mp htiming
  have hfound := htracked.tracked 65 timing ⟨timings, htimings, hfind⟩
  rw [huntracked] at hfound
  cases hfound

end SimpleWebrtc.WhipMedia
