import SimpleWebrtc.ReceiverReports

/-!
# Rounds of receiver reports

A round which can be sent leaves out no source that is due. The sources are cut
into reports of thirty-one blocks, and a report of that many blocks with the
canonical name behind it always fits a datagram.
-/
namespace SimpleWebrtc.WhipReports
open Library Library.Text RtcpReport RtcpCompoundPacket RtcpPacketBuilder RtcpRoundTrip
  RtpReceiveStatistics WhipPublisher WhipMedia WhepMedia

/-! ## A report and the canonical name -/

theorem buildRtcpSdesCname_accepts {ssrc : UInt32} {cname : Text} (hssrc : ssrc ≠ 0)
    (hcname : cname ≠ []) (hlength : cname.length ≤ 255) :
    ∃ packet, buildRtcpSdesCname ssrc cname = .ok packet := by
  have hsize : kRtcpCommonHeaderSize + 4 + 2 + cname.length + 1 = 11 + cname.length := by
    rw [kRtcpCommonHeaderSize]
    omega
  have hheader : ∃ header, writeCommonHeader
      (alignedSize (kRtcpCommonHeaderSize + 4 + 2 + cname.length + 1)) 1 kRtcpPacketTypeSdes =
        .ok header := by
    rw [hsize, alignedSize]
    exact ⟨_, writeCommonHeader_ok.mpr ⟨by omega, by omega, by decide, by omega, rfl⟩⟩
  obtain ⟨header, hheader⟩ := hheader
  unfold buildRtcpSdesCname
  rw [ensure_pass hssrc, ensure_pass hcname, ensure_pass hlength]
  exact ⟨_, bind_ok.mpr ⟨_, hheader, rfl⟩⟩

/-- The first packet of a compound has no padding. -/
theorem unpadded {count packetType : UInt8} {ssrc : UInt32} {body packet : List UInt8}
    (h : WrittenPacket count packetType ssrc body packet) :
    (Bytes.byteAt packet 0).testBit 5 = false := by
  have hzero := h.byteAt_zero []
  have hcount := h.count_le
  rw [List.append_nil] at hzero
  rw [hzero]
  have hall : ∀ n ≤ 31, (128 + n).testBit 5 = false := by decide
  exact hall _ hcount

theorem buildRtcpCompoundPacket_report {count : UInt8} {ssrc : UInt32}
    {blocks items report sdes : List UInt8}
    (hreport : WrittenPacket count kRtcpPacketTypeReceiverReport ssrc blocks report)
    (hsdes : WrittenPacket 1 kRtcpPacketTypeSdes ssrc items sdes) {maximumSize : ℕ}
    (hsize : report.length + sdes.length ≤ maximumSize) :
    buildRtcpCompoundPacket [report, sdes] maximumSize = .ok [report, sdes].flatten := by
  have hfirst := hreport.length
  have hchecked : checkMembers 2 maximumSize 0 0 false [report, sdes] =
      .ok (0 + report.length + sdes.length, true) := by
    rw [checkMembers, hreport.validate, ok_bind, ensure_pass fun _ => .inr rfl,
      ensure_pass fun hpadded => absurd hpadded (by rw [unpadded hreport]; decide),
      ensure_pass ⟨Nat.zero_le _, by omega⟩, checkMembers, hsdes.validate, ok_bind,
      ensure_pass fun hzero => absurd hzero (by decide), ensure_pass fun _ => rfl,
      ensure_pass ⟨by omega, by omega⟩]
    rfl
  rw [buildRtcpCompoundPacket, ensure_pass (List.cons_ne_nil _ _),
    ensure_pass (by rw [kRtcpCommonHeaderSize]; omega)]
  exact bind_ok.mpr ⟨_, hchecked, rfl⟩

/-- Thirty-one blocks and the longest name fit a datagram. -/
theorem buildReceiverReportDatagram_accepts {report : RtcpReceiverReportData} {cname : Text}
    (h : AcceptedReport report.senderSsrc report.reportBlocks) (hcname : cname ≠ [])
    (hlength : cname.length ≤ 255) :
    ∃ compound, buildReceiverReportDatagram report cname = .ok compound := by
  obtain ⟨packet, hpacket⟩ := (buildRtcpReceiverReport_accepts report).mpr h
  obtain ⟨sdes, hsdes⟩ := buildRtcpSdesCname_accepts h.ssrc hcname hlength
  have hreport := (buildRtcpReceiverReport_written hpacket).2
  have hname := (buildRtcpSdesCname_written hsdes).2
  have hsize : packet.length + sdes.length ≤ WhepOutbound.kDefaultRtcpDatagramMtu := by
    have hblocks := h.count
    have hbody : (sdesBody cname).length ≤ 264 := by
      simp only [sdesBody, List.length_cons, List.length_append, List.length_replicate,
        alignedSize]
      omega
    rw [hreport.length, hname.length, reportBlocks_length, kRtcpReportBlockSize,
      WhepOutbound.kDefaultRtcpDatagramMtu]
    omega
  exact ⟨_, bind_ok.mpr ⟨packet, hpacket, bind_ok.mpr ⟨sdes, hsdes,
    buildRtcpCompoundPacket_report hreport hname hsize⟩⟩⟩

/-! ## The loop -/

/-- A transport which has something to sign its reports with. -/
structure Named (t : PublisherTransport) : Prop where
  ssrc : t.rtcpSenderSsrc ≠ 0
  cname : t.rtcpCname ≠ []
  length : t.rtcpCname.length ≤ 255

theorem Named.commits {t : PublisherTransport} (h : Named t) (sources : List UInt32) :
    Named (sources.foldl PublisherTransport.commitReport t) := by
  induction sources generalizing t with
  | nil => exact h
  | cons source sources ih =>
      refine ih ?_
      unfold PublisherTransport.commitReport
      split
      · exact h
      · exact ⟨h.ssrc, h.cname, h.length⟩

theorem clampCumulativeLost_fits (value : ℤ) : FitsI24 (clampCumulativeLost value) := by
  unfold FitsI24 clampCumulativeLost kMinimumCumulativeLost kMaximumCumulativeLost
  omega

theorem previewReport_fits (s : ReceiveStatistics) : FitsI24 s.previewReport.cumulativeLost := by
  unfold ReceiveStatistics.previewReport
  split_ifs
  · exact ⟨by decide, by decide⟩
  · exact clampCumulativeLost_fits _

section
variable {t : PublisherTransport} {now : ℤ} {jitter : UInt32 → UInt32}

/-- A report which is protected goes out, and is about all its sources. -/
theorem sendReceiverReport_sends (hnamed : Named t) {sources : List UInt32}
    (hsources : Reportable t.session.inboundRtcpReceivers sources) (hfew : sources.length ≤ 31)
    {answer : Except Text Srtp.SrtpPacketProcessResult}
    (hprotected : (protectedDatagram answer).isSome = true) :
    ∃ d, t.sendReceiverReport now jitter answer sources =
        (sources.foldl PublisherTransport.commitReport t, some d) ∧
      d.content.reportedSources = sources := by
  obtain ⟨hnames, hblocks⟩ := makeReport_blocks hsources now jitter
  have haccepted : AcceptedReport (t.makeReport now jitter sources).senderSsrc
      (t.makeReport now jitter sources).reportBlocks := by
    refine ⟨hnamed.ssrc, ?_, fun block hblock => ?_⟩
    · have hlength := congrArg List.length hnames
      rw [List.length_map] at hlength
      omega
    · obtain ⟨ssrc, receiver, -, -, rfl⟩ := hblocks block hblock
      exact previewReport_fits _
  obtain ⟨compound, hbuilt⟩ :=
    buildReceiverReportDatagram_accepts haccepted hnamed.cname hnamed.length
  obtain ⟨datagram, hdatagram⟩ := Option.isSome_iff_exists.mp hprotected
  unfold PublisherTransport.sendReceiverReport
  simp only [hbuilt, hdatagram]
  exact ⟨_, rfl, hnames⟩

theorem sendReceiverReports_sends (hnamed : Named t) {srtp : SrtpAnswers}
    (hprotected : ∀ index, (protectedDatagram (srtp.protect index)).isSome = true) (index : ℕ)
    {parts : List (List UInt32)}
    (hparts : ∀ part ∈ parts, part.length ≤ 31 ∧
      Reportable t.session.inboundRtcpReceivers part) :
    ((PublisherTransport.sendReceiverReports now jitter srtp index parts t).2.map
      fun d => d.content.reportedSources) = parts := by
  induction parts generalizing t index with
  | nil => rfl
  | cons part parts ih =>
      rw [List.forall_mem_cons] at hparts
      obtain ⟨d, hsent, hnames⟩ :=
        @sendReceiverReport_sends t now jitter hnamed part hparts.1.2 hparts.1.1 _
          (hprotected index)
      have hmore := ih (hnamed.commits part) (index + 1) fun other hother =>
        ⟨(hparts.2 other hother).1, (hparts.2 other hother).2.commits hparts.1.2.nodup⟩
      simp only [PublisherTransport.sendReceiverReports, hsent, Option.toList_some,
        List.singleton_append, List.map_cons, hnames, hmore]

end

/-! ## Runs -/

theorem reportedSources_length (t : PublisherTransport) :
    t.reportedSources.length ≤ t.session.inboundRtcpReceivers.size := by
  unfold PublisherTransport.reportedSources
  rw [List.length_insertionSort, List.length_map]
  exact List.length_filter_le _ _

/-- In every run, a round whose datagrams are protected reports once on each source that is due,
in ascending order, and takes at most three datagrams. -/
theorem run_rounds_complete {events : List PublisherEvent} {w : PublisherWorld}
    (h : PublisherWorld.system.Run events w) {srtp : SrtpAnswers}
    (hopen : w.transport.closed = false) (hready : w.transport.ready srtp = true)
    (hcname : w.transport.rtcpCname.length ≤ 255)
    (hprotected : ∀ index, (protectedDatagram (srtp.protect index)).isSome = true) (now : ℤ)
    (jitter : UInt32 → UInt32) :
    ∃ sent : List PublisherDatagram,
      (w.transport.perform (.receiverReports now jitter srtp)).2 = sent.map .sent ∧
        sent.length ≤ 3 ∧
        (sent.flatMap fun d => d.content.reportedSources).Pairwise (· < ·) ∧
        ∀ ssrc, (ssrc ∈ sent.flatMap fun d => d.content.reportedSources) ↔ Due w.log ssrc := by
  have hreported := Reported.run h
  have hall := reportedSources_reportable w.transport
  have hnamed : Named w.transport := by
    simp only [PublisherTransport.ready, PublisherTransport.sendsRtcp, Bool.and_eq_true,
      decide_eq_true_eq] at hready
    exact ⟨hready.1.1.1.2, hready.1.1.2, hcname⟩
  have hround := @sendReceiverReports_sends w.transport now jitter hnamed srtp hprotected 0
    (chunks kMaximumRtcpReportBlocks w.transport.reportedSources) fun part hpart => by
      obtain ⟨-, hlength, hsublist⟩ := mem_chunks (by decide) hpart
      exact ⟨hlength, hall.ascending.sublist hsublist,
        fun ssrc hssrc => hall.found ssrc (hsublist.subset hssrc)⟩
  have hsources : ((PublisherTransport.sendReceiverReports now jitter srtp 0
      (chunks kMaximumRtcpReportBlocks w.transport.reportedSources) w.transport).2.flatMap
        fun d => d.content.reportedSources) = w.transport.reportedSources := by
    rw [List.flatMap_def, hround]
    exact chunks_flatten (by decide) _
  have hfew : (chunks kMaximumRtcpReportBlocks w.transport.reportedSources).length * 31 ≤
      w.transport.reportedSources.length + 31 := chunks_length _ _
  have hplaces := reportedSources_length w.transport
  have hperformed : (w.transport.perform (.receiverReports now jitter srtp)).2 =
      (PublisherTransport.sendReceiverReports now jitter srtp 0
        (chunks kMaximumRtcpReportBlocks w.transport.reportedSources) w.transport).2.map .sent := by
    rw [PublisherTransport.perform, PublisherTransport.sendRtcpReceiverReports,
      if_neg (by simp [hopen, hready])]
  refine ⟨_, hperformed, ?_, ?_, fun ssrc => ?_⟩
  · have hlength := congrArg List.length hround
    have hmost := heardSources_length w.log
    rw [List.length_map] at hlength
    rw [hreported.heard.size_eq] at hplaces
    rw [kMaximumRtpSources] at hmost
    omega
  · rw [hsources]
    exact hall.ascending
  · rw [hsources]
    exact hreported.heard.due_iff

theorem run_rounds_complete_played : ∃ w, PublisherWorld.system.Run (heardEvents.take 4) w ∧
    ∃ sent : List PublisherDatagram,
      (w.transport.perform (.receiverReports 4000000 (fun _ => 0) WhepOutbound.protecting)).2 =
          sent.map .sent ∧ sent.length ≤ 3 ∧
        (sent.flatMap fun d => d.content.reportedSources).Pairwise (· < ·) ∧
        ∀ ssrc, (ssrc ∈ sent.flatMap fun d => d.content.reportedSources) ↔ Due w.log ssrc := by
  obtain ⟨w, hrun, hholds⟩ := @heardOutset_run (heardEvents.take 4) (fun w => decide
    (w.transport.closed = false ∧ w.transport.ready WhepOutbound.protecting = true ∧
      w.transport.rtcpCname.length ≤ 255)) (by decide +kernel)
  obtain ⟨hopen, hready, hcname⟩ := of_decide_eq_true hholds
  exact ⟨w, hrun, run_rounds_complete hrun hopen hready hcname (fun _ => rfl) 4000000 fun _ => 0⟩

end SimpleWebrtc.WhipReports
