import SimpleWebrtc.HeardSources
import SimpleWebrtc.OutboundReports

/-!
# Receiver reports over whole runs

Each block of a report names a source that is heard, counts the packets which
came in since the last report of it went out, and dates the last sender report.
A round of reports leaves no source out.
-/
namespace SimpleWebrtc.WhipReports
open Library Library.Text RtpPacket RtcpReport RtcpCompoundPacket RtcpPacketBuilder RtcpDatagrams
  RtpReceiveStatistics ReportedLoss TransportFeedbackGenerator WhipPublisher WhipMedia WhepMedia

/-! ## What comes in -/

theorem observeTransportSequence_receivers (t : WhipSessionTransport)
    (context : InboundPayloadTypeContext) (ssrc : UInt32) (now : ℤ) (packet : List UInt8) :
    (t.observeTransportSequence context ssrc now packet).inboundRtcpReceivers =
      t.inboundRtcpReceivers := by
  unfold WhipSessionTransport.observeTransportSequence
  split_ifs
  · rfl
  · split
    · rfl
    · rfl
    · split_ifs <;> rfl

/-- A source is found, or has room, or has none. -/
theorem receiverFor_cases (t : WhipSessionTransport) (ssrc : UInt32)
    (fresh : InboundRtcpReceiverState) :
    (∃ receiver, t.inboundRtcpReceivers.find? ssrc = some receiver ∧
        t.receiverFor ssrc fresh = some receiver) ∨
      (t.inboundRtcpReceivers.find? ssrc = none ∧
        t.inboundRtcpReceivers.size < kMaximumRtpSources ∧
        t.receiverFor ssrc fresh = some fresh) ∨
      (t.inboundRtcpReceivers.find? ssrc = none ∧
        kMaximumRtpSources ≤ t.inboundRtcpReceivers.size ∧ t.receiverFor ssrc fresh = none) := by
  unfold WhipSessionTransport.receiverFor
  cases hfind : t.inboundRtcpReceivers.find? ssrc with
  | some receiver => exact .inl ⟨receiver, rfl, rfl⟩
  | none =>
      simp only
      split_ifs with hfull
      · exact .inr (.inr ⟨trivial, hfull, rfl⟩)
      · exact .inr (.inl ⟨trivial, not_le.mp hfull, rfl⟩)

/-- What a packet does to the receiver of its source. -/
def observed (header : RtpPacketHeader) (context : InboundPayloadTypeContext)
    (receiver : InboundRtcpReceiverState) : InboundRtcpReceiverState :=
  if receiver.kind ≠ [] ∧ receiver.kind ≠ context.kind then receiver
  else
    { receiver with
      kind := context.kind
      clockRate := context.clockRate
      rtcpRsize := context.rtcpRsize
      receiveStatistics :=
        (receiver.receiveStatistics.observe header.sequenceNumber context.clockRate).2 }

theorem recordInboundRtp_receivers {t : WhipSessionTransport} {header : RtpPacketHeader}
    {context : InboundPayloadTypeContext}
    (hcontext : t.inboundPayloadTypes.find? header.payloadType = some context) (now : ℤ)
    (packet : List UInt8) :
    (t.recordInboundRtp header now packet).inboundRtcpReceivers =
      match t.receiverFor header.ssrc
          { kind := context.kind, clockRate := context.clockRate,
            rtcpRsize := context.rtcpRsize } with
      | none => t.inboundRtcpReceivers
      | some receiver =>
          t.inboundRtcpReceivers.insertOrAssign header.ssrc (observed header context receiver) := by
  have hsame := observeTransportSequence_receivers t context header.ssrc now packet
  have hfor : ∀ fresh, (t.observeTransportSequence context header.ssrc now packet).receiverFor
      header.ssrc fresh = t.receiverFor header.ssrc fresh := by
    intro fresh
    unfold WhipSessionTransport.receiverFor
    rw [hsame]
  unfold WhipSessionTransport.recordInboundRtp
  rw [hcontext]
  simp only
  rw [hfor]
  cases t.receiverFor header.ssrc _ with
  | none => exact hsame
  | some receiver =>
      unfold WhipSessionTransport.keepReceiver observed
      simp only
      rw [hsame]
      split_ifs <;> rfl

/-- A packet counts in the table as it does in the log. -/
theorem Matches.observed {receiver : InboundRtcpReceiverState} {a : SourceAccount}
    (h : Matches receiver a) (header : RtpPacketHeader) (context : InboundPayloadTypeContext)
    (packet : List UInt8) (now : ℤ) :
    Matches (WhipReports.observed header context receiver)
      (a.hear header.ssrc (.rtp header context packet now)) := by
  unfold WhipReports.observed SourceAccount.hear
  simp only [ne_eq, not_true_eq_false, false_or]
  rw [h.kind]
  split_ifs
  · exact h
  · refine ⟨rfl, ?_, h.lastSenderReport, h.receivedAt, h.sound.step (by simp)⟩
    rw [h.statistics]
    rfl

/-- The first packet of a source gives it its kind. -/
theorem matches_fresh (header : RtpPacketHeader) (context : InboundPayloadTypeContext)
    (packet : List UInt8) (now : ℤ) :
    Matches (WhipReports.observed header context
        { kind := context.kind, clockRate := context.clockRate, rtcpRsize := context.rtcpRsize })
      (SourceAccount.hear header.ssrc {} (.rtp header context packet now)) := by
  have hobserved := matches_empty.observed header context packet now
  unfold WhipReports.observed at hobserved ⊢
  simpa using hobserved

namespace Heard
variable {log : List PublisherEntry} {t : PublisherTransport}

theorem hearRtp (h : Heard log t.session.inboundRtcpReceivers) (now : ℤ) (packet : List UInt8) :
    Heard (log ++ (t.hearRtp now packet).2)
      (t.hearRtp now packet).1.session.inboundRtcpReceivers := by
  unfold PublisherTransport.hearRtp
  split
  · rwa [List.append_nil]
  · rename_i header _
    cases hcontext : t.session.inboundPayloadTypes.find? header.payloadType with
    | none =>
        simp only [Option.toList_none, List.map_nil, List.append_nil]
        unfold WhipSessionTransport.recordInboundRtp
        rw [hcontext]
        exact h
    | some context =>
        have hsource : ∀ sources, hearSource sources (.rtp header context packet now) =
            takePlace sources header.ssrc := fun sources => rfl
        have hother : ∀ ssrc, ssrc ≠ header.ssrc → ∀ a,
            SourceAccount.hear ssrc a (.rtp header context packet now) = a :=
          fun ssrc hne a => if_pos (.inl (Ne.symm hne))
        simp only [Option.toList_some, List.map_cons, List.map_nil]
        rw [recordInboundRtp_receivers hcontext]
        rcases receiverFor_cases t.session header.ssrc
            { kind := context.kind, clockRate := context.clockRate,
              rtcpRsize := context.rtcpRsize } with
          ⟨receiver, hfind, heq⟩ | ⟨hnone, hroom, heq⟩ | ⟨hnone, hfull, heq⟩
        · rw [heq]
          exact h.hears hsource hother
            ((h.matching _ _ hfind).observed header context packet now)
            (.inl (Option.isSome_iff_exists.mpr ⟨receiver, hfind⟩))
        · rw [heq]
          refine h.hears hsource hother ?_ (.inr hroom)
          have habsent : header.ssrc ∉ heardSources log := by
            rw [← h.tracked, hnone]
            exact Bool.false_ne_true
          rw [account_absent habsent]
          exact matches_fresh header context packet now
        · rw [heq]
          exact h.overflows hsource hother hnone hfull

theorem hearReport (h : Heard log t.session.inboundRtcpReceivers) (now : ℤ)
    (report : RtcpReportPacket) :
    Heard (log ++ (PublisherTransport.hearReport now t report).2)
      (PublisherTransport.hearReport now t report).1.session.inboundRtcpReceivers := by
  unfold PublisherTransport.hearReport
  split
  · rwa [List.append_nil]
  · rename_i senderInfo _
    have hsource : ∀ sources, hearSource sources
        (.senderReport report.senderSsrc (makeNtpTimestamp senderInfo) now) =
          takePlace sources report.senderSsrc := fun sources => rfl
    have hother : ∀ ssrc, ssrc ≠ report.senderSsrc → ∀ a, SourceAccount.hear ssrc a
        (.senderReport report.senderSsrc (makeNtpTimestamp senderInfo) now) = a :=
      fun ssrc hne a => if_neg (Ne.symm hne)
    have hmatches : ∀ receiver a, Matches receiver a →
        Matches { receiver with
            senderReportCount := receiver.senderReportCount + 1
            lastSenderReport := makeCompactNtp (makeNtpTimestamp senderInfo)
            lastSenderReportReceivedAt := some now }
          (a.hear report.senderSsrc
            (.senderReport report.senderSsrc (makeNtpTimestamp senderInfo) now)) := by
      intro receiver a ha
      have hhear : a.hear report.senderSsrc
          (.senderReport report.senderSsrc (makeNtpTimestamp senderInfo) now) =
            { a with senderReport := some (makeNtpTimestamp senderInfo, now) } := if_pos rfl
      rw [hhear]
      exact ⟨ha.kind, ha.statistics, rfl, rfl, ha.sound⟩
    simp only
    unfold WhipSessionTransport.updateReceiverSenderReport
    rcases receiverFor_cases t.session report.senderSsrc {} with
      ⟨receiver, hfind, heq⟩ | ⟨hnone, hroom, heq⟩ | ⟨hnone, hfull, heq⟩
    · rw [heq]
      exact h.hears hsource hother (hmatches _ _ (h.matching _ _ hfind))
        (.inl (Option.isSome_iff_exists.mpr ⟨receiver, hfind⟩))
    · rw [heq]
      refine h.hears hsource hother (hmatches _ _ ?_) (.inr hroom)
      have habsent : report.senderSsrc ∉ heardSources log := by
        rw [← h.tracked, hnone]
        exact Bool.false_ne_true
      rw [account_absent habsent]
      exact matches_empty
    · rw [heq]
      exact h.overflows hsource hother hnone hfull

theorem hearReports (h : Heard log t.session.inboundRtcpReceivers) (now : ℤ)
    (reports : List RtcpReportPacket) :
    Heard (log ++ (PublisherTransport.hearReports now reports t).2)
      (PublisherTransport.hearReports now reports t).1.session.inboundRtcpReceivers := by
  induction reports generalizing log t with
  | nil => rwa [PublisherTransport.hearReports, List.append_nil]
  | cons report reports ih =>
      rw [PublisherTransport.hearReports, ← List.append_assoc]
      exact ih (h.hearReport now report)

theorem endSources {session : WhipSessionTransport} (h : Heard log session.inboundRtcpReceivers)
    (named : List EndedSource) :
    Heard (log ++ named.map fun source => .bye source.sourceSsrc)
      (session.endSources named).1.inboundRtcpReceivers := by
  induction named generalizing log session with
  | nil => rwa [List.map_nil, List.append_nil]
  | cons source named ih =>
      rw [List.map_cons, List.append_cons, WhipSessionTransport.endSources]
      refine ih ?_
      unfold WhipSessionTransport.endSource
      split_ifs with hended
      · exact h.ends hended.1
      · rw [not_and_or, not_ne_iff, Bool.not_eq_true, Option.isSome_eq_false_iff,
          Option.isNone_iff_eq_none] at hended
        by_cases hzero : source.sourceSsrc = 0
        · exact h.silent (fun sources => if_pos hzero) fun _ _ => rfl
        · have hkept := h.ends hzero
          rwa [AssocMap.erase_of_none (hended.resolve_left hzero)] at hkept

theorem hearRtcp (h : Heard log t.session.inboundRtcpReceivers) (now : ℤ)
    (plainRtcp : List UInt8) :
    Heard (log ++ (t.hearRtcp now plainRtcp).2)
      (t.hearRtcp now plainRtcp).1.session.inboundRtcpReceivers := by
  unfold PublisherTransport.hearRtcp
  split
  · rwa [List.append_nil]
  · rename_i compound _
    simp only
    rw [← List.append_assoc]
    exact (h.hearReports now compound.reportPackets).endSources (namedSources compound.byePackets)

/-- Datagrams without reports. -/
theorem sends {receivers : AssocMap UInt32 InboundRtcpReceiverState} (h : Heard log receivers)
    {sent : List PublisherDatagram} (hsent : ∀ d ∈ sent, d.content.reportedSources = []) :
    Heard (log ++ sent.map .sent) receivers := by
  induction sent generalizing log with
  | nil => rwa [List.map_nil, List.append_nil]
  | cons d sent ih =>
      rw [List.forall_mem_cons] at hsent
      rw [List.map_cons, List.append_cons]
      refine ih (h.silent (fun _ => rfl) fun ssrc a => ?_) hsent.2
      rw [SourceAccount.hear, hsent.1, if_neg List.not_mem_nil]

end Heard

/-! ## What goes out -/

/-- What a report leaves with the sources it is about. -/
def committed (receiver : InboundRtcpReceiverState) : InboundRtcpReceiverState :=
  { receiver with receiveStatistics := receiver.receiveStatistics.commitReport }

theorem find?_commitReport (t : PublisherTransport) (source ssrc : UInt32) :
    (t.commitReport source).session.inboundRtcpReceivers.find? ssrc =
      if ssrc = source then (t.session.inboundRtcpReceivers.find? ssrc).map committed
      else t.session.inboundRtcpReceivers.find? ssrc := by
  unfold PublisherTransport.commitReport
  cases hfind : t.session.inboundRtcpReceivers.find? source with
  | none =>
      simp only
      split_ifs with heq
      · rw [heq, hfind]
        rfl
      · rfl
  | some receiver =>
      simp only [WhipSessionTransport.keepReceiver]
      rw [AssocMap.find?_insertOrAssign]
      split_ifs with heq
      · rw [heq, hfind]
        rfl
      · rfl

theorem find?_commitReports {sources : List UInt32} (hnodup : sources.Nodup)
    (t : PublisherTransport) (ssrc : UInt32) :
    (sources.foldl PublisherTransport.commitReport t).session.inboundRtcpReceivers.find? ssrc =
      if ssrc ∈ sources then (t.session.inboundRtcpReceivers.find? ssrc).map committed
      else t.session.inboundRtcpReceivers.find? ssrc := by
  induction sources generalizing t with
  | nil => simp
  | cons source sources ih =>
      obtain ⟨hnew, hrest⟩ := List.nodup_cons.mp hnodup
      rw [List.foldl_cons, ih hrest, find?_commitReport]
      by_cases hmem : ssrc ∈ sources
      · have hne : ssrc ≠ source := fun heq => hnew (heq ▸ hmem)
        simp [hmem, hne]
      · simp [hmem]

/-- The sources a round reports on: each once, in order, and of each a packet was counted. -/
structure Reportable (receivers : AssocMap UInt32 InboundRtcpReceiverState)
    (sources : List UInt32) : Prop where
  ascending : sources.Pairwise (· < ·)
  found : ∀ ssrc ∈ sources, ∃ receiver, receivers.find? ssrc = some receiver ∧
    receiver.receiveStatistics.sequenceInitialized = true

theorem Reportable.nodup {receivers : AssocMap UInt32 InboundRtcpReceiverState}
    {sources : List UInt32} (h : Reportable receivers sources) : sources.Nodup :=
  h.ascending.imp fun hlt => (UInt32.ne_of_lt hlt)

theorem mem_reportedSources {t : PublisherTransport} {ssrc : UInt32} :
    ssrc ∈ t.reportedSources ↔ ∃ receiver,
      t.session.inboundRtcpReceivers.find? ssrc = some receiver ∧
        receiver.receiveStatistics.sequenceInitialized = true := by
  unfold PublisherTransport.reportedSources
  rw [List.mem_insertionSort, List.mem_map]
  constructor
  · intro hentry
    obtain ⟨⟨key, receiver⟩, hmem, rfl⟩ := hentry
    obtain ⟨hin, hinit⟩ := List.mem_filter.mp hmem
    exact ⟨receiver, AssocMap.find?_eq_some.mpr hin, hinit⟩
  · intro hfound
    obtain ⟨receiver, hfind, hinit⟩ := hfound
    exact ⟨(ssrc, receiver), List.mem_filter.mpr ⟨AssocMap.find?_eq_some.mp hfind, hinit⟩, rfl⟩

theorem reportedSources_reportable (t : PublisherTransport) :
    Reportable t.session.inboundRtcpReceivers t.reportedSources := by
  refine ⟨?_, fun ssrc hmem => mem_reportedSources.mp hmem⟩
  have hsorted : t.reportedSources.Pairwise (· ≤ ·) := List.pairwise_insertionSort (· ≤ ·) _
  have hnodup : t.reportedSources.Nodup := by
    have hkeys : (t.session.inboundRtcpReceivers.entries.filter fun e =>
        e.2.receiveStatistics.sequenceInitialized).map Prod.fst |>.Nodup :=
      t.session.inboundRtcpReceivers.nodup.sublist (List.filter_sublist.map _)
    exact (List.perm_insertionSort _ _).nodup_iff.mpr hkeys
  exact hsorted.imp₂ (fun ssrc ssrc' hle hne => UInt32.lt_of_le_of_ne hle hne) hnodup

/-! ## Truth of a block -/

/-- A source in its place of which a packet was counted. -/
def Due (log : List PublisherEntry) (sourceSsrc : UInt32) : Prop :=
  sourceSsrc ∈ heardSources log ∧ (account sourceSsrc log).receiver.counts.received ≠ 0

/-- The sources a round reports on are those of the log which are due. -/
theorem Heard.due_iff {log : List PublisherEntry} {t : PublisherTransport}
    (h : Heard log t.session.inboundRtcpReceivers) {ssrc : UInt32} :
    ssrc ∈ t.reportedSources ↔ Due log ssrc := by
  rw [mem_reportedSources, Due, ← h.tracked, Option.isSome_iff_exists]
  constructor
  · intro hfound
    obtain ⟨receiver, hfind, hinit⟩ := hfound
    have hmatches := h.matching ssrc receiver hfind
    rw [hmatches.statistics] at hinit
    exact ⟨⟨receiver, hfind⟩, hmatches.sound.received.mp hinit⟩
  · intro hdue
    obtain ⟨⟨receiver, hfind⟩, hreceived⟩ := hdue
    have hmatches := h.matching ssrc receiver hfind
    refine ⟨receiver, hfind, ?_⟩
    rw [hmatches.statistics]
    exact hmatches.sound.received.mpr hreceived

/-- A block which is true of what was heard before it was sent: it counts since the source took its
place, the lost fraction since the last report of it went out, and dates the last sender report. -/
structure BlockHeard (before : List PublisherEntry) (sentAt : ℤ) (block : RtcpReportBlock) :
    Prop where
  due : Due before block.sourceSsrc
  fractionLost : (account block.sourceSsrc before).fits = true →
    block.fractionLost.toNat =
      min 255 (256 * ((account block.sourceSsrc before).receiver.counts.expectedSince -
        (account block.sourceSsrc before).receiver.counts.receivedSince) /
          (account block.sourceSsrc before).receiver.counts.expectedSince)
  cumulativeLost : (account block.sourceSsrc before).fits = true →
    block.cumulativeLost = clampCumulativeLost
      (((account block.sourceSsrc before).receiver.counts.expected : ℤ) -
        (account block.sourceSsrc before).receiver.counts.received)
  highest : (account block.sourceSsrc before).fits = true →
    block.extendedHighestSequenceNumber.toNat =
      (account block.sourceSsrc before).receiver.counts.highest
  lastSenderReport : block.lastSenderReport =
    ((account block.sourceSsrc before).senderReport.map fun report =>
      makeCompactNtp report.1).getD 0
  delay : block.delaySinceLastSenderReport =
    if block.lastSenderReport = 0 then 0
    else makeDelaySinceLastSenderReport sentAt
      ((account block.sourceSsrc before).senderReport.map Prod.snd)

theorem Matches.blockHeard {log : List PublisherEntry} {ssrc : UInt32}
    {receiver : InboundRtcpReceiverState} (h : Matches receiver (account ssrc log))
    (htracked : ssrc ∈ heardSources log)
    (hinit : receiver.receiveStatistics.sequenceInitialized = true) (now : ℤ) (jitter : UInt32) :
    BlockHeard log now (makeReportBlock now jitter ssrc receiver) := by
  have hstatistics := h.statistics
  rw [hstatistics] at hinit
  refine ⟨⟨htracked, h.sound.received.mp hinit⟩, fun hfits => ?_, fun hfits => ?_,
    fun hfits => ?_, h.lastSenderReport, ?_⟩
  · rw [makeReportBlock, hstatistics]
    exact (h.sound.counted hfits).trueReport.fractionLost
  · rw [makeReportBlock, hstatistics]
    exact (h.sound.counted hfits).trueReport.cumulativeLost
  · have hheard := (h.sound.counted hfits).heard hinit
    have hcycles := (account ssrc log).receiver.statistics.sequenceCycles.toNat_lt
    have hmaximum := (account ssrc log).receiver.statistics.maximumSequenceNumber.toNat_lt
    have hwhole := hheard.cycles
    rw [makeReportBlock, hstatistics]
    simp only [ReceiveStatistics.previewReport, hinit, Bool.true_eq_false, if_false]
    rw [hheard.highest, UInt32.toNat_add, UInt16.toNat_toUInt32]
    exact Nat.mod_eq_of_lt (by omega)
  · rw [makeReportBlock, ← h.receivedAt]

/-- What is read in a report is true of what was heard before it; it names each source once. -/
def ReportsHeard (before : List PublisherEntry) (entry : PublisherEntry) : Prop :=
  ∀ d, entry = .sent d → ∀ report compound, d.content = .receiverReport report compound →
    ∃ packet read, parseRtcpCompoundPacket compound = .ok packet ∧ packet.reportPackets = [read] ∧
      read.senderSsrc = report.senderSsrc ∧ read.senderInfo = none ∧ read.reportBlocks ≠ [] ∧
      (read.reportBlocks.map RtcpReportBlock.sourceSsrc).Pairwise (· < ·) ∧
      ∀ block ∈ read.reportBlocks, BlockHeard before d.sentAt block

theorem built_receiverReport {report : RtcpReceiverReportData} {cname : Text}
    {compound : List UInt8} (h : buildReceiverReportDatagram report cname = .ok compound) :
    BuiltDatagram [.receiverReport report, .sdesCname report.senderSsrc cname] compound := by
  obtain ⟨receiverReport, hreport, h⟩ := bind_ok.mp h
  obtain ⟨sdes, hsdes, h⟩ := bind_ok.mp h
  exact .compound (mapM_ok.mpr (.cons hreport (.cons hsdes .nil))) h

/-- The blocks of a report are those of its sources. -/
theorem makeReport_blocks {t : PublisherTransport} {sources : List UInt32}
    (h : Reportable t.session.inboundRtcpReceivers sources) (now : ℤ) (jitter : UInt32 → UInt32) :
    (t.makeReport now jitter sources).reportBlocks.map RtcpReportBlock.sourceSsrc = sources ∧
      ∀ block ∈ (t.makeReport now jitter sources).reportBlocks, ∃ ssrc receiver,
        t.session.inboundRtcpReceivers.find? ssrc = some receiver ∧
          receiver.receiveStatistics.sequenceInitialized = true ∧
          block = makeReportBlock now (jitter ssrc) ssrc receiver := by
  constructor
  · have hfound := h.found
    unfold PublisherTransport.makeReport
    clear h
    induction sources with
    | nil => rfl
    | cons ssrc sources ih =>
        rw [List.forall_mem_cons] at hfound
        obtain ⟨receiver, hfind, -⟩ := hfound.1
        rw [List.filterMap_cons, hfind]
        exact congrArg (ssrc :: ·) (ih hfound.2)
  · intro block hblock
    obtain ⟨ssrc, hssrc, hmade⟩ := List.mem_filterMap.mp hblock
    obtain ⟨receiver, hfind, hinit⟩ := h.found ssrc hssrc
    rw [hfind] at hmade
    exact ⟨ssrc, receiver, hfind, hinit, (Option.some.inj hmade).symm⟩

/-! ## A round of reports -/

section
variable {log : List PublisherEntry} {t : PublisherTransport} {now : ℤ} {jitter : UInt32 → UInt32}

/-- The log agrees with the table, and with what was told of it. -/
structure Reported (log : List PublisherEntry) (t : PublisherTransport) : Prop where
  heard : Heard log t.session.inboundRtcpReceivers
  reports : EachAfter ReportsHeard log

theorem Heard.commits (h : Heard log t.session.inboundRtcpReceivers) {sources : List UInt32}
    (hnodup : sources.Nodup) {d : PublisherDatagram}
    (hd : ∀ ssrc, ssrc ∈ d.content.reportedSources ↔ ssrc ∈ sources) :
    Heard (log ++ [.sent d])
      (sources.foldl PublisherTransport.commitReport t).session.inboundRtcpReceivers := by
  have hplaces : heardSources (log ++ [.sent d]) = heardSources log :=
    heardSources_concat log (.sent d)
  refine ⟨hplaces ▸ h.nodup, fun ssrc => ?_, fun ssrc receiver hfind => ?_⟩
  · rw [hplaces, ← h.tracked, find?_commitReports hnodup]
    split_ifs
    · rw [Option.isSome_map]
    · exact Iff.rfl
  · rw [find?_commitReports hnodup] at hfind
    have hbefore : ∃ before, t.session.inboundRtcpReceivers.find? ssrc = some before ∧
        receiver = if ssrc ∈ sources then committed before else before := by
      split_ifs at hfind with hmem
      · obtain ⟨before, hbefore, heq⟩ := Option.map_eq_some_iff.mp hfind
        exact ⟨before, hbefore, by rw [if_pos hmem, heq]⟩
      · exact ⟨receiver, hfind, by rw [if_neg hmem]⟩
    obtain ⟨before, hbefore, rfl⟩ := hbefore
    have hmatches := h.matching ssrc before hbefore
    have hmem := (h.tracked ssrc).mp (Option.isSome_iff_exists.mpr ⟨before, hbefore⟩)
    rw [account_concat, hplaces, if_pos hmem, SourceAccount.hear]
    simp only [hd]
    split_ifs
    · refine ⟨hmatches.kind, ?_, hmatches.lastSenderReport, hmatches.receivedAt,
        hmatches.sound.step (by simp)⟩
      exact congrArg ReceiveStatistics.commitReport hmatches.statistics
    · exact hmatches

theorem Reportable.commits {sources others : List UInt32} (hnodup : sources.Nodup)
    (h : Reportable t.session.inboundRtcpReceivers others) :
    Reportable
      (sources.foldl PublisherTransport.commitReport t).session.inboundRtcpReceivers others := by
  refine ⟨h.ascending, fun ssrc hssrc => ?_⟩
  obtain ⟨receiver, hfind, hinit⟩ := h.found ssrc hssrc
  rw [find?_commitReports hnodup, hfind]
  split_ifs
  · exact ⟨committed receiver, rfl, hinit⟩
  · exact ⟨receiver, rfl, hinit⟩

theorem Reported.sendReceiverReport (h : Reported log t) {sources : List UInt32}
    (hsources : Reportable t.session.inboundRtcpReceivers sources) (hne : sources ≠ [])
    (answer : Except Text Srtp.SrtpPacketProcessResult) :
    Reported (log ++ (t.sendReceiverReport now jitter answer sources).2.toList.map .sent)
        (t.sendReceiverReport now jitter answer sources).1 ∧
      ∀ others, Reportable t.session.inboundRtcpReceivers others →
        Reportable (t.sendReceiverReport now jitter answer
          sources).1.session.inboundRtcpReceivers others := by
  have hunsent : Reported (log ++ (none : Option PublisherDatagram).toList.map .sent) t := by
    rw [Option.toList_none, List.map_nil, List.append_nil]
    exact h
  unfold PublisherTransport.sendReceiverReport
  simp only
  split
  · exact ⟨hunsent, fun _ hothers => hothers⟩
  · rename_i compound hbuilt
    split
    · exact ⟨hunsent, fun _ hothers => hothers⟩
    · rename_i datagram _
      obtain ⟨hnames, hblocks⟩ := makeReport_blocks hsources now jitter
      refine ⟨⟨h.heard.commits hsources.nodup fun ssrc => ?_, h.reports.concat ?_⟩,
        fun _ hothers => hothers.commits hsources.nodup⟩
      · rw [PublisherContent.reportedSources, hnames]
      · intro d hd report compound' hcontent
        obtain rfl := PublisherEntry.sent.inj hd
        obtain ⟨rfl, rfl⟩ := PublisherContent.receiverReport.inj hcontent
        obtain ⟨packet, hparse, hcollected⟩ :=
          WhepOutbound.read_collected (built_receiverReport hbuilt)
        refine ⟨packet, _, hparse, hcollected.reportPackets, rfl, rfl, ?_, ?_, ?_⟩
        · intro hnil
          have hempty : (t.makeReport now jitter sources).reportBlocks = [] := hnil
          rw [hempty, List.map_nil] at hnames
          exact hne hnames.symm
        · rw [hnames]
          exact hsources.ascending
        · intro block hblock
          obtain ⟨ssrc, receiver, hfind, hinit, rfl⟩ := hblocks block hblock
          exact (h.heard.matching ssrc receiver hfind).blockHeard
            ((h.heard.tracked ssrc).mp (Option.isSome_iff_exists.mpr ⟨receiver, hfind⟩)) hinit _ _

theorem Reported.sendReceiverReports (h : Reported log t) (srtp : SrtpAnswers) (index : ℕ)
    {parts : List (List UInt32)}
    (hparts : ∀ part ∈ parts, part ≠ [] ∧ Reportable t.session.inboundRtcpReceivers part) :
    Reported
      (log ++ (PublisherTransport.sendReceiverReports now jitter srtp index parts t).2.map .sent)
      (PublisherTransport.sendReceiverReports now jitter srtp index parts t).1 := by
  induction parts generalizing log t index with
  | nil =>
      rw [PublisherTransport.sendReceiverReports, List.map_nil, List.append_nil]
      exact h
  | cons part parts ih =>
      rw [List.forall_mem_cons] at hparts
      obtain ⟨hsent, hkept⟩ := @Reported.sendReceiverReport _ _ now jitter h _ hparts.1.2
        hparts.1.1 (srtp.protect index)
      rw [PublisherTransport.sendReceiverReports, List.map_append, ← List.append_assoc]
      exact ih hsent (index + 1) fun other hother =>
        ⟨(hparts.2 other hother).1, hkept other (hparts.2 other hother).2⟩

end

/-! ## Runs -/

theorem sendKeyframeRequest_content {t : PublisherTransport} {now : ℤ} {mediaSsrc : UInt32}
    {answer : Except Text Srtp.SrtpPacketProcessResult} {d : PublisherDatagram}
    (h : t.sendKeyframeRequest now mediaSsrc answer = some d) :
    ∃ compound, d.content = .keyframeRequest mediaSsrc compound := by
  unfold PublisherTransport.sendKeyframeRequest at h
  split_ifs at h
  simp only at h
  split at h
  · cases h
  · rename_i compound _
    obtain ⟨datagram, -, rfl⟩ := Option.map_eq_some_iff.mp h
    exact ⟨compound, rfl⟩

theorem sendRtcpBye_content {t : PublisherTransport} {reason : Text} {now : ℤ}
    {srtp : SrtpAnswers} {d : PublisherDatagram} (h : t.sendRtcpBye reason now srtp = some d) :
    ∃ compound, d.content = .bye compound := by
  unfold PublisherTransport.sendRtcpBye at h
  split_ifs at h
  simp only at h
  split at h
  · cases h
  · rename_i compound _
    obtain ⟨datagram, -, rfl⟩ := Option.map_eq_some_iff.mp h
    exact ⟨compound, rfl⟩

/-- One pass of the loop ends it, or sends the next feedback. -/
theorem sendFeedbackDatagrams_cases (now : ℤ) (srtp : SrtpAnswers) (remaining index : ℕ)
    (t : PublisherTransport) :
    t.sendFeedbackDatagrams now srtp (remaining + 1) index = (t, []) ∨
      ∃ feedback compound datagram,
        t.session.transportFeedbackGenerator.previewFeedback t.rtcpSenderSsrc defaultPacketSize =
            .ok (some feedback) ∧
          buildRtcpFeedbackDatagram feedback.packet t.rtcpSenderSsrc t.rtcpCname
              (t.reducedSize feedback.mediaSsrc) WhepOutbound.kDefaultRtcpDatagramMtu =
            .ok compound ∧
          t.sendFeedbackDatagrams now srtp (remaining + 1) index =
            (((t.commitFeedback feedback).sendFeedbackDatagrams now srtp remaining (index + 1)).1,
              { content := .transportFeedback feedback compound, datagram, sentAt := now } ::
                ((t.commitFeedback feedback).sendFeedbackDatagrams now srtp remaining
                  (index + 1)).2) := by
  rw [PublisherTransport.sendFeedbackDatagrams]
  split_ifs
  · exact .inl rfl
  · split
    · exact .inl rfl
    · exact .inl rfl
    · rename_i feedback hpreview
      split
      · exact .inl rfl
      · rename_i compound hbuilt
        split
        · exact .inl rfl
        · rename_i datagram _
          exact .inr ⟨feedback, compound, datagram, hpreview, hbuilt, rfl⟩

theorem sendFeedbackDatagrams_content (now : ℤ) (srtp : SrtpAnswers) (remaining index : ℕ)
    (t : PublisherTransport) :
    (t.sendFeedbackDatagrams now srtp remaining index).1.session.inboundRtcpReceivers =
        t.session.inboundRtcpReceivers ∧
      ∀ d ∈ (t.sendFeedbackDatagrams now srtp remaining index).2,
        ∃ feedback compound, d.content = .transportFeedback feedback compound := by
  induction remaining generalizing index t with
  | zero => exact ⟨rfl, fun d hd => by cases hd⟩
  | succ remaining ih =>
      rcases sendFeedbackDatagrams_cases now srtp remaining index t with
        hend | ⟨feedback, compound, datagram, -, -, hsent⟩
      · rw [hend]
        exact ⟨rfl, fun d hd => by cases hd⟩
      · obtain ⟨hreceivers, hmore⟩ := ih (index + 1) (t.commitFeedback feedback)
        rw [hsent]
        refine ⟨hreceivers, fun d hd => ?_⟩
        rcases List.mem_cons.mp hd with rfl | hd
        · exact ⟨feedback, compound, rfl⟩
        · exact hmore d hd

theorem hearReports_heard (now : ℤ) (reports : List RtcpReportPacket) (t : PublisherTransport) :
    ∀ entry ∈ (PublisherTransport.hearReports now reports t).2, ∀ d, entry ≠ .sent d := by
  induction reports generalizing t with
  | nil => exact fun entry hentry => by cases hentry
  | cons report reports ih =>
      rw [PublisherTransport.hearReports]
      intro entry hentry d hsent
      rcases List.mem_append.mp hentry with hfirst | hmore
      · unfold PublisherTransport.hearReport at hfirst
        split at hfirst
        · cases hfirst
        · rw [List.mem_singleton.mp hfirst] at hsent
          cases hsent
      · exact ih _ entry hmore d hsent

namespace Reported
variable {log : List PublisherEntry} {t t' : PublisherTransport}

/-- An event which is not logged and leaves the table alone. -/
theorem keeps (h : Reported log t)
    (hsame : t'.session.inboundRtcpReceivers = t.session.inboundRtcpReceivers) :
    Reported (log ++ []) t' := by
  rw [List.append_nil]
  exact ⟨hsame ▸ h.heard, h.reports⟩

theorem hears (h : Reported log t) {entries : List PublisherEntry}
    (hheard : Heard (log ++ entries) t'.session.inboundRtcpReceivers)
    (hentries : ∀ entry ∈ entries, ∀ d, entry ≠ .sent d) : Reported (log ++ entries) t' where
  heard := hheard
  reports := h.reports.append fun entry hentry _ d hd => absurd hd (hentries entry hentry d)

/-- Datagrams other than receiver reports. -/
theorem sends (h : Reported log t) {sent : List PublisherDatagram}
    (hsame : t'.session.inboundRtcpReceivers = t.session.inboundRtcpReceivers)
    (hsent : ∀ d ∈ sent, ∀ report compound, d.content ≠ .receiverReport report compound) :
    Reported (log ++ sent.map .sent) t' where
  heard := by
    rw [hsame]
    refine h.heard.sends fun d hd => ?_
    have hcontent := hsent d hd
    cases hkind : d.content with
    | receiverReport report compound => exact absurd hkind (hcontent report compound)
    | transportFeedback feedback compound => rfl
    | keyframeRequest mediaSsrc compound => rfl
    | bye compound => rfl
  reports := by
    refine h.reports.append fun entry hentry _ d hd report compound hcontent => ?_
    obtain ⟨d', hmem, rfl⟩ := List.mem_map.mp hentry
    obtain rfl := PublisherEntry.sent.inj hd
    exact absurd hcontent (hsent d' hmem report compound)

theorem hearRtp (h : Reported log t) (now : ℤ) (packet : List UInt8) :
    Reported (log ++ (t.hearRtp now packet).2) (t.hearRtp now packet).1 := by
  refine h.hears (h.heard.hearRtp now packet) fun entry hentry d hd => ?_
  unfold PublisherTransport.hearRtp at hentry
  split at hentry
  · cases hentry
  · obtain ⟨context, -, heq⟩ := List.mem_map.mp hentry
    rw [hd] at heq
    cases heq

theorem hearRtcp (h : Reported log t) (now : ℤ) (plainRtcp : List UInt8) :
    Reported (log ++ (t.hearRtcp now plainRtcp).2) (t.hearRtcp now plainRtcp).1 := by
  refine h.hears (h.heard.hearRtcp now plainRtcp) fun entry hentry d hd => ?_
  unfold PublisherTransport.hearRtcp at hentry
  split at hentry
  · cases hentry
  · rcases List.mem_append.mp hentry with hreport | hbye
    · exact hearReports_heard _ _ _ entry hreport d hd
    · obtain ⟨source, -, heq⟩ := List.mem_map.mp hbye
      rw [hd] at heq
      cases heq

theorem sendRtcpReceiverReports (h : Reported log t) (now : ℤ) (jitter : UInt32 → UInt32)
    (srtp : SrtpAnswers) :
    Reported (log ++ (t.sendRtcpReceiverReports now jitter srtp).2.map .sent)
      (t.sendRtcpReceiverReports now jitter srtp).1 := by
  unfold PublisherTransport.sendRtcpReceiverReports
  split_ifs
  · rwa [List.map_nil, List.append_nil]
  · refine h.sendReceiverReports srtp 0 fun part hpart => ?_
    obtain ⟨hne, -, hsublist⟩ := mem_chunks (by decide) hpart
    have hall := reportedSources_reportable t
    exact ⟨hne, hall.ascending.sublist hsublist,
      fun ssrc hssrc => hall.found ssrc (hsublist.subset hssrc)⟩

theorem sendTransportFeedback (h : Reported log t) (now : ℤ) (srtp : SrtpAnswers) :
    Reported (log ++ (t.sendTransportFeedback now srtp).2.map .sent)
      (t.sendTransportFeedback now srtp).1 := by
  have hexpired : Reported log (t.expireFeedback now) := ⟨h.heard, h.reports⟩
  unfold PublisherTransport.sendTransportFeedback
  simp only
  split_ifs
  · rwa [List.map_nil, List.append_nil]
  · obtain ⟨hsame, hcontent⟩ := sendFeedbackDatagrams_content now srtp
      kMaximumTransportFeedbackDatagramsPerInterval 0 (t.expireFeedback now)
    refine hexpired.sends hsame fun d hd report compound heq => ?_
    obtain ⟨feedback, packet, hfeedback⟩ := hcontent d hd
    rw [hfeedback] at heq
    cases heq

theorem close (h : Reported log t) (reason : Text) (now : ℤ) (srtp : SrtpAnswers) :
    Reported (log ++ (t.close reason now srtp).2.map .sent) (t.close reason now srtp).1 := by
  unfold PublisherTransport.close
  split_ifs
  · rwa [List.map_nil, List.append_nil]
  · refine h.sends rfl fun d hd report compound heq => ?_
    obtain ⟨packet, hbye⟩ := sendRtcpBye_content (Option.mem_toList.mp hd)
    rw [hbye] at heq
    cases heq

theorem perform (h : Reported log t) (event : PublisherEvent) :
    Reported (log ++ (t.perform event).2) (t.perform event).1 := by
  cases event with
  | inboundRtp now packet =>
      rw [PublisherTransport.perform]
      split_ifs
      · exact h.keeps rfl
      · exact h.hearRtp now packet
  | inboundRtcp now plainRtcp =>
      rw [PublisherTransport.perform]
      split_ifs
      · exact h.keeps rfl
      · exact h.hearRtcp now plainRtcp
  | nominate endpoint rebound =>
      refine h.keeps ?_
      change (t.nominate endpoint rebound).session.inboundRtcpReceivers = _
      unfold PublisherTransport.nominate
      split_ifs <;> rfl
  | receiverReports now jitter srtp => exact h.sendRtcpReceiverReports now jitter srtp
  | transportFeedback now srtp => exact h.sendTransportFeedback now srtp
  | keyframeRequest now mediaSsrc answer =>
      refine h.sends rfl fun d hd report compound heq => ?_
      obtain ⟨packet, hrequest⟩ := sendKeyframeRequest_content (Option.mem_toList.mp hd)
      rw [hrequest] at heq
      cases heq
  | logMediaSummary active now =>
      rw [PublisherTransport.perform]
      split_ifs
      · exact h.keeps rfl
      · exact h.keeps rfl
  | close reason now srtp => exact h.close reason now srtp

theorem run {events : List PublisherEvent} {w : PublisherWorld}
    (h : PublisherWorld.system.Run events w) : Reported w.log w.transport := by
  refine @EventSystem.Run.invariant _ _ _ (fun w => Reported w.log w.transport) ?_ ?_ _ _ h
  · intro w hinit
    obtain ⟨streamId, sessionId, remoteOffer, acceptedMlineIndexes, now, rfl⟩ := hinit
    exact ⟨.start, .nil _⟩
  · intro w event w' hreported hstep
    obtain ⟨-, hperformed⟩ := Option.ite_none_right_eq_some.mp hstep
    obtain rfl := Option.some.inj hperformed
    exact hreported.perform event

end Reported

/-- A publisher of VP8 with transport-wide numbers. -/
def numberedOffer : SdpSummary.WebrtcOfferSummary where
  bundleMids := [ascii "0"]
  media := [{ ConfiguredRewriter.vp8Media (ascii "0") .sendOnly 96 with
    codecs := [{ payloadType := 96
                 name := ascii "VP8"
                 clockRate := 90000
                 rtcpFeedback := [ascii "transport-cc"] }]
    headerExtensions := [{ id := 5, uri := SdpAnswer.kTransportWideCcExtensionUri }] }]

/-- The packet with the given number under the SSRC 9, also in its transport-wide number. -/
def numberedPacket (number : UInt8) : List UInt8 :=
  [144, 96, 0, number, 0, 0, 0, 100, 0, 0, 0, 9, 190, 222, 0, 1, 81, 0, number, 0, 1]

def senderReportBytes : List UInt8 :=
  [128, 200, 0, 6, 0, 0, 0, 9, 0, 0, 0, 7, 0, 0, 0, 0, 0, 0, 0, 100, 0, 0, 0, 1, 0, 0, 0, 1]

/-- Two packets with one missing between them are reported on and acknowledged. -/
def heardEvents : List PublisherEvent :=
  [.nominate ⟨Stun.loopback, 9⟩ (.ok false),
    .inboundRtp 1000000 (numberedPacket 7),
    .inboundRtcp 2000000 senderReportBytes,
    .inboundRtp 3000000 (numberedPacket 9),
    .receiverReports 4000000 (fun _ => 0) WhepOutbound.protecting,
    .transportFeedback 5000000 WhepOutbound.protecting,
    .keyframeRequest 6000000 9 (WhepOutbound.protecting.protect 0),
    .close (ascii "over") 7000000 WhepOutbound.protecting]

def heardOutset : PublisherWorld where
  transport := .create (ascii "live") (ascii "p") numberedOffer [0]
  now := 0

/-- What can be checked of the state some events lead to. -/
theorem heardOutset_run {events : List PublisherEvent} {holds : PublisherWorld → Bool}
    (h : (events.foldlM PublisherWorld.step heardOutset).any holds = true) :
    ∃ w, PublisherWorld.system.Run events w ∧ holds w = true := by
  obtain ⟨w, hw, hholds⟩ := Option.any_eq_true _ _ |>.mp h
  have hstart : PublisherWorld.system.Run [] heardOutset := .start ⟨_, _, _, _, _, rfl⟩
  exact ⟨w, hstart.exec hw, hholds⟩

end SimpleWebrtc.WhipReports
