import SimpleWebrtc.Library.Traces
import SimpleWebrtc.PublisherReports

/-!
# The sources of a log

Which sources have a place in a publisher's table, and what was heard of each
since it took its place, said of the log alone. The table agrees with it at any
moment.
-/
namespace SimpleWebrtc.WhipReports
open Library Library.Text RtpPacket RtcpReport RtcpCompoundPacket RtcpPacketBuilder
  RtpReceiveStatistics ReportedLoss WhipPublisher WhipMedia WhepMedia

/-! ## The log -/

/-- A source takes a place as long as there is one. -/
def takePlace (sources : List UInt32) (sourceSsrc : UInt32) : List UInt32 :=
  if sourceSsrc ∈ sources ∨ kMaximumRtpSources ≤ sources.length then sources
  else sources ++ [sourceSsrc]

/-- Packets and sender reports take places, and BYEs give them back. -/
def hearSource (sources : List UInt32) : PublisherEntry → List UInt32
  | .rtp header _ _ _ => takePlace sources header.ssrc
  | .senderReport sourceSsrc _ _ => takePlace sources sourceSsrc
  | .bye sourceSsrc => if sourceSsrc = 0 then sources else sources.erase sourceSsrc
  | .sent _ => sources

def heardSources (log : List PublisherEntry) : List UInt32 := log.foldl hearSource []

/-- What was heard of a source: the kind of its packets, their counts, whether these fit the words
they are kept in, and its last sender report. -/
structure SourceAccount where
  kind : Text := []
  receiver : Receiver := {}
  fits : Bool := true
  senderReport : Option (UInt64 × ℤ) := none

/-- The sources a datagram reports on. -/
def PublisherContent.reportedSources : PublisherContent → List UInt32
  | .receiverReport report _ => report.reportBlocks.map RtcpReportBlock.sourceSsrc
  | .transportFeedback _ _ => []
  | .keyframeRequest _ _ => []
  | .bye _ => []

namespace SourceAccount

def count (a : SourceAccount) (event : ReceiverEvent) : SourceAccount :=
  { a with
    receiver := a.receiver.step event
    fits := a.fits && decide (a.receiver.Fits event) }

/-- Packets of one kind count, and a report that was sent ends an interval. -/
def hear (sourceSsrc : UInt32) (a : SourceAccount) : PublisherEntry → SourceAccount
  | .rtp header context _ _ =>
      if header.ssrc ≠ sourceSsrc ∨ (a.kind ≠ [] ∧ a.kind ≠ context.kind) then a
      else { a.count (.observe header.sequenceNumber context.clockRate) with kind := context.kind }
  | .senderReport source ntpTimestamp receivedAt =>
      if source = sourceSsrc then { a with senderReport := some (ntpTimestamp, receivedAt) } else a
  | .bye _ => a
  | .sent d => if sourceSsrc ∈ d.content.reportedSources then a.count .commitReport else a

end SourceAccount

/-- A source without a place is heard anew once it has one. -/
def hearing (sourceSsrc : UInt32) (heard : List UInt32 × SourceAccount) (entry : PublisherEntry) :
    List UInt32 × SourceAccount :=
  let sources := hearSource heard.1 entry
  (sources, if sourceSsrc ∈ sources then heard.2.hear sourceSsrc entry else {})

def account (sourceSsrc : UInt32) (log : List PublisherEntry) : SourceAccount :=
  (log.foldl (hearing sourceSsrc) ([], {})).2

section
variable {log : List PublisherEntry} {entry : PublisherEntry}

theorem hearing_sources (sourceSsrc : UInt32) (log : List PublisherEntry) :
    (log.foldl (hearing sourceSsrc) ([], {})).1 = heardSources log := by
  induction log using List.reverseRecOn with
  | nil => rfl
  | append_singleton log entry ih =>
      rw [heardSources, List.foldl_concat, List.foldl_concat]
      exact congrArg (hearSource · entry) ih

theorem heardSources_concat (log : List PublisherEntry) (entry : PublisherEntry) :
    heardSources (log ++ [entry]) = hearSource (heardSources log) entry :=
  List.foldl_concat _ _ _ _

theorem account_concat (sourceSsrc : UInt32) (log : List PublisherEntry)
    (entry : PublisherEntry) :
    account sourceSsrc (log ++ [entry]) =
      if sourceSsrc ∈ heardSources (log ++ [entry]) then
        (account sourceSsrc log).hear sourceSsrc entry
      else {} := by
  rw [account, List.foldl_concat, hearing, hearing_sources, heardSources_concat]
  rfl

theorem mem_takePlace {sources : List UInt32} {sourceSsrc other : UInt32}
    (hother : other ≠ sourceSsrc) : other ∈ takePlace sources sourceSsrc ↔ other ∈ sources := by
  unfold takePlace
  split_ifs
  · exact Iff.rfl
  · simp [hother]

theorem takePlace_nodup {sources : List UInt32} (h : sources.Nodup) (sourceSsrc : UInt32) :
    (takePlace sources sourceSsrc).Nodup := by
  unfold takePlace
  split_ifs with hkept
  · exact h
  · rw [not_or] at hkept
    exact h.append (List.nodup_singleton sourceSsrc) (by simpa using hkept.1)

theorem takePlace_length {sources : List UInt32} (h : sources.length ≤ kMaximumRtpSources)
    (sourceSsrc : UInt32) : (takePlace sources sourceSsrc).length ≤ kMaximumRtpSources := by
  unfold takePlace
  split_ifs with hkept
  · exact h
  · rw [not_or, not_le] at hkept
    rw [List.length_append, List.length_singleton]
    exact hkept.2

/-- There are never more sources than places. -/
theorem heardSources_length (log : List PublisherEntry) :
    (heardSources log).length ≤ kMaximumRtpSources := by
  induction log using List.reverseRecOn with
  | nil => exact Nat.zero_le _
  | append_singleton log entry ih =>
      rw [heardSources_concat]
      cases entry with
      | rtp header context plainPacket arrivedAt => exact takePlace_length ih header.ssrc
      | senderReport sourceSsrc ntpTimestamp receivedAt => exact takePlace_length ih sourceSsrc
      | bye sourceSsrc =>
          rw [hearSource]
          split_ifs
          · exact ih
          · exact (List.length_erase_le).trans ih
      | sent datagram => exact ih

/-- What was not in its place is heard from nothing. -/
theorem account_absent {sourceSsrc : UInt32} (h : sourceSsrc ∉ heardSources log) :
    account sourceSsrc log = {} := by
  induction log using List.reverseRecOn with
  | nil => rfl
  | append_singleton log entry _ => rw [account_concat, if_neg h]

end

/-! ## The table -/

/-- Counts which are those of the statistics, as long as they fit. -/
structure Sound (fits : Bool) (receiver : Receiver) : Prop where
  counted : fits = true → Counted receiver.statistics receiver.counts
  received : receiver.statistics.sequenceInitialized = true ↔ receiver.counts.received ≠ 0

/-- The first packet starts the sequence, and no packet ends it. -/
theorem step_received {receiver : Receiver} (event : ReceiverEvent)
    (hevent : event ≠ .reset)
    (h : receiver.statistics.sequenceInitialized = true ↔ receiver.counts.received ≠ 0) :
    (receiver.step event).statistics.sequenceInitialized = true ↔
      (receiver.step event).counts.received ≠ 0 := by
  cases event with
  | observe sequenceNumber clockRate =>
      simp only [Receiver.step, Receiver.countArrival, ReceiveStatistics.observe_arrival]
      cases harrival : receiver.statistics.arrival sequenceNumber clockRate with
      | ignored => exact h
      | suspicious => exact h
      | first => exact iff_of_true rfl Nat.one_ne_zero
      | restart => exact iff_of_true rfl Nat.one_ne_zero
      | ahead =>
          have hinit := (ReceiveStatistics.arrival_ahead harrival).1
          exact iff_of_true hinit (Nat.succ_ne_zero _)
      | late => exact iff_of_true (ReceiveStatistics.arrival_late harrival) (Nat.succ_ne_zero _)
  | commitReport => exact h
  | reset => exact absurd rfl hevent

theorem Sound.step {fits : Bool} {receiver : Receiver} (h : Sound fits receiver)
    {event : ReceiverEvent} (hevent : event ≠ .reset) :
    Sound (fits && decide (receiver.Fits event)) (receiver.step event) where
  counted hfits := by
    obtain ⟨hbefore, hstep⟩ := Bool.and_eq_true_iff.mp hfits
    exact counted_step (h.counted hbefore) (of_decide_eq_true hstep)
  received := step_received event hevent h.received

/-- A receiver of the table as it was heard. -/
structure Matches (receiver : InboundRtcpReceiverState) (a : SourceAccount) : Prop where
  kind : receiver.kind = a.kind
  statistics : receiver.receiveStatistics = a.receiver.statistics
  lastSenderReport : receiver.lastSenderReport =
    (a.senderReport.map fun report => makeCompactNtp report.1).getD 0
  receivedAt : receiver.lastSenderReportReceivedAt = a.senderReport.map Prod.snd
  sound : Sound a.fits a.receiver

theorem matches_empty : Matches {} {} where
  kind := rfl
  statistics := rfl
  lastSenderReport := rfl
  receivedAt := rfl
  sound :=
    { counted := fun _ => Counted.initial
      received := by decide }

structure Heard (log : List PublisherEntry) (receivers : AssocMap UInt32 InboundRtcpReceiverState) :
    Prop where
  nodup : (heardSources log).Nodup
  tracked : ∀ ssrc, (receivers.find? ssrc).isSome = true ↔ ssrc ∈ heardSources log
  matching : ∀ ssrc receiver, receivers.find? ssrc = some receiver →
    Matches receiver (account ssrc log)

namespace Heard
variable {log : List PublisherEntry} {receivers : AssocMap UInt32 InboundRtcpReceiverState}

theorem start : Heard [] .empty where
  nodup := List.nodup_nil
  tracked ssrc := by simp [heardSources]
  matching ssrc receiver hfind := by cases hfind

theorem size_eq (h : Heard log receivers) : receivers.size = (heardSources log).length := by
  have hperm : (receivers.entries.map Prod.fst).Perm (heardSources log) := by
    refine (List.perm_ext_iff_of_nodup receivers.nodup h.nodup).mpr fun ssrc => ?_
    rw [← h.tracked, Option.isSome_iff_exists, List.mem_map]
    constructor
    · intro hentry
      obtain ⟨⟨key, receiver⟩, hmem, rfl⟩ := hentry
      exact ⟨receiver, AssocMap.find?_eq_some.mpr hmem⟩
    · intro hfound
      obtain ⟨receiver, hfind⟩ := hfound
      exact ⟨(ssrc, receiver), AssocMap.find?_eq_some.mp hfind, rfl⟩
  have hlength := hperm.length_eq
  rwa [List.length_map] at hlength

/-- An entry which changes neither the places nor what was heard in them. -/
theorem silent (h : Heard log receivers) {entry : PublisherEntry}
    (hsources : ∀ sources, hearSource sources entry = sources)
    (hhear : ∀ ssrc a, SourceAccount.hear ssrc a entry = a) :
    Heard (log ++ [entry]) receivers := by
  have hplaces : heardSources (log ++ [entry]) = heardSources log :=
    (heardSources_concat log entry).trans (hsources _)
  refine ⟨hplaces ▸ h.nodup, fun ssrc => hplaces ▸ h.tracked ssrc, fun ssrc receiver hfind => ?_⟩
  have hmem := (h.tracked ssrc).mp (Option.isSome_iff_exists.mpr ⟨receiver, hfind⟩)
  rw [account_concat, hplaces, if_pos hmem, hhear]
  exact h.matching ssrc receiver hfind

/-- An entry about one source, which has a place in the table or takes one. -/
theorem hears (h : Heard log receivers) {entry : PublisherEntry} {sourceSsrc : UInt32}
    (hsource : ∀ sources, hearSource sources entry = takePlace sources sourceSsrc)
    (hother : ∀ ssrc, ssrc ≠ sourceSsrc → ∀ a, SourceAccount.hear ssrc a entry = a)
    {receiver : InboundRtcpReceiverState}
    (hmatches : Matches receiver ((account sourceSsrc log).hear sourceSsrc entry))
    (hplace : (receivers.find? sourceSsrc).isSome = true ∨ receivers.size < kMaximumRtpSources) :
    Heard (log ++ [entry]) (receivers.insertOrAssign sourceSsrc receiver) := by
  have hplaces : heardSources (log ++ [entry]) = takePlace (heardSources log) sourceSsrc :=
    (heardSources_concat log entry).trans (hsource _)
  have hself : sourceSsrc ∈ takePlace (heardSources log) sourceSsrc := by
    unfold takePlace
    rw [h.tracked, h.size_eq] at hplace
    split_ifs with hkept
    · rcases hkept with hmem | hfull
      · exact hmem
      · exact hplace.resolve_right (by omega)
    · simp
  refine ⟨hplaces ▸ takePlace_nodup h.nodup sourceSsrc, fun ssrc => ?_, fun ssrc found hfind => ?_⟩
  · rw [AssocMap.find?_insertOrAssign, hplaces]
    split_ifs with heq
    · simp [heq, hself]
    · rw [mem_takePlace heq]
      exact h.tracked ssrc
  · rw [AssocMap.find?_insertOrAssign] at hfind
    split_ifs at hfind with heq
    · rw [account_concat, hplaces, heq, if_pos hself, ← Option.some.inj hfind]
      exact hmatches
    · have hmem := (h.tracked ssrc).mp (Option.isSome_iff_exists.mpr ⟨found, hfind⟩)
      rw [account_concat, hplaces, if_pos ((mem_takePlace heq).mpr hmem), hother ssrc heq]
      exact h.matching ssrc found hfind

/-- An entry about a source for which the table has no place. -/
theorem overflows (h : Heard log receivers) {entry : PublisherEntry} {sourceSsrc : UInt32}
    (hsource : ∀ sources, hearSource sources entry = takePlace sources sourceSsrc)
    (hother : ∀ ssrc, ssrc ≠ sourceSsrc → ∀ a, SourceAccount.hear ssrc a entry = a)
    (hnone : receivers.find? sourceSsrc = none) (hfull : kMaximumRtpSources ≤ receivers.size) :
    Heard (log ++ [entry]) receivers := by
  have hplaces : heardSources (log ++ [entry]) = heardSources log := by
    rw [heardSources_concat, hsource, takePlace, if_pos (.inr (h.size_eq ▸ hfull))]
  refine ⟨hplaces ▸ h.nodup, fun ssrc => hplaces ▸ h.tracked ssrc, fun ssrc receiver hfind => ?_⟩
  have hmem := (h.tracked ssrc).mp (Option.isSome_iff_exists.mpr ⟨receiver, hfind⟩)
  have hne : ssrc ≠ sourceSsrc := by
    intro heq
    rw [heq, hnone] at hfind
    cases hfind
  rw [account_concat, hplaces, if_pos hmem, hother ssrc hne]
  exact h.matching ssrc receiver hfind

/-- A source which leaves its place. -/
theorem ends (h : Heard log receivers) {sourceSsrc : UInt32} (hzero : sourceSsrc ≠ 0) :
    Heard (log ++ [.bye sourceSsrc]) (receivers.erase sourceSsrc) := by
  have hplaces : heardSources (log ++ [.bye sourceSsrc]) = (heardSources log).erase sourceSsrc := by
    rw [heardSources_concat, hearSource, if_neg hzero]
  refine ⟨hplaces ▸ h.nodup.erase sourceSsrc, fun ssrc => ?_, fun ssrc receiver hfind => ?_⟩
  · rw [AssocMap.find?_erase, hplaces, h.nodup.mem_erase_iff]
    split_ifs with heq
    · simp [heq]
    · rw [h.tracked]
      exact (and_iff_right heq).symm
  · rw [AssocMap.find?_erase] at hfind
    split_ifs at hfind with heq
    have hmem := (h.tracked ssrc).mp (Option.isSome_iff_exists.mpr ⟨receiver, hfind⟩)
    rw [account_concat, hplaces, if_pos (h.nodup.mem_erase_iff.mpr ⟨heq, hmem⟩)]
    exact h.matching ssrc receiver hfind

end Heard
end SimpleWebrtc.WhipReports
