import SimpleWebrtc.RewriterSections

/-!
# The output timeline of a section

Packets of one source share one offset between their source and their target
timestamps. When the source changes, the target timeline goes on one step past
the newest target timestamp of the packets before. Timestamps are compared as
signed 32 bit differences: this orders the packets of a segment which lie
within a quarter of the range of the first of them.
-/
namespace SimpleWebrtc.RtpRewriter
open Library Library.Bytes RtpHeaderExtension RtpPacket RewrittenExtensions

/-- How far a timestamp is ahead of another, as a signed number. -/
def ahead (value reference : UInt32) : ℤ := (value - reference).toInt32.toInt

/-- The newest part of a log: the packets of one source, newest first, down to the change
which began it, and the changes since. -/
def segmentLog (changes : ℕ) (packets : List SentPacket) (first : SentPacket)
    (earlier : List SectionEvent) : List SectionEvent :=
  List.replicate changes .sourceChanged ++
    ((packets ++ [first]).map .sent ++ .sourceChanged :: earlier)

/-- Two packets with no change of the source between them are as far apart on both timelines. -/
def SameTimeline (log : List SectionEvent) : Prop :=
  ∀ later between earlier p q, log = later ++ .sent q :: (between ++ .sent p :: earlier) →
    .sourceChanged ∉ between →
    q.targetTimestamp - p.targetTimestamp = q.sourceTimestamp - p.sourceTimestamp

/-- All packets of a segment are near its first in their source timestamps. -/
def NearFirst (packets : List SentPacket) (first : SentPacket) : Prop :=
  ∀ p ∈ packets, |ahead p.sourceTimestamp first.sourceTimestamp| ≤ 2 ^ 30

structure Newest (packets : List SentPacket) (first newest : SentPacket) : Prop where
  mem : newest ∈ packets ++ [first]
  newest : ∀ p ∈ packets ++ [first], ahead p.sourceTimestamp first.sourceTimestamp ≤
    ahead newest.sourceTimestamp first.sourceTimestamp

/-- The first packet of a source continues where the packets of the source before ended: one step
past the newest, and newer than each of them which is not half the range behind. -/
def ContinuousTimeline (log : List SectionEvent) : Prop :=
  ∀ later q changes packets first earlier,
    log = later ++ .sent q :: segmentLog (changes + 1) packets first earlier →
    NearFirst packets first →
    ∃ newest, Newest packets first newest ∧
      q.targetTimestamp =
        newest.targetTimestamp + MediaRuntimeState.timestampStep q.clockRate ∧
      ∀ p ∈ packets ++ [first], timestampIsNewer q.targetTimestamp p.targetTimestamp = true ↔
        ahead newest.sourceTimestamp first.sourceTimestamp -
            ahead p.sourceTimestamp first.sourceTimestamp +
          (MediaRuntimeState.timestampStep q.clockRate).toNat < 2 ^ 31

/-! ## Signed differences -/

theorem ahead_self (t : UInt32) : ahead t t = 0 := by
  simp [ahead]

/-- Differences to one reference give the difference of two timestamps, up to the range. -/
theorem ahead_eq_bmod {a b value value' : UInt32} (reference : UInt32)
    (h : value - value' = a - b) :
    ahead value value' = Int.bmod (ahead a reference - ahead b reference) (2 ^ 32) := by
  have hsplit : a - b = (a - reference) - (b - reference) := by grind
  rw [ahead, h, hsplit, UInt32.toInt32_sub, Int32.toInt_sub]
  rfl

theorem timestampIsNewer_iff {value reference : UInt32} :
    timestampIsNewer value reference = true ↔ 0 < ahead value reference := by
  rw [timestampIsNewer, decide_eq_true_eq, Int32.lt_iff_toInt_lt]
  rfl

/-- Near the reference, the newer of two timestamps is the one further ahead. -/
theorem newer_iff_ahead {a b reference value value' : UInt32} (h : value - value' = a - b)
    (ha : |ahead a reference| ≤ 2 ^ 30) (hb : |ahead b reference| ≤ 2 ^ 30)
    (hnonneg : 0 ≤ ahead b reference) :
    timestampIsNewer value value' = true ↔ ahead b reference < ahead a reference := by
  rw [timestampIsNewer_iff, ahead_eq_bmod reference h]
  rw [abs_le] at ha hb
  rw [Int.bmod_eq_of_le (by omega) (by omega)]
  omega

theorem timestampStep_toNat (clockRate : UInt32) :
    1 ≤ (MediaRuntimeState.timestampStep clockRate).toNat ∧
      (MediaRuntimeState.timestampStep clockRate).toNat < 2 ^ 30 := by
  have hlt := clockRate.toNat_lt
  have hdiv : (clockRate / 100).toNat = clockRate.toNat / 100 := by simp
  have hmax : MediaRuntimeState.timestampStep clockRate =
      if 1 ≤ clockRate / 100 then clockRate / 100 else 1 := rfl
  rw [hmax]
  split_ifs with hle
  · rw [UInt32.le_iff_toNat_le] at hle
    have hone : (1 : UInt32).toNat = 1 := rfl
    omega
  · simp

theorem ahead_add {value step : UInt32} (reference : UInt32) (hstep : step.toNat < 2 ^ 30) :
    ahead (value + step) reference = Int.bmod (ahead value reference + step.toNat) (2 ^ 32) := by
  have hsplit : value + step - reference = (value - reference) + step := by grind
  have hsigned : step.toInt32.toInt = (step.toNat : ℤ) := by
    have hbmod : step.toInt32.toInt = Int.bmod step.toNat (2 ^ 32) :=
      BitVec.toInt_eq_toNat_bmod _
    rw [hbmod, Int.bmod_eq_of_le (by omega) (by omega)]
  rw [ahead, hsplit, UInt32.toInt32_add, Int32.toInt_add, hsigned]
  rfl

/-- One step past the newest timestamp is newer than what is not half the range behind. -/
theorem step_newer_iff {a b reference value value' step : UInt32} (h : value - value' = a - b)
    (ha : |ahead a reference| ≤ 2 ^ 30) (hb : |ahead b reference| ≤ 2 ^ 30)
    (hle : ahead b reference ≤ ahead a reference) (hpos : 1 ≤ step.toNat)
    (hstep : step.toNat < 2 ^ 30) :
    timestampIsNewer (value + step) value' = true ↔
      ahead a reference - ahead b reference + step.toNat < 2 ^ 31 := by
  rw [timestampIsNewer_iff, ahead_add _ hstep, ahead_eq_bmod reference h,
    Int.bmod_add_bmod]
  rw [abs_le] at ha hb
  by_cases hlt : ahead a reference - ahead b reference + step.toNat < 2 ^ 31
  · rw [Int.bmod_eq_of_le (by omega) (by omega)]
    omega
  · rw [Int.bmod_def]
    omega

/-! ## What an event adds to a log -/

theorem segmentLog_zero (packets : List SentPacket) (first : SentPacket)
    (earlier : List SectionEvent) : segmentLog 0 packets first earlier =
      (packets ++ [first]).map .sent ++ .sourceChanged :: earlier := rfl

theorem sinceChange_segment (packets : List SentPacket) (earlier : List SectionEvent) :
    sinceChange (packets.map .sent ++ .sourceChanged :: earlier) = packets := by
  induction packets with
  | nil => rfl
  | cons p packets ih => simp [sinceChange, ih]

theorem mem_sinceChange {between earlier : List SectionEvent} {p : SentPacket}
    (h : .sourceChanged ∉ between) : p ∈ sinceChange (between ++ .sent p :: earlier) := by
  induction between with
  | nil => simp [sinceChange]
  | cons event between ih =>
      cases event with
      | sourceChanged => exact absurd List.mem_cons_self h
      | sent q =>
          simp only [List.cons_append, sinceChange]
          exact List.mem_cons_of_mem _ (ih fun hmem => h (List.mem_cons_of_mem _ hmem))

theorem sent_of_sinceChange {log : List SectionEvent} {p : SentPacket} (h : p ∈ sinceChange log) :
    .sent p ∈ log := by
  induction log with
  | nil => exact absurd h List.not_mem_nil
  | cons event log ih =>
      cases event with
      | sourceChanged => exact absurd h List.not_mem_nil
      | sent q =>
          rcases List.mem_cons.mp h with rfl | hmem
          · exact List.mem_cons_self
          · exact List.mem_cons_of_mem _ (ih hmem)

/-- A pair of a longer log is a pair of the log, or begins with the event added. -/
theorem SameTimeline.changed {log : List SectionEvent} (h : SameTimeline log) :
    SameTimeline (.sourceChanged :: log) := by
  intro later between earlier p q heq hbetween
  cases later with
  | nil => simp at heq
  | cons event later => exact h later between earlier p q (List.cons.inj heq).2 hbetween

theorem SameTimeline.sent {log : List SectionEvent} (h : SameTimeline log) {q : SentPacket}
    (hq : ∀ p ∈ sinceChange log,
      q.targetTimestamp - p.targetTimestamp = q.sourceTimestamp - p.sourceTimestamp) :
    SameTimeline (.sent q :: log) := by
  intro later between earlier p q' heq hbetween
  cases later with
  | nil =>
      obtain ⟨hhead, hlog⟩ := List.cons.inj heq
      obtain rfl := SectionEvent.sent.inj hhead
      exact hq p (hlog ▸ mem_sinceChange hbetween)
  | cons event later => exact h later between earlier p q' (List.cons.inj heq).2 hbetween

theorem ContinuousTimeline.changed {log : List SectionEvent} (h : ContinuousTimeline log) :
    ContinuousTimeline (.sourceChanged :: log) := by
  intro later q changes packets first earlier heq hnear
  cases later with
  | nil => simp at heq
  | cons event later =>
      exact h later q changes packets first earlier (List.cons.inj heq).2 hnear

/-- The newest packet of the segment a log ends in, with the timestamp a section keeps of it. -/
def NewestKept (lastTargetTimestamp : UInt32) (log : List SectionEvent) : Prop :=
  ∀ changes packets first earlier, log = segmentLog changes packets first earlier →
    NearFirst packets first →
    ∃ newest, Newest packets first newest ∧ lastTargetTimestamp = newest.targetTimestamp ∧
      ∀ p ∈ packets ++ [first], newest.targetTimestamp - p.targetTimestamp =
        newest.sourceTimestamp - p.sourceTimestamp

theorem NearFirst.all {packets : List SentPacket} {first : SentPacket}
    (h : NearFirst packets first) : ∀ p ∈ packets ++ [first],
      |ahead p.sourceTimestamp first.sourceTimestamp| ≤ 2 ^ 30 := by
  intro p hp
  rcases List.mem_append.mp hp with hmem | hmem
  · exact h p hmem
  · rw [List.mem_singleton.mp hmem, ahead_self]
    decide

theorem Newest.nonneg {packets : List SentPacket} {first newest : SentPacket}
    (h : Newest packets first newest) :
    0 ≤ ahead newest.sourceTimestamp first.sourceTimestamp := by
  have hfirst := h.newest first (List.mem_append_right _ (List.mem_singleton_self _))
  rwa [ahead_self] at hfirst

/-- A packet of a new source goes on from the newest packet before. -/
theorem ContinuousTimeline.sent {log : List SectionEvent} (h : ContinuousTimeline log)
    {q : SentPacket} {lastTargetTimestamp : UInt32} (hkept : NewestKept lastTargetTimestamp log)
    (hq : ∀ earlier, log = .sourceChanged :: earlier → ∀ p, .sent p ∈ log → q.targetTimestamp =
      lastTargetTimestamp + MediaRuntimeState.timestampStep q.clockRate) :
    ContinuousTimeline (.sent q :: log) := by
  intro later q' changes packets first earlier heq hnear
  cases later with
  | cons event later =>
      exact h later q' changes packets first earlier (List.cons.inj heq).2 hnear
  | nil =>
      obtain ⟨hhead, hlog⟩ := List.cons.inj heq
      obtain rfl := SectionEvent.sent.inj hhead
      obtain ⟨newest, hnewest, hlast, hsame⟩ := hkept (changes + 1) packets first earlier hlog hnear
      have htarget := hq _ hlog first (by rw [hlog]; simp [segmentLog])
      rw [hlast] at htarget
      refine ⟨newest, hnewest, htarget, ?_⟩
      intro p hp
      obtain ⟨hpos, hstep⟩ := timestampStep_toNat q.clockRate
      rw [htarget]
      exact step_newer_iff (hsame p hp) (hnear.all newest hnewest.mem) (hnear.all p hp)
        (hnewest.newest p hp) hpos hstep

theorem NewestKept.changed {lastTargetTimestamp : UInt32} {log : List SectionEvent}
    (h : NewestKept lastTargetTimestamp log) :
    NewestKept lastTargetTimestamp (.sourceChanged :: log) := by
  intro changes packets first earlier heq hnear
  cases changes with
  | zero => cases packets <;> simp [segmentLog] at heq
  | succ changes =>
      exact h changes packets first earlier (List.cons.inj heq).2 hnear

/-- The packet which begins a source is the newest of its segment. -/
theorem NewestKept.first (q : SentPacket) (log : List SectionEvent) :
    NewestKept q.targetTimestamp (.sent q :: .sourceChanged :: log) := by
  intro changes packets first earlier heq hnear
  cases changes with
  | succ changes => simp [segmentLog, List.replicate_succ] at heq
  | zero =>
      have hpackets := congrArg sinceChange heq
      rw [segmentLog_zero, sinceChange_segment] at hpackets
      simp only [sinceChange] at hpackets
      cases packets with
      | cons p packets => simp at hpackets
      | nil =>
          obtain rfl : q = first := by simpa using hpackets
          refine ⟨q, ⟨by simp, by simp⟩, rfl, by simp⟩

/-- A packet on the timeline of its segment is the newest one, or leaves the newest as it was. -/
theorem NewestKept.sent {lastTargetTimestamp : UInt32} {log : List SectionEvent}
    (h : NewestKept lastTargetTimestamp log) {q : SentPacket}
    (hq : ∀ p ∈ sinceChange log,
      q.targetTimestamp - p.targetTimestamp = q.sourceTimestamp - p.sourceTimestamp)
    (hgoes : ∀ earlier, log ≠ .sourceChanged :: earlier) :
    NewestKept (newerTimestamp q.targetTimestamp lastTargetTimestamp) (.sent q :: log) := by
  intro changes packets first earlier heq hnear
  cases changes with
  | succ changes => simp [segmentLog, List.replicate_succ] at heq
  | zero =>
      cases packets with
      | nil =>
          rw [segmentLog_zero] at heq
          obtain ⟨-, hlog⟩ := List.cons.inj heq
          exact absurd hlog (hgoes earlier)
      | cons p packets =>
          rw [segmentLog_zero] at heq
          obtain ⟨hhead, hlog⟩ := List.cons.inj heq
          obtain rfl := SectionEvent.sent.inj hhead
          obtain ⟨newest, hnewest, hlast, hsame⟩ := h 0 packets first earlier hlog
            fun p hp => hnear p (List.mem_cons_of_mem _ hp)
          have hsince : sinceChange log = packets ++ [first] := by
            rw [hlog]
            exact sinceChange_segment _ _
          have hnewer := newer_iff_ahead (hq newest (hsince ▸ hnewest.mem))
            (hnear q List.mem_cons_self)
            (hnear.all newest (List.mem_cons_of_mem _ hnewest.mem)) hnewest.nonneg
          unfold newerTimestamp
          rw [hlast]
          by_cases hahead : ahead newest.sourceTimestamp first.sourceTimestamp <
              ahead q.sourceTimestamp first.sourceTimestamp
          · rw [if_pos (hnewer.mpr hahead)]
            refine ⟨q, ⟨List.mem_cons_self, ?_⟩, rfl, ?_⟩
            · intro p hp
              rcases List.mem_cons.mp hp with rfl | hmem
              · exact le_refl _
              · exact le_trans (hnewest.newest p hmem) hahead.le
            · intro p hp
              rcases List.mem_cons.mp hp with rfl | hmem
              · simp
              · exact hq p (hsince ▸ hmem)
          · rw [if_neg fun hnew => hahead (hnewer.mp hnew)]
            refine ⟨newest, ⟨List.mem_cons_of_mem _ hnewest.mem, ?_⟩, rfl, ?_⟩
            · intro p hp
              rcases List.mem_cons.mp hp with rfl | hmem
              · exact not_lt.mp hahead
              · exact hnewest.newest p hmem
            · intro p hp
              rcases List.mem_cons.mp hp with rfl | hmem
              · have hback := hq newest (hsince ▸ hnewest.mem)
                grind
              · exact hsame p hmem

/-! ## A section and its timeline -/

structure TimelineInvariant (m : MediaRuntimeState) (log : List SectionEvent) : Prop where
  source : SourceInvariant m log
  started : log ≠ [] → m.timestampInitialized = true
  translated : ∀ p ∈ sinceChange log, p.targetTimestamp = m.timestampOf p.sourceTimestamp
  begun : ∀ earlier, log = .sourceChanged :: earlier → m.sourcePrimarySsrc.isSome = true →
    m.mapping.targetSsrc = 0
  unsent : m.mapping.targetSsrc = 0 → ∀ p, .sent p ∉ log
  uncached : sinceChange log = [] → ∀ number, m.primarySequenceNumbers.find number = none
  newest : NewestKept m.lastTargetTimestamp log
  same : SameTimeline log
  continuous : ContinuousTimeline log

namespace TimelineInvariant

/-- What a timeline needs of a section, but for its source. -/
structure SameClock (before after : MediaRuntimeState) : Prop where
  targetSsrc : after.mapping.targetSsrc = before.mapping.targetSsrc
  timestampInitialized : after.timestampInitialized = before.timestampInitialized
  lastTargetTimestamp : after.lastTargetTimestamp = before.lastTargetTimestamp

theorem empty {m : MediaRuntimeState} (hsource : SourceInvariant m [])
    (hcache : m.primarySequenceNumbers = {}) : TimelineInvariant m [] where
  source := hsource
  started h := absurd rfl h
  translated p hp := absurd hp List.not_mem_nil
  begun earlier h := by cases h
  unsent _ p := List.not_mem_nil
  uncached _ number := by
    rw [hcache]
    rfl
  newest changes packets first earlier h := by
    simp [segmentLog] at h
  same later between earlier p q h := by simp at h
  continuous later q changes packets first earlier h := by simp at h

/-- A section whose source and timeline stay as they are. -/
theorem keep {m after : MediaRuntimeState} {log : List SectionEvent} (h : TimelineInvariant m log)
    (hclock : SameClock m after) (hsource : after.primarySource = m.primarySource)
    (hanchor : after.sourceTimestampAnchor = m.sourceTimestampAnchor)
    (htarget : after.targetTimestampAnchor = m.targetTimestampAnchor)
    (hcache : after.primarySequenceNumbers = m.primarySequenceNumbers) :
    TimelineInvariant after log := by
  have hssrc : after.sourcePrimarySsrc = m.sourcePrimarySsrc := congrArg Prod.fst hsource
  refine
    { source := ⟨?_, ?_, ?_, ?_⟩
      started := ?_
      translated := ?_
      begun := ?_
      unsent := ?_
      uncached := ?_
      newest := ?_
      same := h.same
      continuous := h.continuous }
  · rw [hssrc, hsource]
    exact h.source.sourceless
  · rw [hssrc]
    exact h.source.silent
  · rw [hssrc, hanchor]
    exact h.source.anchored
  · rw [hanchor, hclock.timestampInitialized]
    exact h.source.timed
  · rw [hclock.timestampInitialized]
    exact h.started
  · simp only [MediaRuntimeState.timestampOf, hanchor, htarget]
    exact h.translated
  · rw [hssrc, hclock.targetSsrc]
    exact h.begun
  · rw [hclock.targetSsrc]
    exact h.unsent
  · rw [hcache]
    exact h.uncached
  · rw [hclock.lastTargetTimestamp]
    exact h.newest

/-- A section which loses its source keeps its clock. -/
theorem lose {m after : MediaRuntimeState} {log : List SectionEvent} (h : TimelineInvariant m log)
    (hclock : SameClock m after) (hsource : after.primarySource = (none, none, 0))
    (hanchor : after.sourceTimestampAnchor = none) (hcache : after.primarySequenceNumbers = {}) :
    TimelineInvariant after (changeEvents m after ++ log) := by
  have hafter := h.source.lose hsource hanchor
  have hnone : after.sourcePrimarySsrc = none := congrArg Prod.fst hsource
  have hsilent := hafter.silent hnone
  refine
    { source := hafter
      started := ?_
      translated := by simp [hsilent]
      begun := by simp [hnone]
      unsent := ?_
      uncached := by
        intro _ number
        rw [hcache]
        rfl
      newest := ?_
      same := ?_
      continuous := ?_ }
  · intro hne
    rw [hclock.timestampInitialized]
    cases hm : m.sourcePrimarySsrc with
    | none =>
        rw [changeEvents_eq_nil (hsource.trans (h.source.sourceless hm).symm)] at hne
        exact h.started hne
    | some ssrc => exact h.source.timed (h.source.anchored (by rw [hm]; rfl))
  · rw [hclock.targetSsrc]
    intro hzero p
    have hunsent := h.unsent hzero p
    unfold changeEvents
    split_ifs <;> simpa using hunsent
  · rw [hclock.lastTargetTimestamp]
    unfold changeEvents
    split_ifs
    · exact h.newest
    · exact h.newest.changed
  · unfold changeEvents
    split_ifs
    · exact h.same
    · exact h.same.changed
  · unfold changeEvents
    split_ifs
    · exact h.continuous
    · exact h.continuous.changed

theorem rules : SectionRules TimelineInvariant where
  fresh mapping := empty (SourceInvariant.rules.fresh mapping) rfl
  moved h := empty (SourceInvariant.rules.moved h.source) rfl
  adopt {m log} sameSource mapping hcontinues h := by
    simp only [MediaRuntimeState.continues, Bool.and_eq_true, decide_eq_true_eq] at hcontinues
    obtain ⟨initialized, next, heq | heq⟩ := adopt_cases m sameSource mapping
    · rw [heq, changeEvents_eq_nil (by rfl)]
      exact h.keep ⟨hcontinues.2.symm, rfl, rfl⟩ rfl rfl rfl rfl
    · rw [heq]
      exact h.lose ⟨hcontinues.2.symm, rfl, rfl⟩ rfl rfl rfl
  clear h := h.lose ⟨rfl, rfl, rfl⟩ rfl rfl rfl
  allocate h := h.keep ⟨rfl, rfl, rfl⟩ rfl rfl rfl rfl

/-- A packet which goes on with the source a section has. -/
theorem send {m after : MediaRuntimeState} {log : List SectionEvent} (h : TimelineInvariant m log)
    (hsource : m.sourcePrimarySsrc.isSome = true) (htarget : m.mapping.targetSsrc ≠ 0)
    (hgoes : ∀ earlier, log ≠ .sourceChanged :: earlier) {q : SentPacket}
    (hq : q.targetTimestamp = m.timestampOf q.sourceTimestamp)
    (hadvanced : Advanced m after q.sourceTimestamp) : TimelineInvariant after (.sent q :: log) := by
  have hanchor := h.source.anchored hsource
  have htimed := h.source.timed hanchor
  have hof : ∀ t, after.timestampOf t = m.timestampOf t := by
    intro t
    simp only [MediaRuntimeState.timestampOf, hadvanced.targetTimestampAnchor,
      hadvanced.sourceTimestampAnchor]
  have hsame : ∀ p ∈ sinceChange log,
      q.targetTimestamp - p.targetTimestamp = q.sourceTimestamp - p.sourceTimestamp := by
    intro p hp
    rw [hq, h.translated p hp]
    unfold MediaRuntimeState.timestampOf
    grind
  refine
    { source := SourceInvariant.ready (by rw [hadvanced.sourcePrimarySsrc]; exact hsource)
        (by rw [hadvanced.sourceTimestampAnchor]; exact hanchor)
        (by rw [hadvanced.timestampInitialized]; exact htimed)
      started := fun _ => hadvanced.timestampInitialized.trans htimed
      translated := ?_
      begun := by simp
      unsent := ?_
      uncached := by simp [sinceChange]
      newest := ?_
      same := h.same.sent hsame
      continuous := h.continuous.sent h.newest ?_ }
  · intro p hp
    rw [hof]
    rcases List.mem_cons.mp hp with rfl | hmem
    · exact hq
    · exact h.translated p hmem
  · rw [hadvanced.mapping]
    intro hzero
    exact absurd hzero htarget
  · rw [hadvanced.lastTargetTimestamp, ← hq]
    exact h.newest.sent hsame hgoes
  · intro earlier hlog
    exact absurd hlog (hgoes earlier)

theorem begin_last (m : MediaRuntimeState) (ssrc : UInt32) (payloadType : UInt8)
    (timestamp clockRate : UInt32) :
    (m.beginPrimarySource ssrc payloadType timestamp clockRate).lastTargetTimestamp =
      (m.beginPrimarySource ssrc payloadType timestamp clockRate).timestampOf timestamp := by
  simp [MediaRuntimeState.timestampOf, MediaRuntimeState.beginPrimarySource]

/-- The packet which begins a source. -/
theorem begin_sent {m after : MediaRuntimeState} {log : List SectionEvent}
    (h : TimelineInvariant m log) {ssrc : UInt32} {payloadType : UInt8} {q : SentPacket}
    (hq : q.targetTimestamp = (m.beginPrimarySource ssrc payloadType q.sourceTimestamp
      q.clockRate).timestampOf q.sourceTimestamp) (htarget : m.mapping.targetSsrc ≠ 0)
    (hadvanced : Advanced (m.beginPrimarySource ssrc payloadType q.sourceTimestamp q.clockRate)
      after q.sourceTimestamp) :
    TimelineInvariant after (.sent q :: .sourceChanged :: log) := by
  have hlast := begin_last m ssrc payloadType q.sourceTimestamp q.clockRate
  rw [← hq] at hlast
  refine
    { source := SourceInvariant.ready (by rw [hadvanced.sourcePrimarySsrc]; rfl)
        (by rw [hadvanced.sourceTimestampAnchor]; rfl)
        (by rw [hadvanced.timestampInitialized]; rfl)
      started := fun _ => hadvanced.timestampInitialized.trans rfl
      translated := ?_
      begun := by simp
      unsent := ?_
      uncached := by simp [sinceChange]
      newest := ?_
      same := h.same.changed.sent (by simp [sinceChange])
      continuous := h.continuous.changed.sent h.newest.changed ?_ }
  · intro p hp
    obtain rfl : p = q := by simpa [sinceChange] using hp
    rw [hq]
    simp only [MediaRuntimeState.timestampOf, hadvanced.targetTimestampAnchor,
      hadvanced.sourceTimestampAnchor]
  · rw [hadvanced.mapping]
    intro hzero
    exact absurd hzero htarget
  · rw [hadvanced.lastTargetTimestamp, ← hq, hlast, newerTimestamp, ite_self]
    exact NewestKept.first q log
  · intro earlier _ p hp
    have hne : log ≠ [] := by
      rintro rfl
      simp at hp
    rw [← hlast]
    simp [MediaRuntimeState.beginPrimarySource, MediaRuntimeState.beginTimestamp, h.started hne]

/-- A source may begin without a packet only where none is ever sent. -/
theorem begin_silent {m : MediaRuntimeState} {log : List SectionEvent}
    (h : TimelineInvariant m log) (htarget : m.mapping.targetSsrc = 0) (ssrc : UInt32)
    (payloadType : UInt8) (timestamp clockRate : UInt32) :
    TimelineInvariant (m.beginPrimarySource ssrc payloadType timestamp clockRate)
      (.sourceChanged :: log) where
  source := SourceInvariant.ready rfl rfl rfl
  started _ := rfl
  translated p hp := absurd hp List.not_mem_nil
  begun _ _ _ := htarget
  unsent _ p := by simpa using h.unsent htarget p
  uncached _ _ := rfl
  newest := by
    intro changes packets first earlier heq
    have hmem : SectionEvent.sent first ∈ SectionEvent.sourceChanged :: log := by
      rw [heq]
      simp [segmentLog]
    exact absurd (by simpa using hmem) (h.unsent htarget first)
  same := h.same.changed
  continuous := h.continuous.changed

/-- A call hands out a packet of the source it found only once the source's first was sent. -/
theorem goes {m : MediaRuntimeState} {log : List SectionEvent} (h : TimelineInvariant m log)
    (hsource : m.sourcePrimarySsrc.isSome = true) {packet : List UInt8} {parsed : ParsedRtpPacket}
    {original : Option UInt16} (htarget : targetSsrcOf m.mapping original.isSome ≠ 0)
    (horiginal : ∀ number, original = some number → rtxOriginal m packet parsed = .ok number) :
    m.mapping.targetSsrc ≠ 0 ∧ ∀ earlier, log ≠ .sourceChanged :: earlier := by
  cases original with
  | none =>
      refine ⟨htarget, ?_⟩
      rintro earlier rfl
      exact htarget (h.begun earlier rfl hsource)
  | some number =>
      have hcached := horiginal number rfl
      have hsent : sinceChange log ≠ [] := by
        intro hnone
        unfold rtxOriginal at hcached
        simp only [h.uncached hnone] at hcached
        split_ifs at hcached
      refine ⟨?_, ?_⟩
      · intro hzero
        obtain ⟨p, hp⟩ := List.exists_mem_of_ne_nil _ hsent
        exact h.unsent hzero p (sent_of_sinceChange hp)
      · rintro earlier rfl
        exact hsent rfl

/-- A call which does not fail keeps the timeline. -/
theorem rewrite {r : SectionRun} {packet : List UInt8} {transportSequenceNumber : UInt16}
    (hok : (r.rewriter.rewrite packet transportSequenceNumber).2.isOk = true) :
    RewriteKeeps TimelineInvariant r packet transportSequenceNumber := by
  intro parsed resolved bound log _ _ hbind hcall _ h
  rw [hcall] at hok
  have hanchor := (h.source.bound hbind).2.1
  rcases rewriteBound_cases bound packet parsed resolved.payloadType transportSequenceNumber with
    ⟨hcurrent, hnone, hdropped⟩ | ⟨original, hrtx, htarget, horiginal, hemit⟩
  · rw [sentEvents_noPacket hnone, hcurrent, List.nil_append]
    rcases bindSource_cases h.source.anchored hbind with
      ⟨-, -, rtxSsrc, heq⟩ | ⟨hprimary, hchanged, heq⟩
    · rw [heq, changeEvents_eq_nil (by rfl)]
      exact h.keep ⟨rfl, rfl, rfl⟩ rfl rfl rfl rfl
    · have hzero := hdropped hprimary
      rw [heq] at hzero
      rw [heq, begin_changeEvents hchanged rfl]
      exact h.begin_silent hzero _ _ _ _
  · have hadvanced := emit_advanced bound packet parsed resolved.payloadType
      transportSequenceNumber original hanchor
    rw [hemit] at hok ⊢
    rw [changeEvents_congr hadvanced.primarySource, sentEvents_emit hanchor, if_pos hok,
      List.singleton_append]
    rcases bindSource_cases h.source.anchored hbind with
      ⟨hsome, hsame, rtxSsrc, heq⟩ | ⟨hprimary, hchanged, heq⟩
    · have hkept : TimelineInvariant bound.current log := by
        rw [heq]
        exact h.keep ⟨rfl, rfl, rfl⟩ rfl rfl rfl rfl
      have hsource : bound.current.sourcePrimarySsrc.isSome = true := by
        rw [heq]
        exact hsome
      obtain ⟨hnonzero, hgoes⟩ := hkept.goes hsource (hrtx ▸ htarget) horiginal
      rw [heq, changeEvents_eq_nil (by rfl), ← heq]
      exact hkept.send hsource hnonzero hgoes rfl hadvanced
    · rw [hprimary] at htarget
      rw [heq] at hadvanced htarget ⊢
      rw [begin_changeEvents hchanged rfl]
      exact h.begin_sent rfl htarget hadvanced

end TimelineInvariant

def rewriteFails (r : SectionRun) : Operation → Bool
  | .rewrite packet transportSequenceNumber =>
      !(r.rewriter.rewrite packet transportSequenceNumber).2.isOk
  | _ => false

/-- The timelines of every section in every run whose calls do not fail. -/
theorem SectionRun.run_timeline {operations : List Operation} {r : SectionRun}
    (h : (SectionRun.system.restrict fun r operation => rewriteFails r operation = false).Run
      operations r) : ∀ log ∈ r.logs, SameTimeline log ∧ ContinuousTimeline log := by
  have hsections : r.Sections TimelineInvariant := by
    refine SectionRun.run_sections TimelineInvariant.rules ?_ h
    intro s packet transportSequenceNumber hok
    exact TimelineInvariant.rewrite (by simpa [rewriteFails] using hok)
  intro log hmem
  obtain ⟨m, hinv⟩ := hsections.of_log hmem
  exact ⟨hinv.same, hinv.continuous⟩

/-- A packet with these first bytes of its timestamp and its source. -/
def timedPacket (timestamp source : UInt8) : List UInt8 :=
  [0x80, 96, 0, 7, timestamp, 0, 0, 0, 0, 0, 0, source, 1]

/-- One packet a quarter of the range after the first, one a quarter before it, a new source. -/
def spreadOperations : List Operation :=
  [.setConfig RewriterRun.nackConfig, .rewrite (timedPacket 0x40 9) 0, .rewrite (timedPacket 0x80 9) 1,
    .rewrite (timedPacket 0 9) 2, .rewrite (timedPacket 0 10) 3]

def spreadRun : SectionRun := (spreadOperations.foldlM SectionRun.step {}).getD {}

theorem spreadRun_run : (SectionRun.system.restrict fun r operation =>
    rewriteFails r operation = false).Run spreadOperations spreadRun :=
  EventSystem.run_of_exec_restrict rfl (by decide +kernel)

def spreadPacket (number : UInt16) (sourceTimestamp targetTimestamp : UInt32) : SentPacket where
  rtx := false
  sourceSequenceNumber := 7
  targetSequenceNumber := number
  sourceTimestamp := sourceTimestamp
  targetTimestamp := targetTimestamp
  clockRate := 90000

def spreadSegment : List SectionEvent :=
  segmentLog 1 [spreadPacket 6 0 2428919925, spreadPacket 5 0x80000000 281436277]
    (spreadPacket 4 0x40000000 3502661749) []

theorem spreadRun_logs :
    .sent (spreadPacket 7 0 281437177) :: spreadSegment ∈ spreadRun.logs := by
  have hlogs : spreadRun.logs = [.sent (spreadPacket 7 0 281437177) :: spreadSegment] := by
    decide +kernel
  rw [hlogs]
  exact List.mem_singleton_self _

theorem run_timeline_spread :
    SameTimeline (.sent (spreadPacket 7 0 281437177) :: spreadSegment) ∧
      ContinuousTimeline (.sent (spreadPacket 7 0 281437177) :: spreadSegment) :=
  SectionRun.run_timeline spreadRun_run _ spreadRun_logs

/-- The packet a quarter of the range before the first is not older than the new source's. -/
theorem timeline_not_newer :
    ¬ ∀ (operations : List Operation) (r : SectionRun),
      (SectionRun.system.restrict fun r operation => rewriteFails r operation = false).Run
        operations r →
      ∀ log ∈ r.logs, ∀ later q changes packets first earlier,
        log = later ++ .sent q :: segmentLog (changes + 1) packets first earlier →
        NearFirst packets first →
        ∀ p ∈ packets ++ [first], timestampIsNewer q.targetTimestamp p.targetTimestamp = true := by
  intro hall
  have hnear : NearFirst [spreadPacket 6 0 2428919925, spreadPacket 5 0x80000000 281436277]
      (spreadPacket 4 0x40000000 3502661749) := by
    unfold NearFirst
    decide +kernel
  have hnewer := hall _ _ spreadRun_run _ spreadRun_logs [] _ 0 _ _ [] rfl hnear
    (spreadPacket 6 0 2428919925) List.mem_cons_self
  exact absurd hnewer (by decide +kernel)

end SimpleWebrtc.RtpRewriter
