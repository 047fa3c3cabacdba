import SimpleWebrtc.RewriterSections

/-!
# Timestamps of sender reports

A sender report of the publisher is translated by a scan over the sections: the
first section which the report's SSRC feeds gives the target SSRC and the
timeline. The packets themselves find their section through the table of
bindings. The two agree as long as no earlier section still remembers the same
source, or the same target under another source.
-/
namespace SimpleWebrtc.RtpRewriter
open Library Library.Bytes RtpHeaderExtension RtpPacket RewrittenExtensions

structure TimestampMapping where
  targetSsrc : UInt32
  targetTimestamp : UInt32
deriving Repr, DecidableEq

namespace Impl

def sourceSsrcForTargetSsrc (s : Impl) (targetSsrc : UInt32) : Option UInt32 :=
  if targetSsrc = 0 then none
  else s.media.findSome? fun current =>
    if current.mapping.targetSsrc = targetSsrc ∨ current.mapping.targetRtxSsrc = targetSsrc then
      current.sourcePrimarySsrc
    else none

def mapSourceTimestamp (s : Impl) (sourceSsrc sourceTimestamp : UInt32) :
    Option TimestampMapping :=
  if sourceSsrc = 0 then none
  else s.media.findSome? fun current =>
    match current.sourceTimestampAnchor with
    | none => none
    | some anchor =>
        if current.sourcePrimarySsrc = some sourceSsrc ∧ current.timestampInitialized = true then
          some ⟨current.mapping.targetSsrc,
            current.targetTimestampAnchor + (sourceTimestamp - anchor)⟩
        else none

end Impl

namespace MediaRuntimeState

def fedBy (current : MediaRuntimeState) (sourceSsrc : UInt32) : Bool :=
  decide (current.sourcePrimarySsrc = some sourceSsrc)

/-- A section which answers for a target SSRC. -/
def answersFor (current : MediaRuntimeState) (targetSsrc : UInt32) : Bool :=
  (decide (current.mapping.targetSsrc = targetSsrc) ||
    decide (current.mapping.targetRtxSsrc = targetSsrc)) && current.sourcePrimarySsrc.isSome

/-- How far the target timeline of a section is ahead of its source's. -/
def timestampOffset (current : MediaRuntimeState) : UInt32 :=
  current.targetTimestampAnchor - current.sourceTimestampAnchor.getD 0

theorem timestampOf_eq (current : MediaRuntimeState) (sourceTimestamp : UInt32) :
    current.timestampOf sourceTimestamp = current.timestampOffset + sourceTimestamp := by
  unfold timestampOf timestampOffset
  grind

end MediaRuntimeState

/-- Both lookups tell of a primary packet what the packet says itself. -/
structure ReportsAgree (s : Impl) (result : RewriteResult) : Prop where
  timestamps : ∀ sourceTimestamp, s.mapSourceTimestamp result.sourceSsrc sourceTimestamp =
    some ⟨result.targetSsrc,
      result.targetTimestamp + (sourceTimestamp - result.sourceTimestamp)⟩
  source : s.sourceSsrcForTargetSsrc result.targetSsrc = some result.sourceSsrc

/-- The sections in front of the packet's: the first which its source feeds has the same target
and the same timeline, and the first which answers for its target has the same source. -/
def AnswersFirst (s : Impl) (packet : List UInt8) : Prop :=
  ∀ parsed resolved, parseRewriteableRtpPacket packet = .ok parsed →
    s.resolve parsed = some resolved →
    (∀ current ∈ (s.media.take resolved.mediaIndex).find?
        (MediaRuntimeState.fedBy · parsed.header.ssrc),
      current.mapping.targetSsrc = resolved.current.mapping.targetSsrc ∧
        current.timestampOffset =
          (bindPrimary s.bindings parsed resolved).current.timestampOffset) ∧
    ∀ current ∈ (s.media.take resolved.mediaIndex).find?
        (MediaRuntimeState.answersFor · resolved.current.mapping.targetSsrc),
      current.sourcePrimarySsrc = some parsed.header.ssrc

/-! ## The scans -/

theorem findSome?_eq_map_find? {α β : Type*} {xs : List α} {f : α → Option β} {p : α → Bool}
    {g : α → β} (h : ∀ x ∈ xs, f x = if p x then some (g x) else none) :
    xs.findSome? f = (xs.find? p).map g := by
  induction xs with
  | nil => rfl
  | cons x xs ih =>
      have htail := ih fun y hy => h y (List.mem_cons_of_mem x hy)
      rw [List.findSome?_cons, List.find?_cons, h x List.mem_cons_self, htail]
      cases p x <;> rfl

theorem mapSourceTimestamp_eq {s : Impl} {sourceSsrc : UInt32} (hssrc : sourceSsrc ≠ 0)
    (hmedia : ∀ m ∈ s.media, m.sourcePrimarySsrc.isSome = true →
      m.sourceTimestampAnchor.isSome = true ∧ m.timestampInitialized = true)
    (sourceTimestamp : UInt32) :
    s.mapSourceTimestamp sourceSsrc sourceTimestamp =
      (s.media.find? (MediaRuntimeState.fedBy · sourceSsrc)).map fun current =>
        ⟨current.mapping.targetSsrc, current.timestampOf sourceTimestamp⟩ := by
  rw [Impl.mapSourceTimestamp, if_neg hssrc]
  refine findSome?_eq_map_find? ?_
  intro current hmem
  unfold MediaRuntimeState.fedBy MediaRuntimeState.timestampOf
  by_cases hfed : current.sourcePrimarySsrc = some sourceSsrc
  · obtain ⟨hanchor, htimed⟩ := hmedia current hmem (by rw [hfed]; rfl)
    cases ha : current.sourceTimestampAnchor with
    | none =>
        rw [ha] at hanchor
        cases hanchor
    | some anchor => simp [hfed, htimed]
  · cases current.sourceTimestampAnchor <;> simp [hfed]

theorem sourceSsrcForTargetSsrc_eq {s : Impl} {targetSsrc : UInt32} (htarget : targetSsrc ≠ 0) :
    s.sourceSsrcForTargetSsrc targetSsrc =
      (s.media.find? (MediaRuntimeState.answersFor · targetSsrc)).map fun current =>
        current.sourcePrimarySsrc.getD 0 := by
  rw [Impl.sourceSsrcForTargetSsrc, if_neg htarget]
  refine findSome?_eq_map_find? ?_
  intro current hmem
  unfold MediaRuntimeState.answersFor
  cases current.sourcePrimarySsrc <;> simp

/-- The scan of the sections after a call on one of them which answers itself. -/
theorem find?_set {p : MediaRuntimeState → Bool} {media : List MediaRuntimeState} {index : ℕ}
    {before next : MediaRuntimeState} (hat : media[index]? = some before) (hnext : p next = true) :
    (media.set index next).find? p = ((media.take index).find? p).or (some next) := by
  obtain ⟨hlt, -⟩ := List.getElem?_eq_some_iff.mp hat
  rw [List.set_eq_take_append_cons_drop, if_pos hlt, List.find?_append, List.find?_cons, hnext]

theorem or_map_eq_iff {α β : Type*} {o : Option α} (g : α → β) {last : α} {b : β}
    (hlast : g last = b) : (o.or (some last)).map g = some b ↔ ∀ x ∈ o, g x = b := by
  cases o with
  | none => simp [hlast]
  | some x => simp

/-! ## Primary packets -/

/-- What a call which hands out a primary packet does to its section. -/
structure PrimarySent (s : Impl) (packet : List UInt8) (result : RewriteResult)
    (parsed : ParsedRtpPacket) (resolved : ResolvedMedia) (next : MediaRuntimeState) : Prop where
  parse : parseRewriteableRtpPacket packet = .ok parsed
  resolve : s.resolve parsed = some resolved
  mapping : next.mapping = resolved.current.mapping
  source : next.sourcePrimarySsrc = some parsed.header.ssrc
  offset : next.timestampOffset = (bindPrimary s.bindings parsed resolved).current.timestampOffset
  sourceSsrc : result.sourceSsrc = parsed.header.ssrc
  targetSsrc : result.targetSsrc = next.mapping.targetSsrc
  targetNonzero : next.mapping.targetSsrc ≠ 0
  timestamp : result.targetTimestamp = next.timestampOf result.sourceTimestamp

theorem primary_sent {s : Impl} (hmedia : ∀ m ∈ s.media, m.sourcePrimarySsrc.isSome = true →
      m.sourceTimestampAnchor.isSome = true) {packet : List UInt8}
    {transportSequenceNumber : UInt16} {result : RewriteResult}
    (hresult : (s.rewrite packet transportSequenceNumber).2 = .ok result)
    (hstate : result.state = .rewritten) (hrtx : result.rtx = false) :
    ∃ parsed resolved next, PrimarySent s packet result parsed resolved next ∧
      (s.rewrite packet transportSequenceNumber).1.media = s.media.set resolved.mediaIndex next := by
  rcases s.rewrite_cases packet transportSequenceNumber with ⟨-, hnone⟩ |
    ⟨parsed, resolved, bound, hparse, hresolve, hbind, heq⟩
  · rw [hresult] at hnone
    have hdropped : result.state = .dropped := hnone
    rw [hstate] at hdropped
    cases hdropped
  · have hat := (Impl.resolve_some hresolve).1
    have hanchored := hmedia _ (List.mem_of_getElem? hat)
    rcases rewriteBound_cases bound packet parsed resolved.payloadType transportSequenceNumber
      with ⟨-, hnone, -⟩ | ⟨original, hisSome, htarget, -, hcall⟩
    · rw [heq] at hresult
      simp only at hresult
      rw [hresult] at hnone
      have hdropped : result.state = .dropped := hnone
      rw [hstate] at hdropped
      cases hdropped
    rw [heq, hcall] at hresult
    simp only at hresult
    obtain ⟨block, targetTimestamp, -, hfields⟩ := emit_result hresult
    have hpayloadType : resolved.payloadType.rtx = false := by
      rw [hfields] at hrtx
      exact hrtx
    have hprimary : bound = bindPrimary s.bindings parsed resolved := by
      rw [bindSource, hpayloadType, if_neg Bool.false_ne_true] at hbind
      exact (Option.some.inj hbind).symm
    obtain ⟨hsource, hanchor⟩ : bound.current.sourcePrimarySsrc = some parsed.header.ssrc ∧
        bound.current.sourceTimestampAnchor.isSome = true := by
      rcases bindSource_cases hanchored hbind with ⟨hsome, hsame, rtxSsrc, hb⟩ | ⟨-, -, hb⟩
      · rw [hb]
        exact ⟨source_of_not_changed (hsame hpayloadType), hanchored hsome⟩
      · rw [hb]
        exact ⟨rfl, rfl⟩
    have hmapping := (bindSource_some hbind).2
    have hadvanced := emit_advanced bound packet parsed resolved.payloadType
      transportSequenceNumber original hanchor
    have htimestamp := emit_timestamp hanchor hresult
    have htargetOf : result.targetSsrc = bound.current.mapping.targetSsrc := by
      rw [hfields]
      simp [rewrittenResult, targetSsrcOf, hpayloadType]
    have hof : ∀ sourceTimestamp, (emit bound packet parsed resolved.payloadType
        transportSequenceNumber original).1.timestampOf sourceTimestamp =
        bound.current.timestampOf sourceTimestamp := by
      intro sourceTimestamp
      simp only [MediaRuntimeState.timestampOf, hadvanced.targetTimestampAnchor,
        hadvanced.sourceTimestampAnchor]
    refine ⟨parsed, resolved, (emit bound packet parsed resolved.payloadType
      transportSequenceNumber original).1, ?_, by rw [heq, hcall]⟩
    refine
      { parse := hparse
        resolve := hresolve
        mapping := hadvanced.mapping.trans hmapping
        source := hadvanced.sourcePrimarySsrc.trans hsource
        offset := ?_
        sourceSsrc := by rw [hfields]; rfl
        targetSsrc := by rw [htargetOf, hadvanced.mapping]
        targetNonzero := ?_
        timestamp := by rw [htimestamp, hof, hfields]; rfl }
    · simp only [MediaRuntimeState.timestampOffset, hadvanced.targetTimestampAnchor,
        hadvanced.sourceTimestampAnchor, ← hprimary]
    · rw [hadvanced.mapping]
      simpa [targetSsrcOf, hpayloadType] using htarget

/-- Two timelines agree everywhere when they have the same offset. -/
theorem timestampOf_agrees_iff {current next : MediaRuntimeState} {targetSsrc reference : UInt32} :
    (∀ sourceTimestamp, (⟨current.mapping.targetSsrc, current.timestampOf sourceTimestamp⟩ :
        TimestampMapping) =
      ⟨targetSsrc, next.timestampOf reference + (sourceTimestamp - reference)⟩) ↔
      current.mapping.targetSsrc = targetSsrc ∧
        current.timestampOffset = next.timestampOffset := by
  simp only [TimestampMapping.mk.injEq, MediaRuntimeState.timestampOf_eq]
  constructor
  · intro h
    refine ⟨(h 0).1, ?_⟩
    have hzero := (h 0).2
    grind
  · rintro ⟨htarget, hoffset⟩ sourceTimestamp
    refine ⟨htarget, ?_⟩
    rw [hoffset]
    grind

/-- After a primary packet both lookups agree with it, exactly when no section in front of the
packet's answers differently. -/
theorem run_reports_agree_iff {operations : List Operation} {r : SectionRun}
    (h : SectionRun.system.Run operations r) {packet : List UInt8}
    {transportSequenceNumber : UInt16} {result : RewriteResult}
    (hresult : (r.rewriter.rewrite packet transportSequenceNumber).2 = .ok result)
    (hstate : result.state = .rewritten) (hrtx : result.rtx = false)
    (hssrc : result.sourceSsrc ≠ 0) :
    ReportsAgree (r.rewriter.rewrite packet transportSequenceNumber).1 result ↔
      AnswersFirst r.rewriter packet := by
  have hready : ∀ {operations r}, SectionRun.system.Run operations r → ∀ m ∈ r.rewriter.media,
      m.sourcePrimarySsrc.isSome = true →
      m.sourceTimestampAnchor.isSome = true ∧ m.timestampInitialized = true := by
    intro operations r hrun m hm hsome
    obtain ⟨log, hinv⟩ := (SectionRun.run_source hrun).mem hm
    exact ⟨hinv.anchored hsome, hinv.timed (hinv.anchored hsome)⟩
  have hready' : ∀ m ∈ (r.rewriter.rewrite packet transportSequenceNumber).1.media,
      m.sourcePrimarySsrc.isSome = true →
      m.sourceTimestampAnchor.isSome = true ∧ m.timestampInitialized = true :=
    hready (.step h (rfl : SectionRun.step r (.rewrite packet transportSequenceNumber) = _))
  obtain ⟨parsed, resolved, next, hsent, hmedia⟩ :=
    primary_sent (fun m hm hsome => (hready h m hm hsome).1) hresult hstate hrtx
  have hat := (Impl.resolve_some hsent.resolve).1
  have htarget : result.targetSsrc ≠ 0 := hsent.targetSsrc ▸ hsent.targetNonzero
  have htimestamps : (∀ sourceTimestamp,
      (r.rewriter.rewrite packet transportSequenceNumber).1.mapSourceTimestamp result.sourceSsrc
        sourceTimestamp = some ⟨result.targetSsrc,
          result.targetTimestamp + (sourceTimestamp - result.sourceTimestamp)⟩) ↔
      ∀ current ∈ (r.rewriter.media.take resolved.mediaIndex).find?
          (MediaRuntimeState.fedBy · parsed.header.ssrc),
        current.mapping.targetSsrc = resolved.current.mapping.targetSsrc ∧
          current.timestampOffset =
            (bindPrimary r.rewriter.bindings parsed resolved).current.timestampOffset := by
    have hscan : (r.rewriter.rewrite packet transportSequenceNumber).1.media.find?
        (MediaRuntimeState.fedBy · result.sourceSsrc) =
        ((r.rewriter.media.take resolved.mediaIndex).find?
          (MediaRuntimeState.fedBy · parsed.header.ssrc)).or (some next) := by
      rw [hmedia, hsent.sourceSsrc]
      exact find?_set hat (by simp [MediaRuntimeState.fedBy, hsent.source])
    have hlast : ∀ sourceTimestamp, (⟨next.mapping.targetSsrc,
        next.timestampOf sourceTimestamp⟩ : TimestampMapping) = ⟨result.targetSsrc,
          result.targetTimestamp + (sourceTimestamp - result.sourceTimestamp)⟩ := by
      rw [hsent.timestamp]
      exact timestampOf_agrees_iff.mpr ⟨hsent.targetSsrc.symm, rfl⟩
    have hmap : ∀ sourceTimestamp, (r.rewriter.rewrite packet
        transportSequenceNumber).1.mapSourceTimestamp result.sourceSsrc sourceTimestamp =
        some ⟨result.targetSsrc,
          result.targetTimestamp + (sourceTimestamp - result.sourceTimestamp)⟩ ↔
        ∀ current ∈ (r.rewriter.media.take resolved.mediaIndex).find?
            (MediaRuntimeState.fedBy · parsed.header.ssrc),
          (⟨current.mapping.targetSsrc, current.timestampOf sourceTimestamp⟩ :
            TimestampMapping) = ⟨result.targetSsrc,
              result.targetTimestamp + (sourceTimestamp - result.sourceTimestamp)⟩ := by
      intro sourceTimestamp
      rw [mapSourceTimestamp_eq hssrc hready' sourceTimestamp, hscan]
      exact or_map_eq_iff (fun current : MediaRuntimeState => (⟨current.mapping.targetSsrc,
        current.timestampOf sourceTimestamp⟩ : TimestampMapping)) (hlast sourceTimestamp)
    simp only [hmap]
    rw [hsent.timestamp, hsent.targetSsrc, hsent.mapping, ← hsent.offset, forall_comm]
    refine forall_congr' fun current => ?_
    rw [forall_comm]
    exact forall_congr' fun _ => timestampOf_agrees_iff
  have hsource : (r.rewriter.rewrite packet
        transportSequenceNumber).1.sourceSsrcForTargetSsrc result.targetSsrc =
        some result.sourceSsrc ↔
      ∀ current ∈ (r.rewriter.media.take resolved.mediaIndex).find?
          (MediaRuntimeState.answersFor · resolved.current.mapping.targetSsrc),
        current.sourcePrimarySsrc = some parsed.header.ssrc := by
    have hscan : (r.rewriter.rewrite packet transportSequenceNumber).1.media.find?
        (MediaRuntimeState.answersFor · result.targetSsrc) =
        ((r.rewriter.media.take resolved.mediaIndex).find?
          (MediaRuntimeState.answersFor · resolved.current.mapping.targetSsrc)).or
          (some next) := by
      rw [hmedia, hsent.targetSsrc, hsent.mapping]
      exact find?_set hat
        (by simp [MediaRuntimeState.answersFor, hsent.source, hsent.mapping])
    have hlast : next.sourcePrimarySsrc.getD 0 = result.sourceSsrc := by
      rw [hsent.source, hsent.sourceSsrc]
      rfl
    rw [sourceSsrcForTargetSsrc_eq htarget, hscan]
    refine (or_map_eq_iff (fun current : MediaRuntimeState =>
      current.sourcePrimarySsrc.getD 0) hlast).trans ?_
    refine forall_congr' fun current => forall_congr' fun hfound => ?_
    have hanswers := List.find?_some hfound
    simp only [MediaRuntimeState.answersFor, Bool.and_eq_true] at hanswers
    obtain ⟨ssrc, hssrc'⟩ := Option.isSome_iff_exists.mp hanswers.2
    rw [hssrc', hsent.sourceSsrc, Option.getD_some, Option.some.injEq]
  constructor
  · intro hagree parsed' resolved' hparse' hresolve'
    obtain rfl : parsed = parsed' := Except.ok.inj (hsent.parse.symm.trans hparse')
    obtain rfl : resolved = resolved' := Option.some.inj (hsent.resolve.symm.trans hresolve')
    exact ⟨htimestamps.mp hagree.timestamps, hsource.mp hagree.source⟩
  · intro hfirst
    obtain ⟨hfed, hanswers⟩ := hfirst parsed resolved hsent.parse hsent.resolve
    exact ⟨htimestamps.mpr hfed, hsource.mpr hanswers⟩

/-- A video section and an audio section. -/
def twoSections : RewriterConfig where
  sourceSessionId := ascii "publisher"
  media := [{ kind := ascii "video"
              sourceMid := ascii "0"
              targetMid := ascii "0"
              targetSsrc := 0x10005
              payloadTypes := [{ sourcePayloadType := 96
                                 targetPayloadType := 96
                                 clockRate := 90000
                                 codecName := ascii "VP8" }] },
            { kind := ascii "audio"
              sourceMid := ascii "1"
              targetMid := ascii "1"
              targetSsrc := 0x20007
              payloadTypes := [{ sourcePayloadType := 111
                                 targetPayloadType := 111
                                 clockRate := 48000
                                 codecName := ascii "opus" }] }]

/-- A packet of a source which feeds both sections. -/
def sharedSourcePacket (payloadType : UInt8) : List UInt8 :=
  [0x80, payloadType, 0, 7, 0, 0, 0, 100, 0, 0, 0, 9, 1]

def videoRun : SectionRun :=
  ([.setConfig twoSections, .rewrite (sharedSourcePacket 96) 0].foldlM SectionRun.step {}).getD {}

theorem videoRun_run : SectionRun.system.Run
    [.setConfig twoSections, .rewrite (sharedSourcePacket 96) 0] videoRun := by
  have hempty : SectionRun.system.Run [] {} := .start rfl
  exact hempty.exec (by decide +kernel)

theorem run_reports_agree_video : ∃ result : RewriteResult,
    (videoRun.rewriter.rewrite (sharedSourcePacket 96) 1).2 = .ok result ∧
      (ReportsAgree (videoRun.rewriter.rewrite (sharedSourcePacket 96) 1).1 result ↔
        AnswersFirst videoRun.rewriter (sharedSourcePacket 96)) := by
  have hsent : (videoRun.rewriter.rewrite (sharedSourcePacket 96) 1).2.toOption.map (fun result =>
      (result.state, result.rtx, result.sourceSsrc)) = some (.rewritten, false, 9) := by
    decide +kernel
  cases hresult : (videoRun.rewriter.rewrite (sharedSourcePacket 96) 1).2 with
  | error e =>
      rw [hresult] at hsent
      cases hsent
  | ok result =>
      rw [hresult] at hsent
      simp only [Except.toOption, Option.map_some, Option.some.injEq, Prod.mk.injEq] at hsent
      obtain ⟨hstate, hrtx, hssrc⟩ := hsent
      exact ⟨result, rfl, run_reports_agree_iff videoRun_run hresult hstate hrtx
        (by rw [hssrc]; decide)⟩

/-- The audio packet of the source which fed the video section before. -/
theorem reports_disagree :
    ¬ ∀ (operations : List Operation) (r : SectionRun), SectionRun.system.Run operations r →
      ∀ packet transportSequenceNumber result,
      (r.rewriter.rewrite packet transportSequenceNumber).2 = .ok result →
      result.state = .rewritten → result.rtx = false → result.sourceSsrc ≠ 0 →
      ReportsAgree (r.rewriter.rewrite packet transportSequenceNumber).1 result := by
  intro hall
  have hsent : (videoRun.rewriter.rewrite (sharedSourcePacket 111) 1).2.toOption.map (fun result =>
      (result.state, result.rtx, result.sourceSsrc, result.targetSsrc)) =
      some (.rewritten, false, 9, 0x20007) := by decide +kernel
  have hscan : ((videoRun.rewriter.rewrite (sharedSourcePacket 111) 1).1.mapSourceTimestamp 9 0).map
      TimestampMapping.targetSsrc = some 0x10005 := by decide +kernel
  cases hresult : (videoRun.rewriter.rewrite (sharedSourcePacket 111) 1).2 with
  | error e =>
      rw [hresult] at hsent
      cases hsent
  | ok result =>
      rw [hresult] at hsent
      simp only [Except.toOption, Option.map_some, Option.some.injEq, Prod.mk.injEq] at hsent
      obtain ⟨hstate, hrtx, hssrc, htarget⟩ := hsent
      have hagree := hall _ _ videoRun_run (sharedSourcePacket 111) 1 result hresult hstate hrtx
        (by rw [hssrc]; decide)
      have hzero := hagree.timestamps 0
      rw [hssrc] at hzero
      rw [hzero, Option.map_some, htarget] at hscan
      have hne : (0x20007 : UInt32) ≠ 0x10005 := by decide
      exact hne (Option.some.inj hscan)

end SimpleWebrtc.RtpRewriter
