import SimpleWebrtc.Library.Runs
import SimpleWebrtc.RewriterOutput

/-!
# Runs of the RTP rewriter

The operations of the rewriter in any order, with the log of the packets it
handed out. An emission names the section it belongs to by the section's target
SSRC; one which came from a retransmission request also remembers the number of
the packet which was asked for.
-/
namespace SimpleWebrtc.RtpRewriter
open Library Library.Bytes RtpHeaderExtension RtpPacket RewrittenExtensions

inductive Operation where
  | setConfig (config : RewriterConfig)
  | clearSource
  | rewrite (packet : List UInt8) (transportSequenceNumber : UInt16)
  | buildRetransmission (packet : List UInt8) (transportSequenceNumber : UInt16)
deriving DecidableEq

/-- A packet handed out for the section with this target SSRC. -/
structure Emission where
  targetSsrc : UInt32
  rtx : Bool
  resends : Option UInt16
  sequenceNumber : UInt16
deriving DecidableEq

structure RewriterRun where
  rewriter : Impl := {}
  emitted : List Emission := []
deriving DecidableEq

/-- The emission of a rewritten packet, for the section it resolved to. -/
def Impl.rewriteEmission (s : Impl) (packet : List UInt8) (result : Except Text RewriteResult) :
    List Emission :=
  match result, parseRewriteableRtpPacket packet with
  | .ok result, .ok parsed =>
      match result.state, s.resolve parsed with
      | .rewritten, some resolved =>
          [⟨resolved.current.mapping.targetSsrc, result.rtx, none, result.targetSequenceNumber⟩]
      | _, _ => []
  | _, _ => []

def retransmissionEmission (result : Except Text RetransmissionResult) : List Emission :=
  match result with
  | .error _ => []
  | .ok result => [⟨result.originalTargetSsrc, result.rtx,
      some result.originalTargetSequenceNumber, result.targetSequenceNumber⟩]

namespace RewriterRun

def step (r : RewriterRun) : Operation → Option RewriterRun
  | .setConfig config => some { r with rewriter := r.rewriter.setConfig config }
  | .clearSource => some { r with rewriter := r.rewriter.clearSource }
  | .rewrite packet transportSequenceNumber =>
      let (rewriter, result) := r.rewriter.rewrite packet transportSequenceNumber
      some ⟨rewriter, r.emitted ++ r.rewriter.rewriteEmission packet result⟩
  | .buildRetransmission packet transportSequenceNumber =>
      let (rewriter, result) := r.rewriter.buildRetransmission packet transportSequenceNumber
      some ⟨rewriter, r.emitted ++ retransmissionEmission result⟩

def initial (r : RewriterRun) : Prop := r = {}

def system : EventSystem RewriterRun Operation := .ofStep initial step

end RewriterRun

/-! ## What the operations do to the sections -/

/-- Either a call changes nothing and hands out no packet, or it resolves a section and works on
that section alone. -/
theorem Impl.rewrite_cases (s : Impl) (packet : List UInt8) (transportSequenceNumber : UInt16) :
    ((s.rewrite packet transportSequenceNumber).1 = s ∧
      NoPacket (s.rewrite packet transportSequenceNumber).2) ∨
    ∃ parsed resolved bound, parseRewriteableRtpPacket packet = .ok parsed ∧
      s.resolve parsed = some resolved ∧
      bindSource s.bindings parsed resolved = some bound ∧
      s.rewrite packet transportSequenceNumber =
        ({ s with
            media := s.media.set resolved.mediaIndex (rewriteBound bound packet parsed
              resolved.payloadType transportSequenceNumber).1
            bindings := bound.bindings },
          (rewriteBound bound packet parsed resolved.payloadType transportSequenceNumber).2) := by
  unfold Impl.rewrite
  cases hparse : parseRewriteableRtpPacket packet with
  | error e => exact Or.inl ⟨rfl, trivial⟩
  | ok parsed =>
      simp only
      split_ifs with hoff
      · exact Or.inl ⟨rfl, rfl⟩
      · cases hresolve : s.resolve parsed with
        | none => exact Or.inl ⟨rfl, rfl⟩
        | some resolved =>
            simp only [Impl.rewriteResolved]
            cases hbind : bindSource s.bindings parsed resolved with
            | none => exact Or.inl ⟨rfl, rfl⟩
            | some bound => exact Or.inr ⟨parsed, resolved, bound, rfl, hresolve, hbind, rfl⟩

/-- The bound part of a call drops the packet without touching the section, or emits. -/
theorem rewriteBound_cases (bound : BoundSource) (packet : List UInt8) (parsed : ParsedRtpPacket)
    (payloadType : PayloadTypeMapping) (transportSequenceNumber : UInt16) :
    ((rewriteBound bound packet parsed payloadType transportSequenceNumber).1 = bound.current ∧
      NoPacket (rewriteBound bound packet parsed payloadType transportSequenceNumber).2 ∧
      (payloadType.rtx = false → bound.current.mapping.targetSsrc = 0)) ∨
    ∃ original, payloadType.rtx = original.isSome ∧
      targetSsrcOf bound.current.mapping payloadType.rtx ≠ 0 ∧
      (∀ number, original = some number → rtxOriginal bound.current packet parsed = .ok number) ∧
      rewriteBound bound packet parsed payloadType transportSequenceNumber =
        emit bound packet parsed payloadType transportSequenceNumber original := by
  unfold rewriteBound
  split_ifs with hzero hrtx
  · refine Or.inl ⟨rfl, rfl, ?_⟩
    intro hprimary
    rw [hprimary] at hzero
    exact hzero
  · cases horiginal : rtxOriginal bound.current packet parsed with
    | error reason => exact Or.inl ⟨rfl, rfl, fun hprimary => absurd hrtx (by simp [hprimary])⟩
    | ok number =>
        refine Or.inr ⟨some number, hrtx, hzero, ?_, rfl⟩
        intro number' hnumber
        rw [Option.some.inj hnumber]
  · refine Or.inr ⟨none, by simpa using hrtx, hzero, ?_, rfl⟩
    intro number hnumber
    cases hnumber

theorem emit_mapping (bound : BoundSource) (packet : List UInt8) (parsed : ParsedRtpPacket)
    (payloadType : PayloadTypeMapping) (transportSequenceNumber : UInt16)
    (original : Option UInt16) :
    (emit bound packet parsed payloadType transportSequenceNumber original).1.mapping =
      bound.current.mapping := by
  have hallocate : (bound.current.allocateSequenceNumber payloadType.rtx).2.mapping =
      bound.current.mapping := by
    cases payloadType.rtx <;> rfl
  simp only [emit]
  cases extensionBlockFor parsed bound.current.mapping transportSequenceNumber with
  | error e => exact (MediaRuntimeState.translateTimestamp_mapping _ _).trans hallocate
  | ok block =>
      cases original with
      | some number => exact (MediaRuntimeState.translateTimestamp_mapping _ _).trans hallocate
      | none => exact (MediaRuntimeState.translateTimestamp_mapping _ _).trans hallocate

theorem emit_result {bound : BoundSource} {packet : List UInt8} {parsed : ParsedRtpPacket}
    {payloadType : PayloadTypeMapping} {transportSequenceNumber : UInt16}
    {original : Option UInt16} {result : RewriteResult}
    (h : (emit bound packet parsed payloadType transportSequenceNumber original).2 = .ok result) :
    ∃ block targetTimestamp,
      extensionBlockFor parsed bound.current.mapping transportSequenceNumber = .ok block ∧
      result = rewrittenResult bound packet parsed payloadType transportSequenceNumber original
        block (bound.current.sequenceNumber payloadType.rtx) targetTimestamp := by
  simp only [emit] at h
  cases hblock : extensionBlockFor parsed bound.current.mapping transportSequenceNumber with
  | error e => simp [hblock] at h
  | ok block =>
      simp only [hblock, Except.ok.injEq] at h
      have hnumber : (bound.current.allocateSequenceNumber payloadType.rtx).1 =
          bound.current.sequenceNumber payloadType.rtx := by
        cases payloadType.rtx <;> rfl
      exact ⟨block, _, rfl, by rw [← h, hnumber]⟩

/-- The part of a call on a section never changes the section's mapping. -/
theorem rewriteBound_mapping (bound : BoundSource) (packet : List UInt8)
    (parsed : ParsedRtpPacket) (payloadType : PayloadTypeMapping)
    (transportSequenceNumber : UInt16) :
    (rewriteBound bound packet parsed payloadType transportSequenceNumber).1.mapping =
      bound.current.mapping := by
  rcases rewriteBound_cases bound packet parsed payloadType transportSequenceNumber with
    ⟨hsame, -⟩ | ⟨original, -, -, -, heq⟩
  · rw [hsame]
  · rw [heq, emit_mapping]

/-- A retransmission leaves the section alone, or takes one RTX number for the packet. -/
theorem retransmit_cases (current : MediaRuntimeState) (packet : List UInt8)
    (parsed : ParsedRtpPacket) (transportSequenceNumber : UInt16) :
    ((retransmit current packet parsed transportSequenceNumber).1 = current ∧
      ∀ result, (retransmit current packet parsed transportSequenceNumber).2 = .ok result →
        result.rtx = false ∧ result.originalTargetSsrc = parsed.header.ssrc ∧
        result.targetSequenceNumber = result.originalTargetSequenceNumber) ∨
    ((retransmit current packet parsed transportSequenceNumber).1 =
        (current.allocateSequenceNumber true).2 ∧
      ∀ result, (retransmit current packet parsed transportSequenceNumber).2 = .ok result →
        result.rtx = true ∧ result.originalTargetSsrc = parsed.header.ssrc ∧
        result.targetSequenceNumber = current.sequenceNumber true) := by
  have hstamp : ∀ {result stamped : RetransmissionResult},
      stampTransportCc current.mapping transportSequenceNumber result = .ok stamped →
      stamped.rtx = result.rtx ∧ stamped.originalTargetSsrc = result.originalTargetSsrc ∧
      stamped.originalTargetSequenceNumber = result.originalTargetSequenceNumber ∧
      stamped.targetSequenceNumber = result.targetSequenceNumber := by
    intro result stamped h
    unfold stampTransportCc at h
    split_ifs at h
    · rw [Except.ok.injEq] at h
      subst h
      exact ⟨rfl, rfl, rfl, rfl⟩
    · cases hwrite : writeTransportSequenceNumber result.packet
        current.mapping.targetTransportCcExtensionId transportSequenceNumber with
      | error e => simp [hwrite] at h
      | ok written =>
          simp only [hwrite, Except.ok.injEq] at h
          subst h
          exact ⟨rfl, rfl, rfl, rfl⟩
  simp only [retransmit]
  cases findPrimaryMapping current.mapping parsed.header.payloadType with
  | none => exact Or.inl ⟨rfl, fun result h => by cases h⟩
  | some primary =>
      simp only
      split_ifs with hnack
      · exact Or.inl ⟨rfl, fun result h => by cases h⟩
      · cases (findRtxMapping current.mapping parsed.header.payloadType).filter
          fun _ => decide (current.mapping.targetRtxSsrc ≠ 0) with
        | none =>
            refine Or.inl ⟨rfl, fun result h => ?_⟩
            obtain ⟨hrtx, hssrc, horiginal, hnumber⟩ := hstamp h
            exact ⟨hrtx, hssrc, hnumber.trans horiginal.symm⟩
        | some rtx =>
            refine Or.inr ⟨rfl, fun result h => ?_⟩
            obtain ⟨hrtx, hssrc, -, hnumber⟩ := hstamp h
            exact ⟨hrtx, hssrc, hnumber⟩

theorem Impl.buildRetransmission_cases (s : Impl) (packet : List UInt8)
    (transportSequenceNumber : UInt16) :
    ((s.buildRetransmission packet transportSequenceNumber).1 = s ∧
      NoRetransmission (s.buildRetransmission packet transportSequenceNumber).2) ∨
    ∃ parsed index current, parseRewriteableRtpPacket packet = .ok parsed ∧
      s.media[index]? = some current ∧ current.mapping.targetSsrc = parsed.header.ssrc ∧
      s.buildRetransmission packet transportSequenceNumber =
        ({ s with
            media := s.media.set index
              (retransmit current packet parsed transportSequenceNumber).1 },
          (retransmit current packet parsed transportSequenceNumber).2) := by
  unfold Impl.buildRetransmission
  cases hparse : parseRewriteableRtpPacket packet with
  | error e => exact Or.inl ⟨rfl, trivial⟩
  | ok parsed =>
      cases htarget : s.findTarget parsed.header.ssrc with
      | none => exact Or.inl ⟨by simp [htarget], by simp [htarget, NoRetransmission]⟩
      | some found =>
          obtain ⟨index, current⟩ := found
          obtain ⟨hat, hssrc⟩ := Impl.findTarget_some htarget
          exact Or.inr ⟨parsed, index, current, rfl, hat, hssrc, by simp [htarget]⟩

theorem nextMedia_mapping (sameSource : Bool) (previous : List MediaRuntimeState)
    (mappings : List MediaMapping) :
    (MediaRuntimeState.nextMedia sameSource previous mappings).map MediaRuntimeState.mapping =
      mappings := by
  induction mappings generalizing previous with
  | nil => rfl
  | cons mapping mappings ih =>
      rw [MediaRuntimeState.nextMedia]
      cases hfind : previous.find? (MediaRuntimeState.continues mapping) with
      | none => simp [ih]
      | some found =>
          have hadopt : (found.adopt sameSource mapping).mapping = mapping := by
            simp only [MediaRuntimeState.adopt]
            split_ifs <;> rfl
          simp [ih, hadopt]

end SimpleWebrtc.RtpRewriter
