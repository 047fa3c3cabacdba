import SimpleWebrtc.RewriterSequence

/-!
# What happens to a section

A run of the rewriter with one log for each section, newest event first: the
packets which a call handed out for the section, and the changes of its primary
source between them. A section a configuration keeps keeps its log. Sections
evolve on their own, so an invariant of a run is one of a single section and
its log, kept by everything that can happen to a section.
-/
namespace SimpleWebrtc.RtpRewriter
open Library Library.Bytes RtpHeaderExtension RtpPacket RewrittenExtensions

/-- A rewritten packet, with the clock rate of its payload type. -/
structure SentPacket where
  rtx : Bool
  sourceSequenceNumber : UInt16
  targetSequenceNumber : UInt16
  sourceTimestamp : UInt32
  targetTimestamp : UInt32
  clockRate : UInt32
deriving DecidableEq

inductive SectionEvent where
  | sourceChanged
  | sent (packet : SentPacket)
deriving DecidableEq

/-- The packets sent since the primary source changed last, newest first. -/
def sinceChange : List SectionEvent → List SentPacket
  | [] => []
  | .sourceChanged :: _ => []
  | .sent packet :: log => packet :: sinceChange log

namespace MediaRuntimeState

/-- What a primary source is recognized by. -/
def primarySource (current : MediaRuntimeState) : Option UInt32 × Option UInt8 × UInt32 :=
  (current.sourcePrimarySsrc, current.sourcePrimaryPayloadType, current.sourceClockRate)

end MediaRuntimeState

def changeEvents (before after : MediaRuntimeState) : List SectionEvent :=
  if before.primarySource = after.primarySource then [] else [.sourceChanged]

/-- The packet a call handed out, as an event of the section it resolved to. -/
def sentEvents (payloadType : PayloadTypeMapping) (result : Except Text RewriteResult) :
    List SectionEvent :=
  match result with
  | .error _ => []
  | .ok result =>
      match result.state with
      | .dropped => []
      | .rewritten =>
          [.sent
            { rtx := result.rtx
              sourceSequenceNumber := result.sourceSequenceNumber
              targetSequenceNumber := result.targetSequenceNumber
              sourceTimestamp := result.sourceTimestamp
              targetTimestamp := result.targetTimestamp
              clockRate := payloadType.clockRate }]

/-- The events a call gives the section at an index. -/
def Impl.callEvents (s : Impl) (packet : List UInt8) (result : Except Text RewriteResult)
    (index : ℕ) : List SectionEvent :=
  match parseRewriteableRtpPacket packet with
  | .error _ => []
  | .ok parsed =>
      match s.resolve parsed with
      | none => []
      | some resolved =>
          if resolved.mediaIndex = index then sentEvents resolved.payloadType result else []

/-- The log of the section at an index after an operation on the sections. -/
def extendLog (media media' : List MediaRuntimeState) (events : ℕ → List SectionEvent)
    (index : ℕ) (log : List SectionEvent) : List SectionEvent :=
  match media[index]?, media'[index]? with
  | some before, some after => events index ++ (changeEvents before after ++ log)
  | _, _ => log

/-- The logs of a new configuration, taken over with the sections. -/
def nextLogs (sameSource : Bool) :
    List MediaRuntimeState → List (List SectionEvent) → List MediaMapping →
    List (List SectionEvent)
  | _, _, [] => []
  | previous, logs, mapping :: mappings =>
      let index := previous.findIdx (MediaRuntimeState.continues mapping)
      match previous.find? (MediaRuntimeState.continues mapping), logs[index]? with
      | some found, some log =>
          (changeEvents found (found.adopt sameSource mapping) ++ log) ::
            nextLogs sameSource (previous.modify index MediaRuntimeState.movedFrom)
              (logs.set index []) mappings
      | _, _ => [] :: nextLogs sameSource previous logs mappings

structure SectionRun where
  rewriter : Impl := {}
  logs : List (List SectionEvent) := []
deriving DecidableEq

namespace SectionRun

def step (r : SectionRun) : Operation → Option SectionRun
  | .setConfig config =>
      let sameSource := r.rewriter.sourceAvailable &&
        decide (r.rewriter.sourceSessionId = config.sourceSessionId)
      some
        { rewriter := r.rewriter.setConfig config
          logs := nextLogs sameSource r.rewriter.media r.logs config.media }
  | .clearSource =>
      let rewriter := r.rewriter.clearSource
      some ⟨rewriter, r.logs.mapIdx (extendLog r.rewriter.media rewriter.media fun _ => [])⟩
  | .rewrite packet transportSequenceNumber =>
      let (rewriter, result) := r.rewriter.rewrite packet transportSequenceNumber
      some ⟨rewriter, r.logs.mapIdx
        (extendLog r.rewriter.media rewriter.media (r.rewriter.callEvents packet result))⟩
  | .buildRetransmission packet transportSequenceNumber =>
      some { r with rewriter := (r.rewriter.buildRetransmission packet transportSequenceNumber).1 }

def initial (r : SectionRun) : Prop := r = {}

def system : EventSystem SectionRun Operation := .ofStep initial step

/-- Every section meets an invariant together with its log. -/
def Sections (Inv : MediaRuntimeState → List SectionEvent → Prop) (r : SectionRun) : Prop :=
  List.Forall₂ Inv r.rewriter.media r.logs

end SectionRun

/-! ## One section at a time -/

/-- An invariant of a section and its log which everything but a call keeps. -/
structure SectionRules (Inv : MediaRuntimeState → List SectionEvent → Prop) : Prop where
  fresh : ∀ mapping, Inv { mapping } []
  moved : ∀ {m log}, Inv m log → Inv m.movedFrom []
  adopt : ∀ {m log} (sameSource : Bool) {mapping},
    MediaRuntimeState.continues mapping m = true → Inv m log →
    Inv (m.adopt sameSource mapping) (changeEvents m (m.adopt sameSource mapping) ++ log)
  clear : ∀ {m log}, Inv m log →
    Inv m.clearSourceState (changeEvents m m.clearSourceState ++ log)
  allocate : ∀ {m log}, Inv m log → Inv (m.allocateSequenceNumber true).2 log

/-- A call keeps the invariant of the section it works on. -/
def RewriteKeeps (Inv : MediaRuntimeState → List SectionEvent → Prop) (r : SectionRun)
    (packet : List UInt8) (transportSequenceNumber : UInt16) : Prop :=
  ∀ parsed resolved bound log, parseRewriteableRtpPacket packet = .ok parsed →
    r.rewriter.resolve parsed = some resolved →
    bindSource r.rewriter.bindings parsed resolved = some bound →
    (r.rewriter.rewrite packet transportSequenceNumber).2 =
      (rewriteBound bound packet parsed resolved.payloadType transportSequenceNumber).2 →
    r.logs[resolved.mediaIndex]? = some log → Inv resolved.current log →
    Inv (rewriteBound bound packet parsed resolved.payloadType transportSequenceNumber).1
      (sentEvents resolved.payloadType
          (rewriteBound bound packet parsed resolved.payloadType transportSequenceNumber).2 ++
        (changeEvents resolved.current
          (rewriteBound bound packet parsed resolved.payloadType transportSequenceNumber).1 ++ log))

theorem forall₂_iff_getElem? {α β : Type*} {R : α → β → Prop} {xs : List α} {ys : List β} :
    List.Forall₂ R xs ys ↔ ∀ i : ℕ, Option.Rel R xs[i]? ys[i]? := by
  constructor
  · intro h
    induction h with
    | nil => intro i; exact .none
    | cons hhead _ ih =>
        intro i
        cases i with
        | zero => exact .some hhead
        | succ i => exact ih i
  · intro h
    induction xs generalizing ys with
    | nil =>
        cases ys with
        | nil => exact .nil
        | cons y ys => cases h 0
    | cons x xs ih =>
        cases ys with
        | nil => cases h 0
        | cons y ys =>
            refine .cons ?_ (ih fun i => h (i + 1))
            cases h 0 with
            | some hhead => exact hhead

theorem rel_some_left {α β : Type*} {R : α → β → Prop} {x : α} {o : Option β}
    (h : Option.Rel R (some x) o) : ∃ y, o = some y ∧ R x y := by
  cases h with
  | some hrel => exact ⟨_, rfl, hrel⟩

theorem rel_some_right {α β : Type*} {R : α → β → Prop} {o : Option α} {y : β}
    (h : Option.Rel R o (some y)) : ∃ x, o = some x ∧ R x y := by
  cases h with
  | some hrel => exact ⟨_, rfl, hrel⟩

theorem changeEvents_self (m : MediaRuntimeState) : changeEvents m m = [] := by
  simp [changeEvents]

theorem nextLogs_sections {Inv : MediaRuntimeState → List SectionEvent → Prop}
    (hrules : SectionRules Inv) (sameSource : Bool) (mappings : List MediaMapping)
    {previous : List MediaRuntimeState} {logs : List (List SectionEvent)}
    (h : List.Forall₂ Inv previous logs) :
    List.Forall₂ Inv (MediaRuntimeState.nextMedia sameSource previous mappings)
      (nextLogs sameSource previous logs mappings) := by
  induction mappings generalizing previous logs with
  | nil => exact .nil
  | cons mapping mappings ih =>
      rw [MediaRuntimeState.nextMedia, nextLogs]
      cases hfind : previous.find? (MediaRuntimeState.continues mapping) with
      | none => exact .cons (hrules.fresh mapping) (ih h)
      | some found =>
          have hcontinues := List.find?_some hfind
          have hat : previous[previous.findIdx (MediaRuntimeState.continues mapping)]? =
              some found := List.find?_eq_getElem?_findIdx ▸ hfind
          have hrel := forall₂_iff_getElem?.mp h
            (previous.findIdx (MediaRuntimeState.continues mapping))
          rw [hat] at hrel
          obtain ⟨log, hlog, hinv⟩ := rel_some_left hrel
          simp only [hlog]
          refine .cons (hrules.adopt sameSource hcontinues hinv) (ih ?_)
          rw [forall₂_iff_getElem?]
          intro i
          have hi := forall₂_iff_getElem?.mp h i
          by_cases heq : previous.findIdx (MediaRuntimeState.continues mapping) = i
          · subst heq
            rw [List.getElem?_modify_eq, hat, List.getElem?_set_self', hlog]
            exact .some (hrules.moved hinv)
          · rw [List.getElem?_modify_ne _ _ heq, List.getElem?_set_ne heq]
            exact hi

/-- Sections which change in place, each with its log. -/
theorem forall₂_mapIdx {α β : Type*} {R : α → β → Prop} {xs xs' : List α} {ys : List β}
    {f : ℕ → β → β} (h : List.Forall₂ R xs ys) (hlength : xs'.length = xs.length)
    (hnew : ∀ i x x' y, xs[i]? = some x → xs'[i]? = some x' → ys[i]? = some y → R x y →
      R x' (f i y)) : List.Forall₂ R xs' (ys.mapIdx f) := by
  rw [List.forall₂_iff_get]
  refine ⟨by rw [hlength, h.length_eq, List.length_mapIdx], ?_⟩
  intro i hi hi'
  have hx : i < xs.length := hlength ▸ hi
  have hy : i < ys.length := h.length_eq ▸ hx
  simp only [List.get_eq_getElem, List.getElem_mapIdx]
  exact hnew i xs[i] xs'[i] ys[i] (List.getElem?_eq_getElem hx) (List.getElem?_eq_getElem hi)
    (List.getElem?_eq_getElem hy) ((List.forall₂_iff_get.mp h).2 i hx hy)

theorem clearSource_sections {Inv : MediaRuntimeState → List SectionEvent → Prop}
    (hrules : SectionRules Inv) {media : List MediaRuntimeState}
    {logs : List (List SectionEvent)} (h : List.Forall₂ Inv media logs) :
    List.Forall₂ Inv (media.map MediaRuntimeState.clearSourceState)
      (logs.mapIdx (extendLog media (media.map MediaRuntimeState.clearSourceState)
        fun _ => [])) := by
  refine forall₂_mapIdx h (List.length_map _) ?_
  intro i m m' log hm hm' _ hinv
  rw [List.getElem?_map, hm, Option.map_some, Option.some.injEq] at hm'
  subst hm'
  simp only [extendLog, List.getElem?_map, hm, Option.map_some, List.nil_append]
  exact hrules.clear hinv

/-- A call touches the section it resolved to, and no other. -/
theorem set_sections {Inv : MediaRuntimeState → List SectionEvent → Prop}
    {media : List MediaRuntimeState} {logs : List (List SectionEvent)}
    (h : List.Forall₂ Inv media logs) {index : ℕ} {before after : MediaRuntimeState}
    (hat : media[index]? = some before) {events : ℕ → List SectionEvent}
    (hother : ∀ i, i ≠ index → events i = [])
    (hnew : ∀ log, logs[index]? = some log → Inv before log →
      Inv after (events index ++ (changeEvents before after ++ log))) :
    List.Forall₂ Inv (media.set index after)
      (logs.mapIdx (extendLog media (media.set index after) events)) := by
  refine forall₂_mapIdx h List.length_set ?_
  intro i m m' log hm hm' hlog hinv
  obtain ⟨hlt, -⟩ := List.getElem?_eq_some_iff.mp hat
  by_cases heq : index = i
  · subst heq
    rw [List.getElem?_set_self hlt, Option.some.injEq] at hm'
    rw [hat, Option.some.injEq] at hm
    subst hm hm'
    simp only [extendLog, hat, List.getElem?_set_self hlt]
    exact hnew log hlog hinv
  · rw [List.getElem?_set_ne heq, hm, Option.some.injEq] at hm'
    subst hm'
    simp only [extendLog, List.getElem?_set_ne heq, hm, hother i (Ne.symm heq),
      changeEvents_self, List.nil_append]
    exact hinv

theorem sentEvents_noPacket {result : Except Text RewriteResult} (h : NoPacket result)
    (payloadType : PayloadTypeMapping) : sentEvents payloadType result = [] := by
  cases result with
  | error e => rfl
  | ok result =>
      have hstate : result.state = .dropped := h
      simp [sentEvents, hstate]

theorem callEvents_noPacket (s : Impl) (packet : List UInt8) {result : Except Text RewriteResult}
    (h : NoPacket result) (index : ℕ) : s.callEvents packet result index = [] := by
  unfold Impl.callEvents
  split
  · rfl
  · split
    · rfl
    · rw [sentEvents_noPacket h, ite_self]

theorem allocate_changeEvents (m : MediaRuntimeState) :
    changeEvents m (m.allocateSequenceNumber true).2 = [] := by
  simp [changeEvents, MediaRuntimeState.primarySource, MediaRuntimeState.allocateSequenceNumber]

namespace SectionRun

/-- The section a packet resolves to meets an invariant of the sections. -/
theorem Sections.resolved {Inv : MediaRuntimeState → List SectionEvent → Prop} {r : SectionRun}
    (h : r.Sections Inv) {parsed : ParsedRtpPacket} {resolved : ResolvedMedia}
    (hresolve : r.rewriter.resolve parsed = some resolved) :
    ∃ log, r.logs[resolved.mediaIndex]? = some log ∧ Inv resolved.current log := by
  have hrel := forall₂_iff_getElem?.mp h resolved.mediaIndex
  rw [(Impl.resolve_some hresolve).1] at hrel
  exact rel_some_left hrel

/-- Every operation keeps an invariant of the sections when its calls do. -/
theorem step_sections {Inv : MediaRuntimeState → List SectionEvent → Prop}
    (hrules : SectionRules Inv) {r r' : SectionRun} {operation : Operation}
    (hrewrite : ∀ packet transportSequenceNumber,
      operation = .rewrite packet transportSequenceNumber →
      RewriteKeeps Inv r packet transportSequenceNumber)
    (h : r.Sections Inv) (hstep : r.step operation = some r') : r'.Sections Inv := by
  unfold Sections at h ⊢
  cases operation with
  | setConfig config =>
      obtain rfl := Option.some.inj hstep
      exact nextLogs_sections hrules _ _ h
  | clearSource =>
      obtain rfl := Option.some.inj hstep
      exact clearSource_sections hrules h
  | rewrite packet transportSequenceNumber =>
      have hr' : r' = ⟨(r.rewriter.rewrite packet transportSequenceNumber).1, r.logs.mapIdx
          (extendLog r.rewriter.media (r.rewriter.rewrite packet transportSequenceNumber).1.media
            (r.rewriter.callEvents packet
              (r.rewriter.rewrite packet transportSequenceNumber).2))⟩ :=
        (Option.some.inj hstep).symm
      rw [hr']
      have hkeeps := hrewrite packet transportSequenceNumber rfl
      rcases r.rewriter.rewrite_cases packet transportSequenceNumber with ⟨hsame, hnone⟩ |
        ⟨parsed, resolved, bound, hparse, hresolve, hbind, heq⟩
      · rw [hsame]
        refine forall₂_mapIdx h rfl ?_
        intro i m m' log hm hm' _ hinv
        rw [hm, Option.some.injEq] at hm'
        subst hm'
        simp only [extendLog, hm, callEvents_noPacket _ _ hnone, changeEvents_self,
          List.nil_append]
        exact hinv
      · rw [heq]
        refine set_sections h (Impl.resolve_some hresolve).1 ?_ ?_
        · intro i hi
          simp [Impl.callEvents, hparse, hresolve, Ne.symm hi]
        · intro log hlog hinv
          simp only [Impl.callEvents, hparse, hresolve, if_true]
          exact hkeeps parsed resolved bound log hparse hresolve hbind (by rw [heq]) hlog hinv
  | buildRetransmission packet transportSequenceNumber =>
      obtain rfl := Option.some.inj hstep
      rcases r.rewriter.buildRetransmission_cases packet transportSequenceNumber with
        ⟨hsame, -⟩ | ⟨parsed, index, current, -, hat, -, heq⟩
      · simp only [hsame]
        exact h
      · rw [forall₂_iff_getElem?]
        intro i
        have hi := forall₂_iff_getElem?.mp h i
        obtain ⟨hlt, -⟩ := List.getElem?_eq_some_iff.mp hat
        simp only [heq]
        by_cases hindex : index = i
        · subst hindex
          rw [hat] at hi
          obtain ⟨log, hlog, hinv⟩ := rel_some_left hi
          rw [List.getElem?_set_self hlt, hlog]
          rcases retransmit_cases current packet parsed transportSequenceNumber with
            ⟨hcurrent, -⟩ | ⟨hcurrent, -⟩
          · rw [hcurrent]
            exact .some hinv
          · rw [hcurrent]
            exact .some (hrules.allocate hinv)
        · rw [List.getElem?_set_ne hindex]
          exact hi

/-- An invariant of the sections holds in every run whose calls keep it. -/
theorem run_sections {Inv : MediaRuntimeState → List SectionEvent → Prop}
    (hrules : SectionRules Inv) {condition : SectionRun → Operation → Prop}
    (hrewrite : ∀ r packet transportSequenceNumber,
      condition r (.rewrite packet transportSequenceNumber) →
      RewriteKeeps Inv r packet transportSequenceNumber)
    {operations : List Operation} {r : SectionRun}
    (h : (system.restrict condition).Run operations r) : r.Sections Inv := by
  refine h.invariant ?_ ?_
  · rintro s rfl
    exact .nil
  · rintro s operation s' hs ⟨hcondition, hstep⟩
    refine step_sections hrules ?_ hs hstep
    rintro packet transportSequenceNumber rfl
    exact hrewrite s packet transportSequenceNumber hcondition

end SectionRun

/-! ## The source of a section -/

/-- A section without a source has sent nothing since the last change, and one
with a source knows how to translate its timestamps. -/
structure SourceInvariant (m : MediaRuntimeState) (log : List SectionEvent) : Prop where
  sourceless : m.sourcePrimarySsrc = none → m.primarySource = (none, none, 0)
  silent : m.sourcePrimarySsrc = none → sinceChange log = []
  anchored : m.sourcePrimarySsrc.isSome = true → m.sourceTimestampAnchor.isSome = true
  timed : m.sourceTimestampAnchor.isSome = true → m.timestampInitialized = true

theorem source_of_not_changed {parsed : ParsedRtpPacket} {resolved : ResolvedMedia}
    (h : sourceChanged parsed resolved = false) :
    resolved.current.sourcePrimarySsrc = some parsed.header.ssrc := by
  simp only [sourceChanged, Bool.or_eq_false_iff, decide_eq_false_iff_not, not_not] at h
  exact h.1.1

/-- A call works for the source a section has, or begins a new one. -/
theorem bindSource_cases {bindings : AssocMap UInt32 SourceSsrcBinding}
    {parsed : ParsedRtpPacket} {resolved : ResolvedMedia} {bound : BoundSource}
    (hanchored : resolved.current.sourcePrimarySsrc.isSome = true →
      resolved.current.sourceTimestampAnchor.isSome = true)
    (h : bindSource bindings parsed resolved = some bound) :
    (resolved.current.sourcePrimarySsrc.isSome = true ∧
      (resolved.payloadType.rtx = false → sourceChanged parsed resolved = false) ∧
      ∃ rtxSsrc, bound.current = { resolved.current with sourceRtxSsrc := rtxSsrc }) ∨
    (resolved.payloadType.rtx = false ∧ sourceChanged parsed resolved = true ∧
      bound.current = resolved.current.beginPrimarySource parsed.header.ssrc
        parsed.header.payloadType parsed.header.timestamp resolved.payloadType.clockRate) := by
  unfold bindSource at h
  cases hrtx : resolved.payloadType.rtx with
  | true =>
      left
      rw [hrtx, if_pos rfl] at h
      unfold bindRtx at h
      simp only at h
      split_ifs at h with hnone hsame
      · obtain rfl := Option.some.inj h
        exact ⟨Option.isSome_iff_ne_none.mpr hnone, by simp, _, rfl⟩
      · obtain rfl := Option.some.inj h
        exact ⟨Option.isSome_iff_ne_none.mpr hnone, by simp, _, rfl⟩
  | false =>
      rw [hrtx, if_neg Bool.false_ne_true, Option.some.injEq] at h
      subst h
      unfold bindPrimary
      simp only
      split_ifs with hchanged hanchor
      · exact Or.inr ⟨trivial, hchanged, rfl⟩
      · have hsame := Bool.eq_false_iff.mpr hchanged
        have hsome := hanchored (by rw [source_of_not_changed hsame]; rfl)
        simp only [Option.isNone_iff_eq_none] at hanchor
        rw [hanchor] at hsome
        cases hsome
      · have hsame := Bool.eq_false_iff.mpr hchanged
        exact Or.inl ⟨by rw [source_of_not_changed hsame]; rfl, fun _ => hsame, _, rfl⟩

theorem begin_changeEvents {parsed : ParsedRtpPacket} {resolved : ResolvedMedia}
    (h : sourceChanged parsed resolved = true) {after : MediaRuntimeState}
    (hafter : after.primarySource = (some parsed.header.ssrc, some parsed.header.payloadType,
      resolved.payloadType.clockRate)) :
    changeEvents resolved.current after = [.sourceChanged] := by
  have hne : resolved.current.primarySource ≠ after.primarySource := by
    rw [hafter]
    intro heq
    simp only [MediaRuntimeState.primarySource, Prod.mk.injEq] at heq
    simp [sourceChanged, heq.1, heq.2.1, heq.2.2] at h
  rw [changeEvents, if_neg hne]

namespace MediaRuntimeState

/-- The target timestamp of a source timestamp on the timeline a section has. -/
def timestampOf (current : MediaRuntimeState) (sourceTimestamp : UInt32) : UInt32 :=
  current.targetTimestampAnchor + (sourceTimestamp - current.sourceTimestampAnchor.getD 0)

end MediaRuntimeState

def newerTimestamp (value reference : UInt32) : UInt32 :=
  if timestampIsNewer value reference then value else reference

/-- How a packet with this timestamp moves a section on its timeline. -/
structure Advanced (before after : MediaRuntimeState) (sourceTimestamp : UInt32) : Prop where
  mapping : after.mapping = before.mapping
  primarySource : after.primarySource = before.primarySource
  sourceTimestampAnchor : after.sourceTimestampAnchor = before.sourceTimestampAnchor
  targetTimestampAnchor : after.targetTimestampAnchor = before.targetTimestampAnchor
  timestampInitialized : after.timestampInitialized = before.timestampInitialized
  lastTargetTimestamp : after.lastTargetTimestamp =
    newerTimestamp (before.timestampOf sourceTimestamp) before.lastTargetTimestamp

theorem Advanced.sourcePrimarySsrc {before after : MediaRuntimeState} {sourceTimestamp : UInt32}
    (h : Advanced before after sourceTimestamp) :
    after.sourcePrimarySsrc = before.sourcePrimarySsrc := congrArg Prod.fst h.primarySource

theorem translateTimestamp_anchored {current : MediaRuntimeState}
    (h : current.sourceTimestampAnchor.isSome = true) (sourceTimestamp : UInt32) :
    current.translateTimestamp sourceTimestamp = (current.timestampOf sourceTimestamp,
      { current with
        lastTargetTimestamp := newerTimestamp (current.timestampOf sourceTimestamp)
          current.lastTargetTimestamp }) := by
  simp only [MediaRuntimeState.translateTimestamp, MediaRuntimeState.anchored, h, if_true,
    MediaRuntimeState.timestampOf, newerTimestamp]
  split_ifs with hnewer
  · simp [hnewer]
  · simp [hnewer]

/-- What the last part of a call does to a section with a source. -/
theorem emit_advanced (bound : BoundSource) (packet : List UInt8) (parsed : ParsedRtpPacket)
    (payloadType : PayloadTypeMapping) (transportSequenceNumber : UInt16)
    (original : Option UInt16) (h : bound.current.sourceTimestampAnchor.isSome = true) :
    Advanced bound.current
      (emit bound packet parsed payloadType transportSequenceNumber original).1
      parsed.header.timestamp := by
  have hallocate : (bound.current.allocateSequenceNumber
      payloadType.rtx).2.sourceTimestampAnchor.isSome = true := by
    cases payloadType.rtx <;> exact h
  have hadvanced : Advanced bound.current ((bound.current.allocateSequenceNumber
      payloadType.rtx).2.translateTimestamp parsed.header.timestamp).2
      parsed.header.timestamp := by
    rw [translateTimestamp_anchored hallocate]
    cases payloadType.rtx <;> exact ⟨rfl, rfl, rfl, rfl, rfl, rfl⟩
  simp only [emit]
  cases extensionBlockFor parsed bound.current.mapping transportSequenceNumber with
  | error e => exact hadvanced
  | ok block =>
      cases original with
      | some number => exact hadvanced
      | none =>
          exact ⟨hadvanced.mapping, hadvanced.primarySource, hadvanced.sourceTimestampAnchor,
            hadvanced.targetTimestampAnchor, hadvanced.timestampInitialized,
            hadvanced.lastTargetTimestamp⟩

theorem emit_timestamp {bound : BoundSource} {packet : List UInt8} {parsed : ParsedRtpPacket}
    {payloadType : PayloadTypeMapping} {transportSequenceNumber : UInt16}
    {original : Option UInt16} {result : RewriteResult}
    (h : bound.current.sourceTimestampAnchor.isSome = true)
    (hresult : (emit bound packet parsed payloadType transportSequenceNumber original).2 =
      .ok result) :
    result.targetTimestamp = bound.current.timestampOf parsed.header.timestamp := by
  have hallocate : (bound.current.allocateSequenceNumber
      payloadType.rtx).2.sourceTimestampAnchor.isSome = true := by
    cases payloadType.rtx <;> exact h
  have htimestamp : ((bound.current.allocateSequenceNumber
      payloadType.rtx).2.translateTimestamp parsed.header.timestamp).1 =
      bound.current.timestampOf parsed.header.timestamp := by
    rw [translateTimestamp_anchored hallocate]
    cases payloadType.rtx <;> rfl
  simp only [emit] at hresult
  cases hblock : extensionBlockFor parsed bound.current.mapping transportSequenceNumber with
  | error e => simp [hblock] at hresult
  | ok block =>
      simp only [hblock, Except.ok.injEq] at hresult
      rw [← hresult]
      exact htimestamp

/-- Only a primary packet which is handed out enters the cache. -/
theorem emit_cache (bound : BoundSource) (packet : List UInt8) (parsed : ParsedRtpPacket)
    (payloadType : PayloadTypeMapping) (transportSequenceNumber : UInt16)
    (original : Option UInt16) (h : bound.current.sourceTimestampAnchor.isSome = true) :
    (emit bound packet parsed payloadType transportSequenceNumber
        original).1.primarySequenceNumbers =
      if original = none ∧ (emit bound packet parsed payloadType transportSequenceNumber
          original).2.isOk = true then
        bound.current.primarySequenceNumbers.remember parsed.header.sequenceNumber
          (bound.current.sequenceNumber payloadType.rtx)
      else bound.current.primarySequenceNumbers := by
  have hallocate : ∀ rtx, (bound.current.allocateSequenceNumber
      rtx).2.sourceTimestampAnchor.isSome = true := by
    intro rtx
    cases rtx <;> exact h
  have hcache : ∀ rtx, ((bound.current.allocateSequenceNumber rtx).2.translateTimestamp
      parsed.header.timestamp).2.primarySequenceNumbers =
      bound.current.primarySequenceNumbers := by
    intro rtx
    rw [translateTimestamp_anchored (hallocate rtx)]
    cases rtx <;> rfl
  have hnumber : (bound.current.allocateSequenceNumber payloadType.rtx).1 =
      bound.current.sequenceNumber payloadType.rtx := by
    cases payloadType.rtx <;> rfl
  cases hblock : extensionBlockFor parsed bound.current.mapping transportSequenceNumber with
  | error e => simp [emit, hblock, Except.isOk, Except.toBool, hcache]
  | ok block =>
      cases original with
      | some number => simp [emit, hblock, hcache]
      | none => simp [emit, hblock, Except.isOk, Except.toBool, hcache, hnumber]

/-- The events of a call behind its last check. -/
theorem sentEvents_emit {bound : BoundSource} {packet : List UInt8} {parsed : ParsedRtpPacket}
    {payloadType : PayloadTypeMapping} {transportSequenceNumber : UInt16}
    {original : Option UInt16} (h : bound.current.sourceTimestampAnchor.isSome = true) :
    sentEvents payloadType
        (emit bound packet parsed payloadType transportSequenceNumber original).2 =
      if (emit bound packet parsed payloadType transportSequenceNumber original).2.isOk = true then
        [.sent
          { rtx := payloadType.rtx
            sourceSequenceNumber := parsed.header.sequenceNumber
            targetSequenceNumber := bound.current.sequenceNumber payloadType.rtx
            sourceTimestamp := parsed.header.timestamp
            targetTimestamp := bound.current.timestampOf parsed.header.timestamp
            clockRate := payloadType.clockRate }]
      else [] := by
  cases hresult : (emit bound packet parsed payloadType transportSequenceNumber original).2 with
  | error e => simp [sentEvents, Except.isOk, Except.toBool]
  | ok result =>
      obtain ⟨block, targetTimestamp, -, hfields⟩ := emit_result hresult
      have htimestamp := emit_timestamp h hresult
      subst hfields
      simp only [rewrittenResult] at htimestamp
      simp [sentEvents, rewrittenResult, Except.isOk, Except.toBool, htimestamp]

/-- A section a configuration keeps continues its source, or loses it. -/
theorem adopt_cases (m : MediaRuntimeState) (sameSource : Bool) (mapping : MediaMapping) :
    ∃ initialized next, m.adopt sameSource mapping =
        { m with
          mapping
          rtxSequenceInitialized := initialized
          nextRtxSequenceNumber := next } ∨
      m.adopt sameSource mapping =
        ({ m with
            mapping
            rtxSequenceInitialized := initialized
            nextRtxSequenceNumber := next } : MediaRuntimeState).clearSourceState := by
  simp only [MediaRuntimeState.adopt]
  split_ifs
  · exact ⟨_, _, Or.inr rfl⟩
  · exact ⟨_, _, Or.inr rfl⟩
  · exact ⟨_, _, Or.inl rfl⟩
  · exact ⟨_, _, Or.inl rfl⟩

theorem changeEvents_eq_nil {before after : MediaRuntimeState}
    (h : after.primarySource = before.primarySource) : changeEvents before after = [] := by
  rw [changeEvents, if_pos h.symm]

theorem changeEvents_congr {before after after' : MediaRuntimeState}
    (h : after.primarySource = after'.primarySource) :
    changeEvents before after = changeEvents before after' := by
  rw [changeEvents, changeEvents, h]

namespace SourceInvariant

/-- A section which loses its source has sent nothing since. -/
theorem lose {m after : MediaRuntimeState} {log : List SectionEvent} (h : SourceInvariant m log)
    (hsource : after.primarySource = (none, none, 0)) (hanchor : after.sourceTimestampAnchor = none) :
    SourceInvariant after (changeEvents m after ++ log) := by
  have hnone : after.sourcePrimarySsrc = none := congrArg Prod.fst hsource
  refine ⟨fun _ => hsource, fun _ => ?_, by simp [hnone], by simp [hanchor]⟩
  unfold changeEvents
  split_ifs with hsame
  · exact h.silent (by rw [hsource] at hsame; exact congrArg Prod.fst hsame)
  · rfl

/-- A section with a source and a timeline. -/
theorem ready {m : MediaRuntimeState} {log : List SectionEvent}
    (hsource : m.sourcePrimarySsrc.isSome = true)
    (hanchor : m.sourceTimestampAnchor.isSome = true) (htimed : m.timestampInitialized = true) :
    SourceInvariant m log := by
  have hne : m.sourcePrimarySsrc ≠ none := Option.isSome_iff_ne_none.mp hsource
  exact ⟨fun h => absurd h hne, fun h => absurd h hne, fun _ => hanchor, fun _ => htimed⟩

theorem rules : SectionRules SourceInvariant where
  fresh mapping := ⟨fun _ => rfl, fun _ => rfl, fun h => h, fun h => by simp at h⟩
  moved h := ⟨h.sourceless, fun _ => rfl, h.anchored, h.timed⟩
  adopt {m log} sameSource mapping _ h := by
    obtain ⟨initialized, next, heq | heq⟩ := adopt_cases m sameSource mapping
    · rw [heq, changeEvents_eq_nil (by rfl)]
      exact ⟨h.sourceless, h.silent, h.anchored, h.timed⟩
    · rw [heq]
      exact h.lose rfl rfl
  clear h := h.lose rfl rfl
  allocate h := ⟨h.sourceless, h.silent, h.anchored, h.timed⟩

/-- Once a call has bound its source, the section is ready to translate. -/
theorem bound {bindings : AssocMap UInt32 SourceSsrcBinding} {parsed : ParsedRtpPacket}
    {resolved : ResolvedMedia} {bound : BoundSource} {log : List SectionEvent}
    (h : SourceInvariant resolved.current log)
    (hbind : bindSource bindings parsed resolved = some bound) :
    bound.current.sourcePrimarySsrc.isSome = true ∧
      bound.current.sourceTimestampAnchor.isSome = true ∧
      bound.current.timestampInitialized = true := by
  rcases bindSource_cases h.anchored hbind with ⟨hsome, -, rtxSsrc, heq⟩ | ⟨-, -, heq⟩
  · rw [heq]
    exact ⟨hsome, h.anchored hsome, h.timed (h.anchored hsome)⟩
  · rw [heq]
    exact ⟨rfl, rfl, rfl⟩

theorem rewrite (r : SectionRun) (packet : List UInt8) (transportSequenceNumber : UInt16) :
    RewriteKeeps SourceInvariant r packet transportSequenceNumber := by
  intro parsed resolved bound log _ _ hbind _ _ h
  obtain ⟨hsource, hanchor, htimed⟩ := h.bound hbind
  rcases rewriteBound_cases bound packet parsed resolved.payloadType transportSequenceNumber with
    ⟨hcurrent, -⟩ | ⟨original, -, -, -, hemit⟩
  · rw [hcurrent]
    exact ready hsource hanchor htimed
  · rw [hemit]
    have hadvanced := emit_advanced bound packet parsed resolved.payloadType
      transportSequenceNumber original hanchor
    exact ready (by rw [hadvanced.sourcePrimarySsrc]; exact hsource)
      (by rw [hadvanced.sourceTimestampAnchor]; exact hanchor)
      (by rw [hadvanced.timestampInitialized]; exact htimed)

end SourceInvariant

theorem SectionRun.run_source {operations : List Operation} {r : SectionRun}
    (h : SectionRun.system.Run operations r) : r.Sections SourceInvariant := by
  refine h.invariant ?_ ?_
  · rintro s rfl
    exact .nil
  · intro s operation s' hs hstep
    exact step_sections SourceInvariant.rules
      (fun packet transportSequenceNumber _ => SourceInvariant.rewrite s packet
        transportSequenceNumber) hs hstep

theorem SectionRun.Sections.mem {Inv : MediaRuntimeState → List SectionEvent → Prop}
    {r : SectionRun} (h : r.Sections Inv) {m : MediaRuntimeState} (hm : m ∈ r.rewriter.media) :
    ∃ log, Inv m log := by
  obtain ⟨i, hi⟩ := List.mem_iff_getElem?.mp hm
  have hrel := forall₂_iff_getElem?.mp h i
  rw [hi] at hrel
  obtain ⟨log, -, hinv⟩ := rel_some_left hrel
  exact ⟨log, hinv⟩

theorem SectionRun.Sections.of_log {Inv : MediaRuntimeState → List SectionEvent → Prop}
    {r : SectionRun} (h : r.Sections Inv) {log : List SectionEvent} (hlog : log ∈ r.logs) :
    ∃ m, Inv m log := by
  obtain ⟨i, hi⟩ := List.mem_iff_getElem?.mp hlog
  have hrel := forall₂_iff_getElem?.mp h i
  rw [hi] at hrel
  obtain ⟨m, -, hinv⟩ := rel_some_right hrel
  exact ⟨m, hinv⟩

end SimpleWebrtc.RtpRewriter
