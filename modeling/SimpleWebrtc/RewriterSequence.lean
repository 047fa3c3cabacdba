import SimpleWebrtc.RewriterRuns

/-!
# Output sequence numbers

A section which every configuration keeps numbers its packets without a gap:
the primary packets in one space, the RTX packets of both producers in another,
each from the initial number of its SSRC, whatever happens to the source. A
retransmission for a subscriber without RTX repeats the number of the packet it
resends and takes none of its own.
-/
namespace SimpleWebrtc.RtpRewriter
open Library Library.Bytes RtpHeaderExtension RtpPacket RewrittenExtensions

/-- What identifies a section across configurations. -/
structure SectionKey where
  kind : Text
  targetSsrc : UInt32
  targetRtxSsrc : UInt32
deriving DecidableEq

namespace SectionKey

def Matches (key : SectionKey) (mapping : MediaMapping) : Prop :=
  mapping.kind = key.kind ∧ mapping.targetSsrc = key.targetSsrc ∧
    mapping.targetRtxSsrc = key.targetRtxSsrc

instance (key : SectionKey) (mapping : MediaMapping) : Decidable (key.Matches mapping) :=
  inferInstanceAs (Decidable (_ ∧ _ ∧ _))

/-- The first number of a section's primary or RTX space. -/
def first (key : SectionKey) (rtx : Bool) : UInt16 :=
  makeInitialSequenceNumber (if rtx then key.targetRtxSsrc else key.targetSsrc)

/-- Whether an emission takes a number of the section's primary or RTX space. -/
def numbered (key : SectionKey) (rtx : Bool) (e : Emission) : Bool :=
  decide (e.targetSsrc = key.targetSsrc) && decide (e.rtx = rtx) && (rtx || e.resends.isNone)

def numbers (key : SectionKey) (rtx : Bool) (emitted : List Emission) : List UInt16 :=
  (emitted.filter (key.numbered rtx)).map Emission.sequenceNumber

end SectionKey

/-- The numbers count up from the first one, modulo 2^16. -/
def Consecutive (first : UInt16) (numbers : List UInt16) : Prop :=
  numbers = (List.range numbers.length).map fun i => first + UInt16.ofNat i

theorem Consecutive.push {first : UInt16} {numbers : List UInt16} (h : Consecutive first numbers) :
    Consecutive first (numbers ++ [first + UInt16.ofNat numbers.length]) := by
  unfold Consecutive at h ⊢
  rw [List.length_append, List.length_singleton, List.range_succ, List.map_append, ← h]
  rfl

def ValidConfig (config : RewriterConfig) : Prop :=
  (config.media.map MediaMapping.targetSsrc).Nodup ∧ ∀ m ∈ config.media, m.targetSsrc ≠ 0

instance (config : RewriterConfig) : Decidable (ValidConfig config) :=
  inferInstanceAs (Decidable (_ ∧ _))

/-- The operations of a run which keeps a section and in which no call fails. -/
def SectionKey.Keeps (key : SectionKey) (r : RewriterRun) : Operation → Prop
  | .setConfig config => ValidConfig config ∧ ∃ m ∈ config.media, key.Matches m
  | .clearSource => True
  | .rewrite packet transportSequenceNumber =>
      (r.rewriter.rewrite packet transportSequenceNumber).2.isOk = true
  | .buildRetransmission packet transportSequenceNumber =>
      (r.rewriter.buildRetransmission packet transportSequenceNumber).2.isOk = true

instance (key : SectionKey) (r : RewriterRun) (operation : Operation) :
    Decidable (key.Keeps r operation) := by
  cases operation with
  | setConfig config => exact inferInstanceAs (Decidable (_ ∧ _))
  | clearSource => exact inferInstanceAs (Decidable True)
  | rewrite packet transportSequenceNumber => exact inferInstanceAs (Decidable (_ = true))
  | buildRetransmission packet transportSequenceNumber =>
      exact inferInstanceAs (Decidable (_ = true))

namespace MediaRuntimeState

theorem sequenceNumber_congr {a b : MediaRuntimeState} (hspaces : a.spaces = b.spaces)
    (hssrc : a.mapping.targetSsrc = b.mapping.targetSsrc)
    (hrtx : a.mapping.targetRtxSsrc = b.mapping.targetRtxSsrc) (rtx : Bool) :
    a.sequenceNumber rtx = b.sequenceNumber rtx := by
  have h₁ := congrArg SequenceSpaces.primarySequenceInitialized hspaces
  have h₂ := congrArg SequenceSpaces.rtxSequenceInitialized hspaces
  have h₃ := congrArg SequenceSpaces.nextPrimarySequenceNumber hspaces
  have h₄ := congrArg SequenceSpaces.nextRtxSequenceNumber hspaces
  simp only [spaces] at h₁ h₂ h₃ h₄
  cases rtx <;> simp only [sequenceNumber, h₁, h₂, h₃, h₄, hssrc, hrtx]

theorem allocate_mapping (current : MediaRuntimeState) (rtx : Bool) :
    (current.allocateSequenceNumber rtx).2.mapping = current.mapping := by
  cases rtx <;> rfl

/-- An allocation takes the next number of its own space only. -/
theorem allocate_sequenceNumber (current : MediaRuntimeState) (rtx rtx' : Bool) :
    (current.allocateSequenceNumber rtx).2.sequenceNumber rtx' =
      if rtx' = rtx then current.sequenceNumber rtx' + 1 else current.sequenceNumber rtx' := by
  cases rtx <;> cases rtx' <;> rfl

end MediaRuntimeState

/-- The invariant of a run which keeps a section. -/
structure NumberedRun (key : SectionKey) (r : RewriterRun) : Prop where
  nodup : (r.rewriter.media.map fun m => m.mapping.targetSsrc).Nodup
  counters : (r.rewriter.media = [] ∧ ∀ rtx, key.numbers rtx r.emitted = []) ∨
    ∃ m ∈ r.rewriter.media, key.Matches m.mapping ∧ ∀ rtx,
      m.sequenceNumber rtx = key.first rtx + UInt16.ofNat (key.numbers rtx r.emitted).length
  consecutive : ∀ rtx, Consecutive (key.first rtx) (key.numbers rtx r.emitted)
  repeats : ∀ e ∈ r.emitted, e.rtx = false → ∀ n, e.resends = some n → e.sequenceNumber = n

theorem SectionKey.numbers_append (key : SectionKey) (rtx : Bool) (xs ys : List Emission) :
    key.numbers rtx (xs ++ ys) = key.numbers rtx xs ++ key.numbers rtx ys := by
  simp only [SectionKey.numbers, List.filter_append, List.map_append]

/-- What a call does to the section it works on: each space keeps its next number and hands out
none, or hands out that number and moves on by one. -/
def NumbersStep (key : SectionKey) (current next : MediaRuntimeState) (emitted : List Emission) :
    Prop :=
  ∀ rtx, (key.numbers rtx emitted = [] ∧ next.sequenceNumber rtx = current.sequenceNumber rtx) ∨
    (key.numbers rtx emitted = [current.sequenceNumber rtx] ∧
      next.sequenceNumber rtx = current.sequenceNumber rtx + 1)

theorem targetSsrc_unique {media : List MediaRuntimeState}
    (h : (media.map fun m => m.mapping.targetSsrc).Nodup) {m m' : MediaRuntimeState}
    (hm : m ∈ media) (hm' : m' ∈ media) (heq : m.mapping.targetSsrc = m'.mapping.targetSsrc) :
    m = m' := List.inj_on_of_nodup_map h hm hm' heq

/-- A call on one section keeps the invariant. -/
theorem NumberedRun.update {key : SectionKey} {r : RewriterRun} (h : NumberedRun key r) {i : ℕ}
    {current next : MediaRuntimeState} (hat : r.rewriter.media[i]? = some current)
    (hmapping : next.mapping = current.mapping) {emitted : List Emission}
    (hown : current.mapping.targetSsrc = key.targetSsrc → NumbersStep key current next emitted)
    (hother : current.mapping.targetSsrc ≠ key.targetSsrc → ∀ rtx, key.numbers rtx emitted = [])
    (hrepeats : ∀ e ∈ emitted, e.rtx = false → ∀ n, e.resends = some n → e.sequenceNumber = n)
    {rewriter : Impl} (hmedia : rewriter.media = r.rewriter.media.set i next) :
    NumberedRun key ⟨rewriter, r.emitted ++ emitted⟩ := by
  obtain ⟨hi, hcurrent⟩ := List.getElem?_eq_some_iff.mp hat
  have hmem : current ∈ r.rewriter.media := List.mem_of_getElem? hat
  have hssrcs : (r.rewriter.media.set i next).map (fun m => m.mapping.targetSsrc) =
      r.rewriter.media.map fun m => m.mapping.targetSsrc := by
    have hmapped : (r.rewriter.media.map fun m => m.mapping.targetSsrc)[i]? =
        some next.mapping.targetSsrc := by
      rw [List.getElem?_map, hat, hmapping]
      rfl
    obtain ⟨hlen, hat'⟩ := List.getElem?_eq_some_iff.mp hmapped
    rw [List.map_set, ← hat', List.set_getElem_self]
  obtain ⟨m, hm, hmatch, hcounters⟩ : ∃ m ∈ r.rewriter.media, key.Matches m.mapping ∧ ∀ rtx,
      m.sequenceNumber rtx =
        key.first rtx + UInt16.ofNat (key.numbers rtx r.emitted).length := by
    rcases h.counters with ⟨hnil, -⟩ | hsome
    · simp [hnil] at hmem
    · exact hsome
  by_cases hkey : current.mapping.targetSsrc = key.targetSsrc
  · obtain rfl : m = current := targetSsrc_unique h.nodup hm hmem (hmatch.2.1.trans hkey.symm)
    have hstep := hown hkey
    refine ⟨by rw [hmedia, hssrcs]; exact h.nodup, Or.inr ⟨next, ?_, ?_, ?_⟩, ?_, ?_⟩
    · rw [hmedia]
      exact List.mem_set hi next
    · exact hmapping ▸ hmatch
    · intro rtx
      rw [SectionKey.numbers_append, List.length_append]
      rcases hstep rtx with ⟨hnone, hsame⟩ | ⟨hone, hnext⟩
      · rw [hnone, hsame, hcounters rtx, List.length_nil, Nat.add_zero]
      · rw [hone, hnext, hcounters rtx, List.length_singleton, UInt16.ofNat_add, UInt16.add_assoc]
        rfl
    · intro rtx
      rw [SectionKey.numbers_append]
      rcases hstep rtx with ⟨hnone, -⟩ | ⟨hone, -⟩
      · rw [hnone, List.append_nil]
        exact h.consecutive rtx
      · rw [hone, hcounters rtx]
        exact (h.consecutive rtx).push
    · intro e he
      rcases List.mem_append.mp he with he | he
      · exact h.repeats e he
      · exact hrepeats e he
  · have hnone := hother hkey
    refine ⟨by rw [hmedia, hssrcs]; exact h.nodup, Or.inr ⟨m, ?_, hmatch, ?_⟩, ?_, ?_⟩
    · rw [hmedia]
      obtain ⟨j, hj⟩ := List.mem_iff_getElem?.mp hm
      have hne : i ≠ j := by
        rintro rfl
        rw [hat, Option.some.injEq] at hj
        exact hkey (hj ▸ hmatch.2.1)
      exact List.mem_iff_getElem?.mpr ⟨j, by rw [List.getElem?_set_ne hne, hj]⟩
    · intro rtx
      rw [SectionKey.numbers_append, hnone rtx, List.append_nil]
      exact hcounters rtx
    · intro rtx
      rw [SectionKey.numbers_append, hnone rtx, List.append_nil]
      exact h.consecutive rtx
    · intro e he
      rcases List.mem_append.mp he with he | he
      · exact h.repeats e he
      · exact hrepeats e he

/-! ## Reconfiguration -/

theorem adopt_spaces {previous : MediaRuntimeState} {mapping : MediaMapping}
    (h : previous.mapping.targetRtxSsrc = mapping.targetRtxSsrc) (sameSource : Bool) :
    (previous.adopt sameSource mapping).spaces = previous.spaces := by
  simp only [MediaRuntimeState.adopt, h, ne_eq, not_true_eq_false, if_false]
  split_ifs <;> rfl

theorem adopt_mapping (previous : MediaRuntimeState) (sameSource : Bool) (mapping : MediaMapping) :
    (previous.adopt sameSource mapping).mapping = mapping := by
  simp only [MediaRuntimeState.adopt]
  split_ifs <;> rfl

theorem nextMedia_nil (sameSource : Bool) (mappings : List MediaMapping) :
    MediaRuntimeState.nextMedia sameSource [] mappings =
      mappings.map fun mapping => { mapping } := by
  induction mappings with
  | nil => rfl
  | cons mapping mappings ih => simp [MediaRuntimeState.nextMedia, ih]

/-- A section which is kept keeps its sequence spaces. -/
theorem nextMedia_keeps {key : SectionKey} {sameSource : Bool} {mappings : List MediaMapping}
    (hmappings : (mappings.map MediaMapping.targetSsrc).Nodup) {mapping : MediaMapping}
    (hmem : mapping ∈ mappings) (hkey : key.Matches mapping) {previous : List MediaRuntimeState}
    {m : MediaRuntimeState} (hm : m ∈ previous) (hmatch : key.Matches m.mapping)
    (hunique : ∀ m' ∈ previous, m'.mapping.targetSsrc = key.targetSsrc → m' = m) :
    ∃ m' ∈ MediaRuntimeState.nextMedia sameSource previous mappings,
      m'.mapping = mapping ∧ m'.spaces = m.spaces := by
  induction mappings generalizing previous with
  | nil => cases hmem
  | cons head mappings ih =>
      rw [List.map_cons, List.nodup_cons] at hmappings
      rw [MediaRuntimeState.nextMedia]
      rcases List.mem_cons.mp hmem with rfl | hmem
      · have hcontinues : MediaRuntimeState.continues mapping m = true := by
          simp [MediaRuntimeState.continues, hmatch.1, hmatch.2.1, hkey.1, hkey.2.1]
        cases hfind : previous.find? (MediaRuntimeState.continues mapping) with
        | none => exact absurd hcontinues (List.find?_eq_none.mp hfind m hm)
        | some found =>
            have hfound : found = m := by
              have hprop := List.find?_some hfind
              simp only [MediaRuntimeState.continues, Bool.and_eq_true, decide_eq_true_eq] at hprop
              exact hunique found (List.mem_of_find?_eq_some hfind) (hprop.2.trans hkey.2.1)
            subst hfound
            refine ⟨_, List.mem_cons_self, adopt_mapping _ _ _, adopt_spaces ?_ _⟩
            rw [hmatch.2.2, hkey.2.2]
      · have hother : head.targetSsrc ≠ key.targetSsrc := by
          intro heq
          exact hmappings.1 (List.mem_map.mpr ⟨mapping, hmem, hkey.2.1.trans heq.symm⟩)
        cases hfind : previous.find? (MediaRuntimeState.continues head) with
        | none =>
            obtain ⟨m', hm', hrest⟩ := ih hmappings.2 hmem hm hunique
            exact ⟨m', List.mem_cons_of_mem _ hm', hrest⟩
        | some found =>
            have hidx : previous[previous.findIdx (MediaRuntimeState.continues head)]? =
                some found := List.find?_eq_getElem?_findIdx ▸ hfind
            have hssrc : found.mapping.targetSsrc ≠ key.targetSsrc := by
              have hprop := List.find?_some hfind
              simp only [MediaRuntimeState.continues, Bool.and_eq_true, decide_eq_true_eq] at hprop
              rw [hprop.2]
              exact hother
            have hmoved : ∀ m' ∈ previous.modify
                (previous.findIdx (MediaRuntimeState.continues head)) MediaRuntimeState.movedFrom,
                m' ∈ previous ∨ m'.mapping.targetSsrc ≠ key.targetSsrc := by
              intro m' hm'
              obtain ⟨j, hj⟩ := List.mem_iff_getElem?.mp hm'
              rw [List.getElem?_modify] at hj
              split_ifs at hj with hat
              · rw [← hat, hidx] at hj
                right
                rw [← Option.some.inj hj]
                exact hssrc
              · left
                rw [Option.map_eq_map, Option.map_id'] at hj
                exact List.mem_iff_getElem?.mpr ⟨j, hj⟩
            have hkept : m ∈ previous.modify
                (previous.findIdx (MediaRuntimeState.continues head))
                MediaRuntimeState.movedFrom := by
              obtain ⟨j, hj⟩ := List.mem_iff_getElem?.mp hm
              have hne : previous.findIdx (MediaRuntimeState.continues head) ≠ j := by
                intro heq
                rw [← heq, hidx, Option.some.injEq] at hj
                exact hssrc (hj ▸ hmatch.2.1)
              refine List.mem_iff_getElem?.mpr ⟨j, ?_⟩
              rw [List.getElem?_modify, hj]
              simp [hne]
            obtain ⟨m', hm', hrest⟩ := ih hmappings.2 hmem hkept (fun m' hm' hssrc' =>
              (hmoved m' hm').elim (fun hin => hunique m' hin hssrc') fun hne => absurd hssrc' hne)
            exact ⟨m', List.mem_cons_of_mem _ hm', hrest⟩

theorem NumberedRun.setConfig {key : SectionKey} {r : RewriterRun} (h : NumberedRun key r)
    {config : RewriterConfig} (hvalid : ValidConfig config)
    (hkeeps : ∃ m ∈ config.media, key.Matches m) :
    NumberedRun key { r with rewriter := r.rewriter.setConfig config } := by
  obtain ⟨mapping, hmem, hkey⟩ := hkeeps
  have hmedia : (r.rewriter.setConfig config).media.map MediaRuntimeState.mapping =
      config.media := nextMedia_mapping _ _ _
  refine ⟨?_, Or.inr ?_, h.consecutive, h.repeats⟩
  · have hssrcs : (r.rewriter.setConfig config).media.map (fun m => m.mapping.targetSsrc) =
        config.media.map MediaMapping.targetSsrc := by
      rw [← hmedia, List.map_map]
      rfl
    rw [hssrcs]
    exact hvalid.1
  · rcases h.counters with ⟨hnil, hnone⟩ | ⟨m, hm, hmatch, hcounters⟩
    · refine ⟨{ mapping }, ?_, hkey, fun rtx => ?_⟩
      · simp only [Impl.setConfig, hnil, nextMedia_nil]
        exact List.mem_map.mpr ⟨mapping, hmem, rfl⟩
      · rw [hnone rtx, SectionKey.first, ← hkey.2.1, ← hkey.2.2]
        cases rtx with
        | true => exact (UInt16.add_zero _).symm
        | false => exact (UInt16.add_zero _).symm
    · obtain ⟨m', hm', hmap, hspaces⟩ := nextMedia_keeps hvalid.1 hmem hkey hm hmatch
        fun m' hm' hssrc => targetSsrc_unique h.nodup hm' hm (hssrc.trans hmatch.2.1.symm)
      refine ⟨m', hm', hmap ▸ hkey, fun rtx => ?_⟩
      rw [MediaRuntimeState.sequenceNumber_congr hspaces
        (by rw [hmap, hkey.2.1, hmatch.2.1]) (by rw [hmap, hkey.2.2, hmatch.2.2]), hcounters rtx]

theorem NumberedRun.clearSource {key : SectionKey} {r : RewriterRun} (h : NumberedRun key r) :
    NumberedRun key { r with rewriter := r.rewriter.clearSource } := by
  refine ⟨?_, ?_, h.consecutive, h.repeats⟩
  · simp only [Impl.clearSource, List.map_map]
    exact h.nodup
  · rcases h.counters with ⟨hnil, hnone⟩ | ⟨m, hm, hmatch, hcounters⟩
    · exact Or.inl ⟨by simp [Impl.clearSource, hnil], hnone⟩
    · exact Or.inr ⟨m.clearSourceState, List.mem_map.mpr ⟨m, hm, rfl⟩, hmatch, hcounters⟩

/-! ## Calls -/

theorem emit_sequenceNumber (bound : BoundSource) (packet : List UInt8)
    (parsed : ParsedRtpPacket) (payloadType : PayloadTypeMapping)
    (transportSequenceNumber : UInt16) (original : Option UInt16) (rtx : Bool) :
    (emit bound packet parsed payloadType transportSequenceNumber original).1.sequenceNumber rtx =
      if rtx = payloadType.rtx then bound.current.sequenceNumber rtx + 1
      else bound.current.sequenceNumber rtx := by
  have hmapping := emit_mapping bound packet parsed payloadType transportSequenceNumber original
  rw [← MediaRuntimeState.allocate_sequenceNumber]
  exact MediaRuntimeState.sequenceNumber_congr
    (emit_spaces bound packet parsed payloadType transportSequenceNumber original)
    (by rw [hmapping, MediaRuntimeState.allocate_mapping])
    (by rw [hmapping, MediaRuntimeState.allocate_mapping]) rtx

theorem numbers_singleton (key : SectionKey) (rtx : Bool) (e : Emission) :
    key.numbers rtx [e] = if key.numbered rtx e then [e.sequenceNumber] else [] := by
  simp only [SectionKey.numbers, List.filter_cons, List.filter_nil]
  split_ifs <;> rfl

theorem NumberedRun.rewrite {key : SectionKey} {r : RewriterRun} (h : NumberedRun key r)
    {packet : List UInt8} {transportSequenceNumber : UInt16}
    (hok : (r.rewriter.rewrite packet transportSequenceNumber).2.isOk = true) :
    NumberedRun key ⟨(r.rewriter.rewrite packet transportSequenceNumber).1,
      r.emitted ++ r.rewriter.rewriteEmission packet
        (r.rewriter.rewrite packet transportSequenceNumber).2⟩ := by
  have hsilent : ∀ {result}, NoPacket result → r.rewriter.rewriteEmission packet result = [] := by
    intro result hresult
    cases result with
    | error e => rfl
    | ok result =>
        have hstate : result.state = .dropped := hresult
        unfold Impl.rewriteEmission
        split <;> simp_all
  rcases r.rewriter.rewrite_cases packet transportSequenceNumber with ⟨hsame, hnone⟩ |
    ⟨parsed, resolved, bound, hparse, hresolve, hbind, heq⟩
  · rw [hsame, hsilent hnone, List.append_nil]
    exact h
  · obtain ⟨hspaces, hmap⟩ := bindSource_some hbind
    obtain ⟨hat, -⟩ := Impl.resolve_some hresolve
    have hbefore : ∀ rtx, bound.current.sequenceNumber rtx =
        resolved.current.sequenceNumber rtx := fun rtx =>
      MediaRuntimeState.sequenceNumber_congr hspaces (by rw [hmap]) (by rw [hmap]) rtx
    have hmapping := (rewriteBound_mapping bound packet parsed resolved.payloadType
      transportSequenceNumber).trans hmap
    rw [heq] at hok ⊢
    rcases rewriteBound_cases bound packet parsed resolved.payloadType transportSequenceNumber
      with ⟨hcurrent, hnone, -⟩ | ⟨original, -, -, -, hemit⟩
    · refine h.update hat hmapping ?_ ?_ ?_ rfl
      · intro _ rtx
        rw [hsilent hnone, hcurrent]
        exact Or.inl ⟨rfl, hbefore rtx⟩
      · intro _ rtx
        rw [hsilent hnone]
        rfl
      · rw [hsilent hnone]
        intro e he
        cases he
    · cases hresult : (emit bound packet parsed resolved.payloadType transportSequenceNumber
        original).2 with
      | error e =>
          rw [hemit, hresult] at hok
          cases hok
      | ok result =>
          obtain ⟨block, targetTimestamp, -, hfields⟩ := emit_result hresult
          have hlog : r.rewriter.rewriteEmission packet (rewriteBound bound packet parsed
              resolved.payloadType transportSequenceNumber).2 =
              [⟨resolved.current.mapping.targetSsrc, resolved.payloadType.rtx, none,
                bound.current.sequenceNumber resolved.payloadType.rtx⟩] := by
            rw [hemit, hresult, hfields]
            simp only [Impl.rewriteEmission, hparse, hresolve, rewrittenResult]
          rw [hlog]
          refine h.update hat hmapping ?_ ?_ ?_ rfl
          · intro hkey rtx
            rw [hemit, emit_sequenceNumber, numbers_singleton, ← hbefore rtx]
            by_cases hrtx : resolved.payloadType.rtx = rtx
            · right
              subst hrtx
              simp [SectionKey.numbered, hkey]
            · left
              simp [SectionKey.numbered, hrtx, Ne.symm hrtx]
          · intro hkey rtx
            simp [numbers_singleton, SectionKey.numbered, hkey]
          · intro e he hrtx n hn
            rw [List.mem_singleton.mp he] at hn
            cases hn

theorem NumberedRun.buildRetransmission {key : SectionKey} {r : RewriterRun}
    (h : NumberedRun key r) {packet : List UInt8} {transportSequenceNumber : UInt16}
    (hok : (r.rewriter.buildRetransmission packet transportSequenceNumber).2.isOk = true) :
    NumberedRun key ⟨(r.rewriter.buildRetransmission packet transportSequenceNumber).1,
      r.emitted ++ retransmissionEmission
        (r.rewriter.buildRetransmission packet transportSequenceNumber).2⟩ := by
  rcases r.rewriter.buildRetransmission_cases packet transportSequenceNumber with ⟨-, hnone⟩ |
    ⟨parsed, index, current, hparse, hat, hssrc, heq⟩
  · cases hresult : (r.rewriter.buildRetransmission packet transportSequenceNumber).2 with
    | error e =>
        rw [hresult] at hok
        cases hok
    | ok result =>
        rw [hresult] at hnone
        exact hnone.elim
  · rw [heq] at hok ⊢
    cases hresult : (retransmit current packet parsed transportSequenceNumber).2 with
    | error e =>
        rw [hresult] at hok
        cases hok
    | ok result =>
        simp only [retransmissionEmission]
        rcases retransmit_cases current packet parsed transportSequenceNumber with
          ⟨hcurrent, hfields⟩ | ⟨hcurrent, hfields⟩
        · obtain ⟨hrtx, horiginal, hnumber⟩ := hfields result hresult
          refine h.update hat (by rw [hcurrent]) ?_ ?_ ?_ rfl
          · intro _ rtx
            left
            rw [hcurrent, numbers_singleton]
            cases rtx <;> simp [SectionKey.numbered, hrtx]
          · intro hkey rtx
            simp [numbers_singleton, SectionKey.numbered, horiginal, ← hssrc, hkey]
          · intro e he hrtx' n hn
            rw [List.mem_singleton.mp he] at hn ⊢
            exact hnumber.trans (Option.some.inj hn)
        · obtain ⟨hrtx, horiginal, hnumber⟩ := hfields result hresult
          refine h.update hat (by rw [hcurrent, MediaRuntimeState.allocate_mapping]) ?_ ?_ ?_ rfl
          · intro hkey rtx
            rw [hcurrent, MediaRuntimeState.allocate_sequenceNumber, numbers_singleton]
            cases rtx <;>
              simp [SectionKey.numbered, hrtx, horiginal, hnumber, ← hssrc, hkey]
          · intro hkey rtx
            simp [numbers_singleton, SectionKey.numbered, horiginal, ← hssrc, hkey]
          · intro e he hrtx' n hn
            rw [List.mem_singleton.mp he, hrtx] at hrtx'
            cases hrtx'

namespace RewriterRun

theorem step_numbered {key : SectionKey} {r r' : RewriterRun} {operation : Operation}
    (h : NumberedRun key r) (hkeeps : key.Keeps r operation)
    (hstep : r.step operation = some r') : NumberedRun key r' := by
  cases operation with
  | setConfig config =>
      obtain rfl := Option.some.inj hstep
      exact h.setConfig hkeeps.1 hkeeps.2
  | clearSource =>
      obtain rfl := Option.some.inj hstep
      exact h.clearSource
  | rewrite packet transportSequenceNumber =>
      obtain rfl := Option.some.inj hstep
      exact h.rewrite hkeeps
  | buildRetransmission packet transportSequenceNumber =>
      obtain rfl := Option.some.inj hstep
      exact h.buildRetransmission hkeeps

/-- The packets which a rewritten source or an RTX retransmission gives a section are numbered
without a gap, each space from its own initial number; a packet resent without RTX repeats its
number. -/
theorem run_numbers_consecutive {key : SectionKey} {operations : List Operation} {r : RewriterRun}
    (h : (system.restrict key.Keeps).Run operations r) :
    (∀ rtx, Consecutive (key.first rtx) (key.numbers rtx r.emitted)) ∧
      ∀ e ∈ r.emitted, e.rtx = false → ∀ n, e.resends = some n → e.sequenceNumber = n := by
  have hr : NumberedRun key r := by
    refine h.invariant ?_ ?_
    · rintro s rfl
      refine ⟨List.nodup_nil, Or.inl ⟨rfl, fun _ => rfl⟩, fun _ => rfl, ?_⟩
      intro e he
      cases he
    · rintro s operation s' hs ⟨hkeeps, hstep⟩
      exact step_numbered hs hkeeps hstep
  exact ⟨hr.consecutive, hr.repeats⟩

/-- A video section with generic NACK and no RTX. -/
def nackKey : SectionKey := ⟨ascii "video", 0x10005, 0⟩

def nackConfig : RewriterConfig where
  sourceSessionId := ascii "publisher"
  media := [{ kind := ascii "video"
              sourceMid := ascii "0"
              targetMid := ascii "0"
              targetSsrc := 0x10005
              payloadTypes := [{ sourcePayloadType := 96
                                 targetPayloadType := 96
                                 clockRate := 90000
                                 codecName := ascii "VP8"
                                 nack := true }] }]

/-- The first packet is sent and asked for again; the next one follows a new publication. -/
def nackOperations : List Operation :=
  [.setConfig nackConfig, .rewrite plainPacket 0,
    .buildRetransmission [0x80, 96, 0, 4, 0, 0, 0, 100, 0, 1, 0, 5, 1] 1, .clearSource,
    .setConfig nackConfig, .rewrite plainPacket 2]

def nackRun : RewriterRun := (nackOperations.foldlM step {}).getD {}

theorem nackRun_run : (system.restrict nackKey.Keeps).Run nackOperations nackRun :=
  EventSystem.run_of_exec_restrict rfl (by decide +kernel)

theorem run_numbers_consecutive_nack :
    (∀ rtx, Consecutive (nackKey.first rtx) (nackKey.numbers rtx nackRun.emitted)) ∧
      ∀ e ∈ nackRun.emitted, e.rtx = false → ∀ n, e.resends = some n → e.sequenceNumber = n :=
  run_numbers_consecutive nackRun_run

/-- The packet which is resent without RTX is a second packet with the same number. -/
theorem run_numbers_repeat_without_rtx :
    ¬ ∀ (key : SectionKey) (operations : List Operation) (r : RewriterRun),
      (system.restrict key.Keeps).Run operations r →
      Consecutive (key.first false) ((r.emitted.filter fun e =>
        decide (e.targetSsrc = key.targetSsrc) && !e.rtx).map Emission.sequenceNumber) := by
  intro hall
  have hrun := hall nackKey nackOperations nackRun nackRun_run
  have hnumbers : (nackRun.emitted.filter fun e =>
      decide (e.targetSsrc = nackKey.targetSsrc) && !e.rtx).map Emission.sequenceNumber =
      [4, 4, 5] := by decide +kernel
  rw [hnumbers] at hrun
  exact absurd hrun (by unfold Consecutive; decide +kernel)

end RewriterRun

end SimpleWebrtc.RtpRewriter
