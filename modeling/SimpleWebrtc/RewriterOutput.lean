import SimpleWebrtc.RtpRewriter

/-!
# What a call without a packet does to the output stream

The output stream of a section is the part of its runtime state which decides
how the subscriber sees the next packet: the sequence spaces, the timeline and
the numbers of the packets sent. A call which yields no packet should leave it
alone. It does, with three exceptions, all of them calls which fail after the
state was advanced: a new primary source of a section without a target SSRC, a
header extension block which cannot be built, and a retransmission whose
transport-wide number has nowhere to go.
-/
namespace SimpleWebrtc.RtpRewriter
open Library Library.Bytes RtpHeaderExtension RtpPacket RewrittenExtensions

/-- The two sequence spaces of a section. -/
structure SequenceSpaces where
  primarySequenceInitialized : Bool
  rtxSequenceInitialized : Bool
  nextPrimarySequenceNumber : UInt16
  nextRtxSequenceNumber : UInt16
deriving DecidableEq

structure OutputStream where
  spaces : SequenceSpaces
  timestampInitialized : Bool
  lastTargetTimestamp : UInt32
  sourceTimestampAnchor : Option UInt32
  targetTimestampAnchor : UInt32
  primarySequenceNumbers : SequenceNumberCache
deriving DecidableEq

def MediaRuntimeState.spaces (current : MediaRuntimeState) : SequenceSpaces where
  primarySequenceInitialized := current.primarySequenceInitialized
  rtxSequenceInitialized := current.rtxSequenceInitialized
  nextPrimarySequenceNumber := current.nextPrimarySequenceNumber
  nextRtxSequenceNumber := current.nextRtxSequenceNumber

def MediaRuntimeState.output (current : MediaRuntimeState) : OutputStream where
  spaces := current.spaces
  timestampInitialized := current.timestampInitialized
  lastTargetTimestamp := current.lastTargetTimestamp
  sourceTimestampAnchor := current.sourceTimestampAnchor
  targetTimestampAnchor := current.targetTimestampAnchor
  primarySequenceNumbers := current.primarySequenceNumbers

/-- The output streams of all sections, in order. -/
def Impl.outputs (s : Impl) : List OutputStream :=
  s.media.map MediaRuntimeState.output

/-! ## The section a packet resolves to -/

theorem resolveOnly_some {select : MediaRuntimeState → Option PayloadTypeMapping} {index : ℕ}
    {resolved : Option ResolvedMedia} {media : List MediaRuntimeState} {r : ResolvedMedia}
    (h : resolveOnly select index resolved media = some r) :
    resolved = some r ∨ ∃ i, media[i]? = some r.current ∧ r.mediaIndex = index + i ∧
      select r.current = some r.payloadType := by
  induction media generalizing index resolved with
  | nil => exact Or.inl h
  | cons current media ih =>
      rw [resolveOnly] at h
      cases hs : select current with
      | none =>
          simp only [hs] at h
          rcases ih h with heq | ⟨i, hi, hidx, hsel⟩
          · exact Or.inl heq
          · exact Or.inr ⟨i + 1, by simpa using hi, by omega, hsel⟩
      | some payloadType =>
          simp only [hs] at h
          cases hr : resolved with
          | some found => simp [hr] at h
          | none =>
              rw [hr, Option.isSome_none, if_neg Bool.false_ne_true] at h
              rcases ih h with heq | ⟨i, hi, hidx, hsel⟩
              · rw [Option.some.injEq] at heq
                subst heq
                exact Or.inr ⟨0, rfl, rfl, hs⟩
              · exact Or.inr ⟨i + 1, by simpa using hi, by omega, hsel⟩

/-- A packet resolves to the state at the index, by a payload type the section maps. -/
theorem Impl.resolve_some {s : Impl} {parsed : ParsedRtpPacket} {r : ResolvedMedia}
    (h : s.resolve parsed = some r) :
    s.media[r.mediaIndex]? = some r.current ∧
      r.current.mapping.findPayloadTypeMapping parsed.header.payloadType = some r.payloadType := by
  unfold Impl.resolve at h
  rcases Option.or_eq_some_iff.mp h with h | ⟨_, h⟩
  · rcases Option.or_eq_some_iff.mp h with h | ⟨_, h⟩
    · unfold Impl.resolveBinding at h
      cases hb : s.bindings.find? parsed.header.ssrc with
      | none => simp [hb] at h
      | some binding =>
          cases hm : s.media[binding.mediaIndex]? with
          | none => simp [hb, hm] at h
          | some current =>
              cases hp : current.mapping.findPayloadTypeMapping parsed.header.payloadType with
              | none => simp [hb, hm, hp] at h
              | some payloadType =>
                  simp only [hb, hm, hp] at h
                  split_ifs at h
                  rw [Option.some.injEq] at h
                  subst h
                  exact ⟨hm, hp⟩
    · rcases resolveOnly_some h with h | ⟨i, hi, hidx, hsel⟩
      · cases h
      · rw [Nat.zero_add] at hidx
        refine ⟨hidx ▸ hi, ?_⟩
        cases hp : r.current.mapping.findPayloadTypeMapping parsed.header.payloadType with
        | none => simp [hp] at hsel
        | some payloadType =>
            cases hmid : r.current.mapping.findMidExtensionMapping with
            | none => simp [hp, hmid] at hsel
            | some midMapping =>
                simp only [hp, hmid] at hsel
                cases he : findParsedHeaderExtension parsed midMapping.sourceId with
                | none => simp [he] at hsel
                | some e =>
                    simp only [he] at hsel
                    split_ifs at hsel
                    exact hsel
  · rcases resolveOnly_some h with h | ⟨i, hi, hidx, hsel⟩
    · cases h
    · rw [Nat.zero_add] at hidx
      exact ⟨hidx ▸ hi, hsel⟩

/-! ## The effect of the single steps -/

theorem outputs_set_iff {media : List MediaRuntimeState} {i : ℕ} {current next : MediaRuntimeState}
    (h : media[i]? = some current) :
    (media.set i next).map MediaRuntimeState.output = media.map MediaRuntimeState.output ↔
      next.output = current.output := by
  obtain ⟨hi, hcur⟩ := List.getElem?_eq_some_iff.mp h
  rw [List.map_set]
  constructor
  · intro heq
    have hat := congrArg (fun l => l[i]?) heq
    simpa [hi, hcur] using hat
  · intro heq
    have hmapped : (media.map MediaRuntimeState.output)[i]? = some current.output := by
      rw [List.getElem?_map, h]
      rfl
    obtain ⟨hlen, hat⟩ := List.getElem?_eq_some_iff.mp hmapped
    rw [heq, ← hat, List.set_getElem_self]

theorem MediaRuntimeState.timestampStep_ne_zero (clockRate : UInt32) :
    timestampStep clockRate ≠ 0 := by
  have hmax : timestampStep clockRate = if 1 ≤ clockRate / 100 then clockRate / 100 else 1 := rfl
  rw [hmax]
  split_ifs with hle
  · intro hzero
    rw [hzero] at hle
    exact absurd hle (by decide)
  · decide

/-- A source which begins always moves the timeline. -/
theorem MediaRuntimeState.beginPrimarySource_output_ne (current : MediaRuntimeState)
    (sourceSsrc : UInt32) (sourcePayloadType : UInt8) (sourceTimestamp clockRate : UInt32) :
    (current.beginPrimarySource sourceSsrc sourcePayloadType sourceTimestamp clockRate).output ≠
      current.output := by
  intro h
  have hinit : true = current.timestampInitialized := congrArg OutputStream.timestampInitialized h
  have hlast : current.beginTimestamp sourceTimestamp clockRate = current.lastTargetTimestamp :=
    congrArg OutputStream.lastTargetTimestamp h
  rw [beginTimestamp, ← hinit, if_pos rfl] at hlast
  have hcancel : current.lastTargetTimestamp + timestampStep clockRate =
      current.lastTargetTimestamp + 0 := by rw [hlast, UInt32.add_zero]
  exact timestampStep_ne_zero clockRate ((UInt32.add_right_inj _).mp hcancel)

theorem MediaRuntimeState.allocate_spaces_ne (current : MediaRuntimeState) (rtx : Bool) :
    (current.allocateSequenceNumber rtx).2.spaces ≠ current.spaces := by
  have hne : ∀ v : UInt16, v + 1 ≠ v := by
    intro v h
    have hcancel : v + 1 = v + 0 := by rw [h, UInt16.add_zero]
    exact absurd ((UInt16.add_right_inj v).mp hcancel) (by decide)
  intro h
  cases rtx with
  | true =>
      have hinit : true = current.rtxSequenceInitialized :=
        congrArg SequenceSpaces.rtxSequenceInitialized h
      have hnext : current.sequenceNumber true + 1 = current.nextRtxSequenceNumber :=
        congrArg SequenceSpaces.nextRtxSequenceNumber h
      rw [sequenceNumber, ← hinit, if_pos rfl] at hnext
      exact hne _ hnext
  | false =>
      have hinit : true = current.primarySequenceInitialized :=
        congrArg SequenceSpaces.primarySequenceInitialized h
      have hnext : current.sequenceNumber false + 1 = current.nextPrimarySequenceNumber :=
        congrArg SequenceSpaces.nextPrimarySequenceNumber h
      rw [sequenceNumber, ← hinit, if_pos rfl] at hnext
      exact hne _ hnext

theorem MediaRuntimeState.translateTimestamp_spaces (current : MediaRuntimeState)
    (sourceTimestamp : UInt32) :
    (current.translateTimestamp sourceTimestamp).2.spaces = current.spaces := by
  have hanchored : (current.anchored sourceTimestamp).spaces = current.spaces := by
    unfold anchored
    split_ifs <;> rfl
  rw [← hanchored]
  simp only [translateTimestamp]
  split_ifs <;> rfl

theorem MediaRuntimeState.translateTimestamp_mapping (current : MediaRuntimeState)
    (sourceTimestamp : UInt32) :
    (current.translateTimestamp sourceTimestamp).2.mapping = current.mapping := by
  have hanchored : (current.anchored sourceTimestamp).mapping = current.mapping := by
    unfold anchored
    split_ifs <;> rfl
  rw [← hanchored]
  simp only [translateTimestamp]
  split_ifs <;> rfl

/-- Emission moves exactly the space it allocates from. -/
theorem emit_spaces (bound : BoundSource) (packet : List UInt8) (parsed : ParsedRtpPacket)
    (payloadType : PayloadTypeMapping) (transportSequenceNumber : UInt16)
    (original : Option UInt16) :
    (emit bound packet parsed payloadType transportSequenceNumber original).1.spaces =
      (bound.current.allocateSequenceNumber payloadType.rtx).2.spaces := by
  simp only [emit]
  cases extensionBlockFor parsed bound.current.mapping transportSequenceNumber with
  | error e => exact MediaRuntimeState.translateTimestamp_spaces _ _
  | ok block =>
      cases original with
      | some number => exact MediaRuntimeState.translateTimestamp_spaces _ _
      | none => exact MediaRuntimeState.translateTimestamp_spaces _ _

/-- What binding an RTX source leaves alone. -/
theorem bindRtx_some {bindings : AssocMap UInt32 SourceSsrcBinding} {parsed : ParsedRtpPacket}
    {resolved : ResolvedMedia} {bound : BoundSource}
    (h : bindRtx bindings parsed resolved = some bound) :
    resolved.current.sourcePrimarySsrc ≠ none ∧ bound.current.output = resolved.current.output ∧
      bound.current.mapping = resolved.current.mapping := by
  simp only [bindRtx] at h
  by_cases hprimary : resolved.current.sourcePrimarySsrc = none
  · simp [hprimary] at h
  · rw [if_neg hprimary] at h
    refine ⟨hprimary, ?_⟩
    split_ifs at h <;> rw [Option.some.injEq] at h <;> subst h <;> exact ⟨rfl, rfl⟩

theorem bindRtx_eq_none {bindings : AssocMap UInt32 SourceSsrcBinding} {parsed : ParsedRtpPacket}
    {resolved : ResolvedMedia} :
    bindRtx bindings parsed resolved = none ↔ resolved.current.sourcePrimarySsrc = none := by
  simp only [bindRtx]
  split_ifs <;> simp_all

/-- Whether a primary packet begins a source. -/
def beginsSource (parsed : ParsedRtpPacket) (resolved : ResolvedMedia) : Bool :=
  sourceChanged parsed resolved || resolved.current.sourceTimestampAnchor.isNone

theorem bindPrimary_output_iff (bindings : AssocMap UInt32 SourceSsrcBinding)
    (parsed : ParsedRtpPacket) (resolved : ResolvedMedia) :
    (bindPrimary bindings parsed resolved).current.output = resolved.current.output ↔
      beginsSource parsed resolved = false := by
  simp only [bindPrimary, beginsSource, Bool.or_eq_false_iff]
  split_ifs with hchanged hnone
  · simp [MediaRuntimeState.beginPrimarySource_output_ne, hchanged]
  · simp [MediaRuntimeState.beginPrimarySource_output_ne, hnone]
  · simp only [true_iff]
    exact ⟨by simpa using hchanged, Bool.eq_false_iff.mpr hnone⟩

theorem bindPrimary_spaces (bindings : AssocMap UInt32 SourceSsrcBinding)
    (parsed : ParsedRtpPacket) (resolved : ResolvedMedia) :
    (bindPrimary bindings parsed resolved).current.spaces = resolved.current.spaces := by
  simp only [bindPrimary]
  split_ifs <;> rfl

theorem bindPrimary_mapping (bindings : AssocMap UInt32 SourceSsrcBinding)
    (parsed : ParsedRtpPacket) (resolved : ResolvedMedia) :
    (bindPrimary bindings parsed resolved).current.mapping = resolved.current.mapping := by
  simp only [bindPrimary]
  split_ifs <;> rfl

/-- Binding a source moves no sequence space and keeps the mapping. -/
theorem bindSource_some {bindings : AssocMap UInt32 SourceSsrcBinding} {parsed : ParsedRtpPacket}
    {resolved : ResolvedMedia} {bound : BoundSource}
    (h : bindSource bindings parsed resolved = some bound) :
    bound.current.spaces = resolved.current.spaces ∧
      bound.current.mapping = resolved.current.mapping := by
  unfold bindSource at h
  split_ifs at h with hrtx
  · obtain ⟨_, hout, hmap⟩ := bindRtx_some h
    exact ⟨congrArg OutputStream.spaces hout, hmap⟩
  · rw [Option.some.injEq] at h
    subst h
    exact ⟨bindPrimary_spaces _ _ _, bindPrimary_mapping _ _ _⟩

/-! ## When the header extensions cannot be written -/

/-- The extensions outgrow the sixteen bits of the length word. -/
def blockTooLarge (extensions : List ParsedHeaderExtension) : Prop :=
  65535 < (padToWord (extensions.flatMap
    (if extensionsFitOneByteFormat extensions then encodeOneByte else encodeTwoByte))).length / 4

/-- The three reasons why a packet gets no extension block: a carried value longer
than a length byte counts, elements which need the two-byte format where the
subscriber did not allow it, and a block which is too large. -/
def ExtensionsRefused (parsed : ParsedRtpPacket) (mapping : MediaMapping)
    (transportSequenceNumber : UInt16) : Prop :=
  (∃ id source, parsed.headerExtensions.find? (carriesTo mapping id) = some source ∧
    255 < (carriedValue mapping source).length) ∨
  ∃ extensions,
    rewriteHeaderExtensions parsed mapping transportSequenceNumber = .ok extensions ∧
    extensions ≠ [] ∧
    ((extensionsFitOneByteFormat extensions = false ∧ mapping.targetExtmapAllowMixed = false) ∨
      blockTooLarge extensions)

theorem copyExtensions_error_iff {mapping : MediaMapping}
    {rewritten sources : List ParsedHeaderExtension} :
    (∃ e, copyExtensions mapping rewritten sources = .error e) ↔
      ∃ id source, usedTargetId rewritten id = false ∧
        sources.find? (carriesTo mapping id) = some source ∧
        255 < (carriedValue mapping source).length := by
  induction sources generalizing rewritten with
  | nil => simp [copyExtensions]
  | cons source sources ih =>
      rw [copyExtensions]
      cases hm : mapping.findHeaderExtensionMapping source.id with
      | none =>
          have hnot : ∀ id, carriesTo mapping id source = false := by simp [carriesTo, hm]
          simp only [List.find?_cons, hnot, ih]
      | some m =>
          by_cases hzero : m.targetId = 0
          · have hnot : ∀ id, carriesTo mapping id source = false := by
              simp [carriesTo, hm, hzero]
            simp only [hzero, if_true, List.find?_cons, hnot, ih]
          · by_cases hregen : headerExtensionRequiresRegeneration m.uri = true
            · have hnot : ∀ id, carriesTo mapping id source = false := by
                simp [carriesTo, hm, hregen]
              simp only [if_neg hzero, hregen, if_true, List.find?_cons, hnot, ih]
            · have hcarries : ∀ id, carriesTo mapping id source = decide (m.targetId = id) := by
                simp [carriesTo, hm, hzero, hregen]
              have hvalue : carriedValue mapping source = rewrittenValue mapping m source := by
                simp [carriedValue, hm]
              simp only [if_neg hzero, if_neg hregen, List.find?_cons, hcarries]
              by_cases hused : usedTargetId rewritten m.targetId = true
              · rw [if_pos hused, ih]
                constructor
                · rintro ⟨id, found, hfree, hfind, hlong⟩
                  have hne : m.targetId ≠ id := by
                    rintro rfl
                    rw [hused] at hfree
                    cases hfree
                  exact ⟨id, found, hfree, by simpa [hne] using hfind, hlong⟩
                · rintro ⟨id, found, hfree, hfind, hlong⟩
                  have hne : m.targetId ≠ id := by
                    rintro rfl
                    rw [hused] at hfree
                    cases hfree
                  exact ⟨id, found, hfree, by simpa [hne] using hfind, hlong⟩
              · rw [if_neg hused]
                have hunused : usedTargetId rewritten m.targetId = false := by simpa using hused
                by_cases hlong : 255 < (rewrittenValue mapping m source).length
                · simp only [if_pos hlong, Except.error.injEq, exists_eq', true_iff]
                  exact ⟨m.targetId, source, hunused, by simp, hvalue ▸ hlong⟩
                · simp only [if_neg hlong]
                  rw [ih]
                  have hpush : ∀ id, usedTargetId (rewritten ++
                      [⟨m.targetId, rewrittenValue mapping m source⟩]) id = false ↔
                      usedTargetId rewritten id = false ∧ m.targetId ≠ id := by
                    simp [usedTargetId]
                  constructor
                  · rintro ⟨id, found, hfree, hfind, hlen⟩
                    obtain ⟨hfree, hne⟩ := (hpush id).mp hfree
                    exact ⟨id, found, hfree, by simpa [hne] using hfind, hlen⟩
                  · rintro ⟨id, found, hfree, hfind, hlen⟩
                    by_cases hid : m.targetId = id
                    · simp only [hid, decide_true, Option.some.injEq] at hfind
                      rw [← hfind, hvalue] at hlen
                      exact absurd hlen hlong
                    · exact ⟨id, found, (hpush id).mpr ⟨hfree, hid⟩,
                        by simpa [hid] using hfind, hlen⟩

theorem buildHeaderExtensionBlock_error_iff {extensions : List ParsedHeaderExtension}
    {targetExtmapAllowMixed : Bool} :
    (∃ e, buildHeaderExtensionBlock extensions targetExtmapAllowMixed = .error e) ↔
      extensions ≠ [] ∧
        ((extensionsFitOneByteFormat extensions = false ∧ targetExtmapAllowMixed = false) ∨
          blockTooLarge extensions) := by
  unfold buildHeaderExtensionBlock blockTooLarge
  by_cases hnil : extensions = []
  · simp [hnil]
  · have hempty : extensions.isEmpty = false := by simpa using hnil
    simp only [hempty, Bool.false_eq_true, if_false, ne_eq, hnil, not_false_eq_true, true_and]
    by_cases hmixed : extensionsFitOneByteFormat extensions = false ∧
        targetExtmapAllowMixed = false
    · simp [hmixed]
    · rw [if_neg hmixed]
      simp only [hmixed, false_or]
      split_ifs <;> simp_all

theorem extensionBlockFor_error_iff {parsed : ParsedRtpPacket} {mapping : MediaMapping}
    {transportSequenceNumber : UInt16} :
    (∃ e, extensionBlockFor parsed mapping transportSequenceNumber = .error e) ↔
      ExtensionsRefused parsed mapping transportSequenceNumber := by
  have hcopy := @copyExtensions_error_iff mapping [] parsed.headerExtensions
  unfold extensionBlockFor ExtensionsRefused
  cases hc : copyExtensions mapping [] parsed.headerExtensions with
  | error e =>
      have hrewrite : rewriteHeaderExtensions parsed mapping transportSequenceNumber =
          .error e := by simp [rewriteHeaderExtensions, hc]
      have hlong := hcopy.mp ⟨e, hc⟩
      obtain ⟨id, source, _, hfind, hlen⟩ := hlong
      simp only [hrewrite, Except.error.injEq, exists_eq', true_iff]
      exact Or.inl ⟨id, source, hfind, hlen⟩
  | ok copied =>
      have hshort : ¬∃ id source, parsed.headerExtensions.find? (carriesTo mapping id) =
          some source ∧ 255 < (carriedValue mapping source).length := by
        rintro ⟨id, source, hfind, hlen⟩
        obtain ⟨e, he⟩ := hcopy.mpr ⟨id, source, rfl, hfind, hlen⟩
        rw [hc] at he
        cases he
      cases hr : rewriteHeaderExtensions parsed mapping transportSequenceNumber with
      | error e => simp [rewriteHeaderExtensions, hc] at hr
      | ok extensions =>
          simp only [hshort, false_or, Except.ok.injEq, exists_eq_left']
          exact buildHeaderExtensionBlock_error_iff

/-! ## Calls without a packet -/

def NoPacket : Except Text RewriteResult → Prop
  | .error _ => True
  | .ok result => result.state = .dropped

def NoRetransmission : Except Text RetransmissionResult → Prop
  | .error _ => True
  | .ok _ => False

/-- The packet of a section is lost behind the point of no return: a primary source
which begins without a target SSRC, or a packet which needs an extension block it
cannot have. -/
def DisturbsSection (packet : List UInt8) (parsed : ParsedRtpPacket) (resolved : ResolvedMedia)
    (transportSequenceNumber : UInt16) : Prop :=
  (resolved.payloadType.rtx = false ∧ resolved.current.mapping.targetSsrc = 0 ∧
    beginsSource parsed resolved = true) ∨
  (targetSsrcOf resolved.current.mapping resolved.payloadType.rtx ≠ 0 ∧
    ExtensionsRefused parsed resolved.current.mapping transportSequenceNumber ∧
    (resolved.payloadType.rtx = true →
      resolved.current.sourcePrimarySsrc ≠ none ∧
      kRtxOriginalSequenceSize ≤ parsed.payloadDataSize ∧
      resolved.current.primarySequenceNumbers.find (readU16 packet parsed.payloadOffset) ≠ none))

theorem rtxOriginal_isOk_iff {current : MediaRuntimeState} {packet : List UInt8}
    {parsed : ParsedRtpPacket} :
    (∃ number, rtxOriginal current packet parsed = .ok number) ↔
      kRtxOriginalSequenceSize ≤ parsed.payloadDataSize ∧
        current.primarySequenceNumbers.find (readU16 packet parsed.payloadOffset) ≠ none := by
  unfold rtxOriginal
  by_cases hshort : parsed.payloadDataSize < kRtxOriginalSequenceSize
  · simp [hshort, Nat.not_le_of_lt hshort]
  · rw [if_neg hshort]
    have hle : kRtxOriginalSequenceSize ≤ parsed.payloadDataSize := Nat.le_of_not_lt hshort
    cases current.primarySequenceNumbers.find (readU16 packet parsed.payloadOffset) <;> simp [hle]

/-- An emission without a packet is one whose extension block is refused. -/
theorem emit_noPacket_iff (bound : BoundSource) (packet : List UInt8) (parsed : ParsedRtpPacket)
    (payloadType : PayloadTypeMapping) (transportSequenceNumber : UInt16)
    (original : Option UInt16) :
    NoPacket (emit bound packet parsed payloadType transportSequenceNumber original).2 ↔
      ExtensionsRefused parsed bound.current.mapping transportSequenceNumber := by
  rw [← extensionBlockFor_error_iff]
  simp only [emit]
  cases extensionBlockFor parsed bound.current.mapping transportSequenceNumber with
  | error e => simp [NoPacket]
  | ok block => simp [NoPacket, rewrittenResult]

theorem emit_output_ne (bound : BoundSource) (packet : List UInt8) (parsed : ParsedRtpPacket)
    (payloadType : PayloadTypeMapping) (transportSequenceNumber : UInt16)
    (original : Option UInt16) {before : MediaRuntimeState}
    (hspaces : bound.current.spaces = before.spaces) :
    (emit bound packet parsed payloadType transportSequenceNumber original).1.output ≠
      before.output := by
  intro h
  have hsame := congrArg OutputStream.spaces h
  have hmoved := emit_spaces bound packet parsed payloadType transportSequenceNumber original
  refine bound.current.allocate_spaces_ne payloadType.rtx ?_
  rw [hspaces, ← hmoved]
  exact hsame

/-- The part of a call which concerns the section keeps its output stream unless it
loses the packet late. -/
theorem section_keeps_output_iff (bindings : AssocMap UInt32 SourceSsrcBinding)
    (packet : List UInt8) (parsed : ParsedRtpPacket) (resolved : ResolvedMedia)
    (transportSequenceNumber : UInt16) {bound : BoundSource}
    (h : bindSource bindings parsed resolved = some bound) :
    (NoPacket (rewriteBound bound packet parsed resolved.payloadType transportSequenceNumber).2 →
      (rewriteBound bound packet parsed resolved.payloadType transportSequenceNumber).1.output =
        resolved.current.output) ↔
      ¬DisturbsSection packet parsed resolved transportSequenceNumber := by
  obtain ⟨hspaces, hmap⟩ := bindSource_some h
  unfold bindSource at h
  unfold rewriteBound DisturbsSection
  cases hrtx : resolved.payloadType.rtx with
  | true =>
      rw [hrtx, if_pos rfl] at h
      obtain ⟨hprimary, hout, -⟩ := bindRtx_some h
      have hcache : bound.current.primarySequenceNumbers =
          resolved.current.primarySequenceNumbers :=
        congrArg OutputStream.primarySequenceNumbers hout
      rw [hmap]
      by_cases hzero : targetSsrcOf resolved.current.mapping true = 0
      · simp [hzero, hout]
      · rw [if_neg hzero, if_pos rfl]
        have hok := @rtxOriginal_isOk_iff bound.current packet parsed
        rw [hcache] at hok
        cases horig : rtxOriginal bound.current packet parsed with
        | error reason =>
            have hnot : ¬∃ number, rtxOriginal bound.current packet parsed = .ok number := by
              simp [horig]
            rw [hok, not_and] at hnot
            simp only [hout, implies_true, true_iff]
            rintro (⟨hfalse, -⟩ | ⟨-, hc⟩)
            · cases hfalse
            · exact hnot (hc.2 trivial).2.1 (hc.2 trivial).2.2
        | ok number =>
            have hcached := hok.mp ⟨number, horig⟩
            have hne := emit_output_ne bound packet parsed resolved.payloadType
              transportSequenceNumber (some number) hspaces
            rw [emit_noPacket_iff, hmap]
            simp [hne, hzero, hprimary, hcached]
  | false =>
      rw [hrtx, if_neg Bool.false_ne_true, Option.some.injEq] at h
      have hbegin := bindPrimary_output_iff bindings parsed resolved
      rw [h] at hbegin
      rw [hmap]
      by_cases hzero : targetSsrcOf resolved.current.mapping false = 0
      · have hssrc : resolved.current.mapping.targetSsrc = 0 := hzero
        simp [hzero, hssrc, hbegin, NoPacket, makeDropResult]
      · have hssrc : resolved.current.mapping.targetSsrc ≠ 0 := hzero
        have hne := emit_output_ne bound packet parsed resolved.payloadType
          transportSequenceNumber none hspaces
        rw [if_neg hzero, if_neg Bool.false_ne_true, emit_noPacket_iff, hmap]
        simp [hne, hzero, hssrc]

/-- The calls of `rewrite` which lose a packet after the output stream has moved. -/
def RewriteDisturbs (s : Impl) (packet : List UInt8) (transportSequenceNumber : UInt16) : Prop :=
  s.sourceAvailable = true ∧ ∃ parsed resolved,
    parseRewriteableRtpPacket packet = .ok parsed ∧ s.resolve parsed = some resolved ∧
    DisturbsSection packet parsed resolved transportSequenceNumber

theorem rewrite_keeps_output_iff (s : Impl) (packet : List UInt8)
    (transportSequenceNumber : UInt16) :
    (NoPacket (s.rewrite packet transportSequenceNumber).2 →
      (s.rewrite packet transportSequenceNumber).1.outputs = s.outputs) ↔
      ¬RewriteDisturbs s packet transportSequenceNumber := by
  unfold Impl.rewrite RewriteDisturbs
  cases hparse : parseRewriteableRtpPacket packet with
  | error e => simp
  | ok parsed =>
      simp only [Except.ok.injEq, exists_and_left, exists_eq_left']
      by_cases hoff : s.sourceAvailable = false ∨ s.media = []
      · rw [if_pos hoff]
        rcases hoff with hoff | hnil
        · simp [hoff]
        · have hnone : ∀ r, s.resolve parsed ≠ some r := by
            intro r hr
            have hat := (Impl.resolve_some hr).1
            simp [hnil] at hat
          simp [hnone]
      · rw [if_neg hoff]
        have hon : s.sourceAvailable = true := by
          rw [not_or] at hoff
          simpa using hoff.1
        cases hresolve : s.resolve parsed with
        | none => simp
        | some resolved =>
            have hat := (Impl.resolve_some hresolve).1
            simp only [hon, true_and, Option.some.injEq, exists_eq_left', Impl.rewriteResolved]
            cases hbind : bindSource s.bindings parsed resolved with
            | none =>
                have hrtx : resolved.payloadType.rtx = true := by
                  unfold bindSource at hbind
                  split_ifs at hbind with hrtx
                  exact hrtx
                have hprimary : resolved.current.sourcePrimarySsrc = none := by
                  rw [bindSource, if_pos hrtx] at hbind
                  exact bindRtx_eq_none.mp hbind
                simp [DisturbsSection, hrtx, hprimary]
            | some bound =>
                rw [← section_keeps_output_iff s.bindings packet parsed resolved
                  transportSequenceNumber hbind]
                exact imp_congr_right fun _ => outputs_set_iff hat

/-! ## Retransmissions -/

/-- The transport-wide number of a retransmission has a two-byte element to go to. -/
def TransportCcWritable (parsed : ParsedRtpPacket) (extensionId : UInt8) : Prop :=
  ∃ value, valueAt parsed.headerExtensions extensionId = some value ∧ value.length = 2

theorem writeTransportSequenceNumber_isOk_iff {head block : List UInt8}
    {elements : List ParsedHeaderExtension} (h : Framed head block elements) (tail : List UInt8)
    {extensionId : UInt8} (hid : extensionId ≠ 0) (transportSequenceNumber : UInt16) :
    (∃ packet, writeTransportSequenceNumber (head ++ block ++ tail) extensionId
      transportSequenceNumber = .ok packet) ↔
      ∃ value, valueAt elements extensionId = some value ∧ value.length = 2 := by
  have hfind := h.find tail hid
  unfold writeTransportSequenceNumber
  cases hfound : elements.find? fun e => decide (e.id = extensionId) with
  | none =>
      rw [hfound] at hfind
      have hresult : findRtpHeaderExtension (head ++ block ++ tail) extensionId = .ok none := hfind
      rw [hresult]
      simp [valueAt, hfound]
  | some e =>
      rw [hfound] at hfind
      obtain ⟨span, hresult, hholds⟩ := hfind
      have hvalue : valueAt elements extensionId = some e.value := by simp [valueAt, hfound]
      simp only [hresult, hvalue, Option.some.injEq, exists_eq_left', ← hholds.size]
      by_cases hsize : span.size = 2
      · simp [hsize]
      · simp [hsize]

/-- The header bytes of an RTX packet. -/
def rtxHead (head : List UInt8) (targetPayloadType : UInt8) (sequenceNumber : UInt16)
    (ssrc : UInt32) : List UInt8 :=
  let typed := head.set 1 ((UInt8.ofNat (byteAt head 1) &&& 0x80) ||| targetPayloadType)
  writeU32 (writeU16 typed 2 sequenceNumber) 8 ssrc

/-- An RTX packet has the number of the packet it repeats in front of its payload. -/
theorem assembleRetransmission_eq {head block tail : List UInt8}
    {elements : List ParsedHeaderExtension} {paddingSize : ℕ} (h12 : 12 ≤ head.length)
    (targetPayloadType : UInt8) (sequenceNumber : UInt16) (ssrc : UInt32) :
    assembleRetransmission (head ++ block ++ tail)
      (reportOf head block tail elements paddingSize) targetPayloadType sequenceNumber ssrc =
        rtxHead head targetPayloadType sequenceNumber ssrc ++ block ++
          (u16Bytes (readHeader head).sequenceNumber ++ tail) := by
  have hoffset : (reportOf head block tail elements paddingSize).payloadOffset =
      (head ++ block).length := by
    rw [List.length_append]
    rfl
  simp only [assembleRetransmission]
  rw [hoffset, List.take_left, List.drop_left, List.append_assoc, List.append_assoc,
    byteAt_append_left (by omega), set_append_left (by omega),
    writeU16_append_left (by simp; omega), writeU32_append_left (by simp; omega),
    List.append_assoc]
  rfl

/-- An RTX packet keeps the frame of the packet it repeats. -/
theorem rtxHead_framed {head block : List UInt8} {elements : List ParsedHeaderExtension}
    (h : Framed head block elements) (targetPayloadType : UInt8) (sequenceNumber : UInt16)
    (ssrc : UInt32) : Framed (rtxHead head targetPayloadType sequenceNumber ssrc) block elements := by
  have h12 : 12 ≤ head.length := h.headLength ▸ baseHeaderSize_ge head
  refine h.congr (by simp [rtxHead]) ?_
  rw [rtxHead, byteAt_writeU32 _ _ (Or.inl (by omega)), byteAt_writeU16 _ _ (Or.inl (by omega)),
    byteAt_set, if_neg (by omega)]

/-- A retransmission over RTX whose transport-wide number cannot be written. -/
def DisturbsRtx (parsed : ParsedRtpPacket) (mapping : MediaMapping) : Prop :=
  (∃ primary, findPrimaryMapping mapping parsed.header.payloadType = some primary ∧
    primary.nack = true) ∧
  findRtxMapping mapping parsed.header.payloadType ≠ none ∧ mapping.targetRtxSsrc ≠ 0 ∧
  mapping.targetTransportCcExtensionId ≠ 0 ∧
  ¬TransportCcWritable parsed mapping.targetTransportCcExtensionId

theorem stampTransportCc_isOk_iff (mapping : MediaMapping) (transportSequenceNumber : UInt16)
    {head block tail : List UInt8} {elements : List ParsedHeaderExtension}
    (h : Framed head block elements) {result : RetransmissionResult}
    (hpacket : result.packet = head ++ block ++ tail) :
    (∃ out, stampTransportCc mapping transportSequenceNumber result = .ok out) ↔
      mapping.targetTransportCcExtensionId = 0 ∨
        ∃ value, valueAt elements mapping.targetTransportCcExtensionId = some value ∧
          value.length = 2 := by
  unfold stampTransportCc
  by_cases hzero : mapping.targetTransportCcExtensionId = 0
  · simp [hzero]
  · rw [if_neg hzero, ← writeTransportSequenceNumber_isOk_iff h tail hzero
      transportSequenceNumber, hpacket]
    cases writeTransportSequenceNumber (head ++ block ++ tail)
      mapping.targetTransportCcExtensionId transportSequenceNumber <;> simp [hzero]

/-- A retransmission keeps the output stream of its section unless it allocates an RTX
number for a packet it then fails to stamp. -/
theorem retransmit_keeps_output_iff (current : MediaRuntimeState) {packet : List UInt8}
    {parsed : ParsedRtpPacket} (hparse : parseRewriteableRtpPacket packet = .ok parsed)
    (transportSequenceNumber : UInt16) :
    (NoRetransmission (retransmit current packet parsed transportSequenceNumber).2 →
      (retransmit current packet parsed transportSequenceNumber).1.output = current.output) ↔
      ¬DisturbsRtx parsed current.mapping := by
  obtain ⟨head, block, tail, elements, paddingSize, rfl, hwf, rfl⟩ := assembled_of_parse hparse
  unfold DisturbsRtx
  simp only [retransmit]
  cases hprimary : findPrimaryMapping current.mapping
      (reportOf head block tail elements paddingSize).header.payloadType with
  | none => simp
  | some primary =>
      cases hnack : primary.nack with
      | false => simp [hnack]
      | true =>
          simp only [Bool.true_eq_false, if_false, Option.some.injEq, exists_eq_left', hnack,
            true_and]
          cases hrtx : (findRtxMapping current.mapping
              (reportOf head block tail elements paddingSize).header.payloadType).filter
                fun _ => decide (current.mapping.targetRtxSsrc ≠ 0) with
          | none =>
              have hnot : ¬(findRtxMapping current.mapping
                  (reportOf head block tail elements paddingSize).header.payloadType ≠ none ∧
                  current.mapping.targetRtxSsrc ≠ 0) := by
                rintro ⟨hfound, hssrc⟩
                obtain ⟨rtx, hrtx'⟩ := Option.ne_none_iff_exists'.mp hfound
                simp [hrtx', hssrc] at hrtx
              simp only [implies_true, true_iff]
              exact fun h => hnot ⟨h.1, h.2.1⟩
          | some rtx =>
              obtain ⟨hfound, hssrc⟩ := Option.filter_eq_some_iff.mp hrtx
              have hne : (current.allocateSequenceNumber true).2.output ≠ current.output :=
                fun h => current.allocate_spaces_ne true (congrArg OutputStream.spaces h)
              have h12 : 12 ≤ head.length := hwf.headLength ▸ baseHeaderSize_ge head
              have hframed := rtxHead_framed hwf.toFramed rtx.targetPayloadType
                (current.allocateSequenceNumber true).1 current.mapping.targetRtxSsrc
              have hpacket : (rtxResult current.mapping primary rtx (head ++ block ++ tail)
                  (reportOf head block tail elements paddingSize)
                  (current.allocateSequenceNumber true).1).packet = _ :=
                assembleRetransmission_eq h12 _ _ _
              have hstamp := stampTransportCc_isOk_iff current.mapping transportSequenceNumber
                hframed hpacket
              have hwritable : TransportCcWritable (reportOf head block tail elements paddingSize)
                  current.mapping.targetTransportCcExtensionId ↔ ∃ value,
                  valueAt elements current.mapping.targetTransportCcExtensionId = some value ∧
                  value.length = 2 := Iff.rfl
              have hresult : NoRetransmission (stampTransportCc current.mapping
                  transportSequenceNumber (rtxResult current.mapping primary rtx
                  (head ++ block ++ tail) (reportOf head block tail elements paddingSize)
                  (current.allocateSequenceNumber true).1)) ↔
                  ¬∃ out, stampTransportCc current.mapping transportSequenceNumber
                    (rtxResult current.mapping primary rtx (head ++ block ++ tail)
                    (reportOf head block tail elements paddingSize)
                    (current.allocateSequenceNumber true).1) = .ok out := by
                cases stampTransportCc current.mapping transportSequenceNumber (rtxResult
                  current.mapping primary rtx (head ++ block ++ tail)
                  (reportOf head block tail elements paddingSize)
                  (current.allocateSequenceNumber true).1) <;> simp [NoRetransmission]
              have hssrc' : current.mapping.targetRtxSsrc ≠ 0 := by simpa using hssrc
              rw [hresult, hstamp, hwritable]
              simp only [hne, hfound, hssrc', imp_false, not_not, ne_eq, reduceCtorEq,
                not_false_eq_true, true_and, not_and]
              rw [← imp_iff_not_or.symm, not_not]

theorem Impl.findTarget_some {s : Impl} {targetSsrc : UInt32} {index : ℕ}
    {current : MediaRuntimeState} (h : s.findTarget targetSsrc = some (index, current)) :
    s.media[index]? = some current ∧ current.mapping.targetSsrc = targetSsrc := by
  simp only [Impl.findTarget, Option.map_eq_some_iff, Prod.mk.injEq] at h
  obtain ⟨found, hfind, rfl, rfl⟩ := h
  have hprop : found.mapping.targetSsrc = targetSsrc := by simpa using List.find?_some hfind
  exact ⟨List.find?_eq_getElem?_findIdx ▸ hfind, hprop⟩

/-- The calls of `build_retransmission` which fail after they took an RTX number. -/
def RetransmissionDisturbs (s : Impl) (packet : List UInt8) : Prop :=
  ∃ parsed index current, parseRewriteableRtpPacket packet = .ok parsed ∧
    s.findTarget parsed.header.ssrc = some (index, current) ∧ DisturbsRtx parsed current.mapping

theorem retransmission_keeps_output_iff (s : Impl) (packet : List UInt8)
    (transportSequenceNumber : UInt16) :
    (NoRetransmission (s.buildRetransmission packet transportSequenceNumber).2 →
      (s.buildRetransmission packet transportSequenceNumber).1.outputs = s.outputs) ↔
      ¬RetransmissionDisturbs s packet := by
  unfold Impl.buildRetransmission RetransmissionDisturbs
  cases hparse : parseRewriteableRtpPacket packet with
  | error e => simp
  | ok parsed =>
      simp only [Except.ok.injEq]
      cases htarget : s.findTarget parsed.header.ssrc with
      | none => simp [htarget]
      | some found =>
          obtain ⟨index, current⟩ := found
          have hkeeps := retransmit_keeps_output_iff current hparse transportSequenceNumber
          have hright : (∃ parsed' index' current', parsed = parsed' ∧
              s.findTarget parsed'.header.ssrc = some (index', current') ∧
              DisturbsRtx parsed' current'.mapping) ↔ DisturbsRtx parsed current.mapping := by
            constructor
            · rintro ⟨_, _, _, rfl, hfound, hdist⟩
              rw [htarget, Option.some.injEq, Prod.mk.injEq] at hfound
              exact hfound.2 ▸ hdist
            · exact fun hdist => ⟨parsed, index, current, rfl, htarget, hdist⟩
          rw [hright, ← hkeeps]
          exact imp_congr_right fun _ => outputs_set_iff (Impl.findTarget_some htarget).1

/-- A call which yields no packet leaves every output stream alone exactly when it is not one
of those which fail behind an allocation. -/
theorem silent_call_keeps_output_iff (s : Impl) (packet : List UInt8)
    (transportSequenceNumber : UInt16) :
    ((NoPacket (s.rewrite packet transportSequenceNumber).2 →
        (s.rewrite packet transportSequenceNumber).1.outputs = s.outputs) ↔
      ¬RewriteDisturbs s packet transportSequenceNumber) ∧
    ((NoRetransmission (s.buildRetransmission packet transportSequenceNumber).2 →
        (s.buildRetransmission packet transportSequenceNumber).1.outputs = s.outputs) ↔
      ¬RetransmissionDisturbs s packet) :=
  ⟨rewrite_keeps_output_iff s packet transportSequenceNumber,
    retransmission_keeps_output_iff s packet transportSequenceNumber⟩

/-- One video section whose MID of seventeen bytes needs the two-byte format, which the
subscriber did not allow. -/
def longMidConfig : RewriterConfig where
  sourceSessionId := ascii "publisher"
  media := [{ kind := ascii "video"
              sourceMid := ascii "0"
              targetMid := ascii "video-track-00001"
              targetSsrc := 1
              payloadTypes := [{ sourcePayloadType := 96
                                 targetPayloadType := 96
                                 clockRate := 90000
                                 codecName := ascii "VP8" }]
              headerExtensions := [⟨1, 1, kMidExtensionUri⟩] }]

/-- A packet of that section with one byte of media and no header extension. -/
def plainPacket : List UInt8 := [0x80, 96, 0, 7, 0, 0, 0, 100, 0, 0, 0, 9, 1]

/-- The first packet fails and takes the first sequence number with it. -/
theorem silent_call_disturbs_output :
    ¬ ∀ (config : RewriterConfig) (packet : List UInt8) (transportSequenceNumber : UInt16),
      NoPacket ((Impl.setConfig {} config).rewrite packet transportSequenceNumber).2 →
      ((Impl.setConfig {} config).rewrite packet transportSequenceNumber).1.outputs =
        (Impl.setConfig {} config).outputs := by
  intro hall
  have hfails : ((Impl.setConfig {} longMidConfig).rewrite plainPacket 0).2 = .error (ascii
      "whep rtp target header extensions require two-byte format without extmap-allow-mixed") := by
    decide +kernel
  have hmoved : ((Impl.setConfig {} longMidConfig).rewrite plainPacket 0).1.outputs ≠
      (Impl.setConfig {} longMidConfig).outputs := by decide +kernel
  refine hmoved (hall longMidConfig plainPacket 0 ?_)
  rw [hfails]
  trivial

end SimpleWebrtc.RtpRewriter
