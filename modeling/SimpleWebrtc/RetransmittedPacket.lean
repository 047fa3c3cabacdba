import SimpleWebrtc.PatchedExtensions

/-!
# Retransmitted packets

A retransmission is the packet itself or, over RTX, the packet rewritten to the
RTX payload type, number and SSRC with its own number in front of the payload.
In both the transport-wide number is written over the one which was sent.
-/
namespace SimpleWebrtc.RtpRewriter
open Library Library.Bytes RtpHeaderExtension RtpPacket RewrittenExtensions

/-! ## The transport-wide number -/

/-- The section's transport-wide extension, where it has one, has two bytes to write to. -/
def TransportCcFits (mapping : MediaMapping) (elements : List ParsedHeaderExtension) : Prop :=
  mapping.targetTransportCcExtensionId ≠ 0 →
    ∃ value, valueAt elements mapping.targetTransportCcExtensionId = some value ∧ value.length = 2

/-- A block and its elements once the number is written, where the section has one. -/
def StampedFor (mapping : MediaMapping) (number : UInt16) (block block' : List UInt8)
    (elements elements' : List ParsedHeaderExtension) : Prop :=
  (mapping.targetTransportCcExtensionId = 0 ∧ block' = block ∧ elements' = elements) ∨
    mapping.targetTransportCcExtensionId ≠ 0 ∧ ∃ offset,
      Stamped mapping.targetTransportCcExtensionId number block block' elements elements' offset

/-- The transport-wide extension of a packet holds a number. -/
def CarriesNumber (mapping : MediaMapping) (number : UInt16) (packet : List UInt8) : Prop :=
  mapping.targetTransportCcExtensionId ≠ 0 → ∃ span,
    findRtpHeaderExtension packet mapping.targetTransportCcExtensionId = .ok (some span) ∧
      span.bytes packet = u16Bytes number

/-- The positions of the transport-wide number in a packet. -/
def InTransportCc (mapping : MediaMapping) (packet : List UInt8) (i : ℕ) : Prop :=
  mapping.targetTransportCcExtensionId ≠ 0 ∧ ∃ span,
    findRtpHeaderExtension packet mapping.targetTransportCcExtensionId = .ok (some span) ∧
      span.offset ≤ i ∧ i < span.offset + span.size

/-- The header extensions of a packet but for the section's transport-wide one. -/
def otherExtensions (mapping : MediaMapping) (elements : List ParsedHeaderExtension) :
    List ParsedHeaderExtension :=
  elements.filter fun e => decide (mapping.targetTransportCcExtensionId = 0 ∨
    e.id ≠ mapping.targetTransportCcExtensionId)

section
variable {mapping : MediaMapping} {number : UInt16} {head block block' : List UInt8}
  {elements elements' : List ParsedHeaderExtension}

theorem exists_stampedFor (hframed : Framed head block elements)
    (h : TransportCcFits mapping elements) (number : UInt16) :
    ∃ block' elements', StampedFor mapping number block block' elements elements' := by
  by_cases hid : mapping.targetTransportCcExtensionId = 0
  · exact ⟨block, elements, Or.inl ⟨hid, rfl, rfl⟩⟩
  · obtain ⟨value, hvalue, htwo⟩ := h hid
    have hblock := hframed.block
    split_ifs at hblock
    · obtain ⟨block', elements', offset, hstamped⟩ := exists_stamped hblock hid hvalue htwo number
      exact ⟨block', elements', Or.inr ⟨hid, offset, hstamped⟩⟩
    · rw [hblock.2] at hvalue
      cases hvalue

theorem StampedFor.length (h : StampedFor mapping number block block' elements elements') :
    block'.length = block.length := by
  rcases h with ⟨-, rfl, -⟩ | ⟨-, offset, hstamped⟩
  · rfl
  · exact hstamped.length

theorem StampedFor.isEmpty (h : StampedFor mapping number block block' elements elements') :
    block'.isEmpty = block.isEmpty := by
  rw [Bool.eq_iff_iff, List.isEmpty_iff_length_eq_zero, List.isEmpty_iff_length_eq_zero, h.length]

/-- The block still reads. -/
theorem StampedFor.read (h : StampedFor mapping number block block' elements elements')
    (hframed : Framed head block elements) :
    (block' = [] ∧ elements' = []) ∨ ExtensionBlock block' elements' := by
  rcases h with ⟨-, rfl, rfl⟩ | ⟨-, offset, hstamped⟩
  · have hblock := hframed.block
    split_ifs at hblock
    · exact Or.inr hblock
    · exact Or.inl hblock
  · exact Or.inr hstamped.read

theorem StampedFor.others (h : StampedFor mapping number block block' elements elements') :
    otherExtensions mapping elements' = otherExtensions mapping elements := by
  rcases h with ⟨-, -, rfl⟩ | ⟨hid, offset, hstamped⟩
  · rfl
  · simp only [otherExtensions, hid, false_or]
    exact hstamped.others

/-- What the call writes is the stamped block, whatever header it is behind. -/
theorem StampedFor.stamp (h : StampedFor mapping number block block' elements elements')
    (hframed : Framed head block elements) {tail : List UInt8} {result : RetransmissionResult}
    (hpacket : result.packet = head ++ block ++ tail) :
    ∃ out, stampTransportCc mapping number result = .ok out ∧
      out.packet = head ++ block' ++ tail ∧
      out.targetSequenceNumber = result.targetSequenceNumber := by
  rcases h with ⟨hid, rfl, -⟩ | ⟨hid, offset, hstamped⟩
  · exact ⟨result, by simp [stampTransportCc, hid], hpacket, rfl⟩
  · have hwrite : writeTransportSequenceNumber result.packet mapping.targetTransportCcExtensionId
        number = .ok (head ++ block' ++ tail) := by
      rw [hpacket, writeTransportSequenceNumber, hstamped.found head tail hframed,
        ← hstamped.written head tail]
      rfl
    refine ⟨{ result with
      packet := head ++ block' ++ tail, transportSequenceNumber := some number }, ?_, rfl, rfl⟩
    rw [stampTransportCc, if_neg hid, hwrite]

theorem StampedFor.carries (h : StampedFor mapping number block block' elements elements')
    {head' : List UInt8} (hframed : Framed head' block' elements') (tail : List UInt8) :
    CarriesNumber mapping number (head' ++ block' ++ tail) := by
  intro hid
  rcases h with ⟨hzero, -, -⟩ | ⟨-, offset, hstamped⟩
  · exact absurd hzero hid
  · obtain ⟨e, hfind, hvalue⟩ := Option.map_eq_some_iff.mp hstamped.value
    have hpoints := hframed.find tail hid
    rw [hfind] at hpoints
    obtain ⟨span, hresult, hholds⟩ := hpoints
    exact ⟨span, hresult, hholds.bytes.trans hvalue⟩

/-- Only bytes of the number are other than they were in the block. -/
theorem StampedFor.bytes (h : StampedFor mapping number block block' elements elements')
    (hframed : Framed head block elements) (tail : List UInt8) {i : ℕ}
    (hi : byteAt block' i ≠ byteAt block i) :
    InTransportCc mapping (head ++ block ++ tail) (head.length + i) := by
  rcases h with ⟨-, rfl, -⟩ | ⟨hid, offset, hstamped⟩
  · exact absurd rfl hi
  · obtain ⟨hlow, hhigh⟩ := hstamped.bytes i hi
    refine ⟨hid, _, hstamped.found head tail hframed, ?_, ?_⟩
    · exact Nat.add_le_add_left hlow _
    · simp only
      omega

end

/-! ## The header of an RTX packet -/

theorem extensionBit_table : ∀ n < 256,
    (n &&& 0x10 = 0 → (UInt8.ofNat n &&& ~~~0x10) = UInt8.ofNat n) ∧
      (n &&& 0x10 ≠ 0 → (UInt8.ofNat n ||| 0x10) = UInt8.ofNat n) := by decide +kernel

/-- An RTX packet is rewritten but for its timestamp. -/
theorem rtxHead_eq {head block : List UInt8}
    (hext : hasExtension head = !block.isEmpty) (targetPayloadType : UInt8)
    (sequenceNumber : UInt16) (ssrc : UInt32) :
    rtxHead head targetPayloadType sequenceNumber ssrc =
      rewrittenHead head block targetPayloadType sequenceNumber (readU32 head 4) ssrc := by
  obtain ⟨hclear, hset⟩ := extensionBit_table (byteAt head 0) (byteAt_lt head 0)
  have hflag : (if block.isEmpty then UInt8.ofNat (byteAt head 0) &&& ~~~0x10
      else UInt8.ofNat (byteAt head 0) ||| 0x10) = UInt8.ofNat (byteAt head 0) := by
    cases hempty : block.isEmpty with
    | true =>
        rw [hempty] at hext
        simp only [hasExtension, Bool.not_true, decide_eq_false_iff_not, ne_eq, not_not] at hext
        rw [if_pos rfl, hclear hext]
    | false =>
        rw [hempty] at hext
        simp only [hasExtension, Bool.not_false, decide_eq_true_eq] at hext
        rw [if_neg Bool.false_ne_true, hset hext]
  simp only [rtxHead, rewrittenHead, hflag, set_byteAt]
  set typed := writeU16 (head.set 1 ((UInt8.ofNat (byteAt head 1) &&& 0x80) ||| targetPayloadType)) 2
    sequenceNumber with htyped
  have hsame : readU32 head 4 = readU32 typed 4 := by
    apply readU32_congr
    intro j hlow hhigh
    rw [htyped, byteAt_writeU16 _ _ (Or.inr (by omega)), byteAt_set, if_neg (by omega)]
  rw [hsame, writeU32_readU32]

/-- The bytes of the header which an RTX packet has of its own. -/
theorem byteAt_rtxHead {head : List UInt8} {targetPayloadType : UInt8} {sequenceNumber : UInt16}
    {ssrc : UInt32} {i : ℕ} (h : byteAt (rtxHead head targetPayloadType sequenceNumber ssrc) i ≠
      byteAt head i) : i = 1 ∨ i = 2 ∨ i = 3 ∨ 8 ≤ i ∧ i < 12 := by
  by_contra hout
  apply h
  rw [rtxHead, byteAt_writeU32 _ _ (by omega), byteAt_writeU16 _ _ (by omega), byteAt_set,
    if_neg (by omega)]

/-- A payload keeps its padding behind more bytes. -/
theorem assembled_prepend {head block tail : List UInt8}
    {elements : List ParsedHeaderExtension} {paddingSize : ℕ}
    (h : Assembled head block tail elements paddingSize) (more : List UInt8) :
    Assembled head block (more ++ tail) elements paddingSize := by
  refine ⟨h.toFramed, h.notRtcp, ?_⟩
  have hpadding := h.padding
  split_ifs at hpadding ⊢
  · obtain ⟨hpos, hle, hlast⟩ := hpadding
    refine ⟨hpos, ?_, ?_⟩
    · rw [List.length_append]
      omega
    · rw [lastByte_append (by omega), hlast]
  · exact hpadding

/-! ## What is restored -/

/-- The payload type and SSRC a section retransmits a payload type with over RTX, where it does. -/
def rtxTarget (mapping : MediaMapping) (payloadType : UInt8) : Option (UInt8 × UInt32) :=
  ((findRtxMapping mapping payloadType).filter fun _ => decide (mapping.targetRtxSsrc ≠ 0)).map
    fun rtx => (rtx.targetPayloadType, mapping.targetRtxSsrc)

/-- The packet itself, but for the transport-wide number. -/
structure SamePacket (mapping : MediaMapping) (packet : List UInt8) (number : UInt16)
    (result : List UInt8) : Prop where
  length : result.length = packet.length
  transportCc : CarriesNumber mapping number result
  bytes : ∀ i, byteAt result i ≠ byteAt packet i → InTransportCc mapping packet i

/-- The packet over RTX: its number is in front of its payload, and the header differs in the
fields of the RTX stream and the transport-wide number alone. -/
structure RepeatsOverRtx (mapping : MediaMapping) (packet : List UInt8) (parsed : ParsedRtpPacket)
    (target : UInt8 × UInt32) (number : UInt16) (result : RetransmissionResult)
    (out : ParsedRtpPacket) : Prop where
  parse : parseRewriteableRtpPacket result.packet = .ok out
  payloadType : out.header.payloadType = target.1
  ssrc : out.header.ssrc = target.2
  sequenceNumber : out.header.sequenceNumber = result.targetSequenceNumber
  marker : out.header.marker = parsed.header.marker
  timestamp : out.header.timestamp = parsed.header.timestamp
  csrc : csrcList result.packet = csrcList packet
  padding : out.padding = parsed.padding
  payloadSize : out.payloadDataSize = parsed.payloadDataSize + kRtxOriginalSequenceSize
  payloadOffset : out.payloadOffset = parsed.payloadOffset
  payload : result.packet.drop out.payloadOffset =
    u16Bytes parsed.header.sequenceNumber ++ packet.drop parsed.payloadOffset
  headerExtensions : otherExtensions mapping out.headerExtensions =
    otherExtensions mapping parsed.headerExtensions
  transportCc : CarriesNumber mapping number result.packet
  bytes : ∀ i < parsed.payloadOffset, byteAt result.packet i ≠ byteAt packet i →
    i = 1 ∨ i = 2 ∨ i = 3 ∨ (8 ≤ i ∧ i < 12) ∨ InTransportCc mapping packet i

/-- A retransmission was built, and the packet can be restored from it. -/
def Restores (mapping : MediaMapping) (packet : List UInt8) (number : UInt16)
    (outcome : Except Text RetransmissionResult) : Prop :=
  ∃ parsed result, parseRewriteableRtpPacket packet = .ok parsed ∧ outcome = .ok result ∧
    match rtxTarget mapping parsed.header.payloadType with
    | none => SamePacket mapping packet number result.packet
    | some target => ∃ out, RepeatsOverRtx mapping packet parsed target number result out

section
variable {mapping : MediaMapping} {number : UInt16} {head block block' tail : List UInt8}
  {elements elements' : List ParsedHeaderExtension} {paddingSize : ℕ}

theorem framed_hasExtension (h : Framed head block elements) :
    hasExtension head = !block.isEmpty := by
  have hblock := h.block
  split_ifs at hblock with hx
  · obtain ⟨h4, -⟩ := block_at [] [] hblock
    have hne : block ≠ [] := List.ne_nil_of_length_pos (by omega)
    rw [hx, List.isEmpty_eq_false_iff.mpr hne]
    rfl
  · rw [Bool.not_eq_true] at hx
    rw [hx, hblock.1]
    rfl

theorem stampTransportCc_isOk_iff_fits (mapping : MediaMapping) (number : UInt16)
    (hframed : Framed head block elements) {result : RetransmissionResult}
    (hpacket : result.packet = head ++ block ++ tail) :
    (∃ out, stampTransportCc mapping number result = .ok out) ↔
      TransportCcFits mapping elements :=
  (stampTransportCc_isOk_iff mapping number hframed hpacket).trans or_iff_not_imp_left

/-- A stamped packet is the packet but for the number. -/
theorem StampedFor.samePacket (h : StampedFor mapping number block block' elements elements')
    (hframed : Framed head block elements) (hframed' : Framed head block' elements') :
    SamePacket mapping (head ++ block ++ tail) number (head ++ block' ++ tail) := by
  constructor
  · simp only [List.length_append, h.length]
  · exact h.carries hframed' tail
  · intro i hi
    obtain ⟨hlow, hhigh⟩ := byteAt_replaced h.length hi
    obtain ⟨j, rfl⟩ : ∃ j, i = head.length + j := ⟨i - head.length, by omega⟩
    apply h.bytes hframed tail
    rw [List.append_assoc, List.append_assoc, byteAt_append_right, byteAt_append_right,
      byteAt_append_left (by rw [h.length]; omega), byteAt_append_left (by omega)] at hi
    exact hi

theorem StampedFor.framed (h : StampedFor mapping number block block' elements elements')
    (hframed : Framed head block elements) : Framed head block' elements' := by
  refine ⟨hframed.headLength, hframed.version, ?_⟩
  have hread := h.read hframed
  rw [framed_hasExtension hframed, ← h.isEmpty]
  rcases hread with ⟨rfl, rfl⟩ | hblock
  · simp
  · obtain ⟨h4, -⟩ := block_at [] [] hblock
    have hne : block' ≠ [] := List.ne_nil_of_length_pos (by omega)
    rw [List.isEmpty_eq_false_iff.mpr hne]
    exact hblock

/-- The bytes in front of the payload of a stamped RTX packet. -/
theorem StampedFor.rtx_bytes (h : StampedFor mapping number block block' elements elements')
    (hframed : Framed head block elements) {targetPayloadType : UInt8} {sequenceNumber : UInt16}
    {ssrc : UInt32} {more : List UInt8} {i : ℕ} (hlt : i < head.length + block.length)
    (hi : byteAt (rtxHead head targetPayloadType sequenceNumber ssrc ++ block' ++ more) i ≠
      byteAt (head ++ block ++ tail) i) :
    i = 1 ∨ i = 2 ∨ i = 3 ∨ (8 ≤ i ∧ i < 12) ∨ InTransportCc mapping (head ++ block ++ tail) i := by
  have hlen : (rtxHead head targetPayloadType sequenceNumber ssrc).length = head.length := by
    simp [rtxHead]
  by_cases hhead : i < head.length
  · rw [List.append_assoc, List.append_assoc, byteAt_append_left (by omega),
      byteAt_append_left hhead] at hi
    have hown := byteAt_rtxHead hi
    tauto
  · obtain ⟨j, rfl⟩ : ∃ j, i = head.length + j := ⟨i - head.length, by omega⟩
    have hright : byteAt (rtxHead head targetPayloadType sequenceNumber ssrc ++ block' ++ more)
        (head.length + j) = byteAt block' j := by
      rw [List.append_assoc, ← hlen, byteAt_append_right,
        byteAt_append_left (by rw [h.length]; omega)]
    rw [hright, List.append_assoc, byteAt_append_right, byteAt_append_left (by omega)] at hi
    have hnumber := h.bytes hframed tail hi
    tauto

theorem looksLikeRtcp_iff {targetPayloadType : UInt8} :
    LooksLikeRtcp (reportOf head block tail elements paddingSize) targetPayloadType ↔
      (byteAt head 1 &&& 0x80 ≠ 0 ∧ 64 ≤ targetPayloadType.toNat ∧
        targetPayloadType.toNat ≤ 95) :=
  and_congr_left' decide_eq_true_iff

/-- The packet is restored from its RTX packet. -/
theorem StampedFor.repeats (h : StampedFor mapping number block block' elements elements')
    (hwf : Assembled head block tail elements paddingSize) {targetPayloadType : UInt8}
    (hpt : targetPayloadType.toNat < 128)
    (hrtcp : ¬LooksLikeRtcp (reportOf head block tail elements paddingSize) targetPayloadType)
    {ssrc : UInt32} {result : RetransmissionResult}
    (hpacket : result.packet = rtxHead head targetPayloadType result.targetSequenceNumber ssrc ++
      block' ++ (u16Bytes (readHeader head).sequenceNumber ++ tail)) :
    ∃ out, RepeatsOverRtx mapping (head ++ block ++ tail)
      (reportOf head block tail elements paddingSize) (targetPayloadType, ssrc) number result
      out := by
  have h12 : 12 ≤ head.length := hwf.headLength ▸ baseHeaderSize_ge head
  have hflag : hasExtension head = !block'.isEmpty := by
    rw [framed_hasExtension hwf.toFramed, h.isEmpty]
  have hhead := rtxHead_eq hflag targetPayloadType result.targetSequenceNumber ssrc
  have hprepended := assembled_prepend hwf (u16Bytes (readHeader head).sequenceNumber)
  have hassembled := @rewritten_assembled _ _ _ _ _ _ _ hprepended _ hpt
    (fun hlooks => hrtcp (looksLikeRtcp_iff.mpr hlooks)) (h.read hwf.toFramed)
    result.targetSequenceNumber (readU32 head 4) ssrc none (by simp)
  rw [← hhead] at hassembled
  set head' := rtxHead head targetPayloadType result.targetSequenceNumber ssrc with hhead'
  have hlen : head'.length = head.length := by simp [hhead', rtxHead]
  have hparse := hassembled.parse
  have htail : rewrittenTail (u16Bytes (readHeader head).sequenceNumber ++ tail) none =
      u16Bytes (readHeader head).sequenceNumber ++ tail := rfl
  rw [htail] at hassembled hparse
  rw [← hpacket] at hparse
  have hheader := readHeader_rewrittenHead block' targetPayloadType result.targetSequenceNumber
    (readU32 head 4) ssrc h12 hpt
  rw [← hhead] at hheader
  have hpad : hasPadding head' = hasPadding head := by
    rw [hhead]
    exact (rewrittenHead_flags block' targetPayloadType result.targetSequenceNumber
      (readU32 head 4) ssrc h12).2.1
  refine ⟨_, hparse, ?_, ?_, ?_, ?_, ?_, ?_, hpad, ?_, ?_, ?_, h.others, ?_, ?_⟩
  · exact congrArg RtpPacketHeader.payloadType hheader
  · exact congrArg RtpPacketHeader.ssrc hheader
  · exact congrArg RtpPacketHeader.sequenceNumber hheader
  · have hmarker : (readHeader head').marker = (readHeader head).marker := by rw [hheader]
    exact hmarker
  · have htimestamp : (readHeader head').timestamp = readU32 head 4 := by rw [hheader]
    exact htimestamp
  · have hdrop : head'.drop 12 = head.drop 12 := by
      rw [hhead]
      exact rewrittenHead_drop block' targetPayloadType result.targetSequenceNumber
        (readU32 head 4) ssrc
    rw [hpacket, List.append_assoc, csrcList_append hassembled.headLength, List.append_assoc,
      csrcList_append hwf.headLength, hdrop]
  · have hpadding := hwf.padding
    have hsize : paddingSize ≤ tail.length := by
      split_ifs at hpadding
      · exact hpadding.2.1
      · omega
    simp only [reportOf, List.length_append, u16Bytes_length, kRtxOriginalSequenceSize]
    omega
  · simp only [reportOf, hlen, h.length]
  · have hoffset : (reportOf head' block'
        (u16Bytes (readHeader head).sequenceNumber ++ tail) elements' paddingSize).payloadOffset =
        (head' ++ block').length := by
      rw [List.length_append]
      rfl
    have hoffset' : (reportOf head block tail elements paddingSize).payloadOffset =
        (head ++ block).length := by
      rw [List.length_append]
      rfl
    rw [hpacket, hoffset, List.drop_left, hoffset', List.drop_left]
    rfl
  · rw [hpacket]
    exact h.carries hassembled.toFramed _
  · intro i hlt hi
    rw [hpacket] at hi
    exact h.rtx_bytes hwf.toFramed hlt hi

/-- What looks like RTCP is not read as an RTX packet. -/
theorem StampedFor.not_repeats (h : StampedFor mapping number block block' elements elements')
    (hwf : Assembled head block tail elements paddingSize) {targetPayloadType : UInt8}
    (hpt : targetPayloadType.toNat < 128)
    (hrtcp : LooksLikeRtcp (reportOf head block tail elements paddingSize) targetPayloadType)
    {sequenceNumber : UInt16} {ssrc : UInt32} {more : List UInt8} {out : ParsedRtpPacket} :
    parseRewriteableRtpPacket (rtxHead head targetPayloadType sequenceNumber ssrc ++ block' ++
      more) ≠ .ok out := by
  intro hparse
  have h12 : 12 ≤ head.length := hwf.headLength ▸ baseHeaderSize_ge head
  have hflag : hasExtension head = !block'.isEmpty := by
    rw [framed_hasExtension hwf.toFramed, h.isEmpty]
  have hlooks := isRtcpPacket_rewritten block' (block' ++ more) h12 hwf.version hpt sequenceNumber
    (readU32 head 4) ssrc (looksLikeRtcp_iff.mp hrtcp)
  rw [← rtxHead_eq hflag, ← List.append_assoc, parsed_not_rtcp hparse] at hlooks
  cases hlooks

end

/-- A packet of a payload type with generic NACK is restored exactly when its transport-wide
number can be written and its RTX packet does not look like RTCP. -/
theorem retransmit_restores_iff {current : MediaRuntimeState} {packet : List UInt8}
    {parsed : ParsedRtpPacket} (hparse : parseRewriteableRtpPacket packet = .ok parsed)
    (hvalid : MappingValid current.mapping) {primary : PayloadTypeMapping}
    (hprimary : findPrimaryMapping current.mapping parsed.header.payloadType = some primary)
    (hnack : primary.nack = true) (number : UInt16) :
    Restores current.mapping packet number (retransmit current packet parsed number).2 ↔
      TransportCcFits current.mapping parsed.headerExtensions ∧
      ∀ target ∈ rtxTarget current.mapping parsed.header.payloadType,
        ¬LooksLikeRtcp parsed target.1 := by
  obtain ⟨head, block, tail, elements, paddingSize, rfl, hwf, rfl⟩ := assembled_of_parse hparse
  have h12 : 12 ≤ head.length := hwf.headLength ▸ baseHeaderSize_ge head
  set parsed := reportOf head block tail elements paddingSize with hparsed
  have helements : parsed.headerExtensions = elements := rfl
  unfold Restores rtxTarget
  simp only [retransmit, hprimary, hnack, Bool.true_eq_false, if_false, hparse, Except.ok.injEq,
    exists_and_left, exists_eq_left', helements]
  cases hrtx : (findRtxMapping current.mapping parsed.header.payloadType).filter
      fun _ => decide (current.mapping.targetRtxSsrc ≠ 0) with
  | none =>
      have hpacket : (originalResult current.mapping primary (head ++ block ++ tail)
          parsed).packet = head ++ block ++ tail := rfl
      have hok := stampTransportCc_isOk_iff_fits current.mapping number hwf.toFramed hpacket
      simp only [Option.map_none, Option.not_mem_none, false_implies, implies_true, and_true]
      constructor
      · intro hrestores
        obtain ⟨result, hresult, -⟩ := hrestores
        exact hok.mp ⟨result, hresult⟩
      · intro hfits
        obtain ⟨block', elements', hstamped⟩ := exists_stampedFor hwf.toFramed hfits number
        obtain ⟨result, hresult, hout, -⟩ := hstamped.stamp hwf.toFramed hpacket
        refine ⟨result, hresult, ?_⟩
        rw [hout]
        exact hstamped.samePacket hwf.toFramed (hstamped.framed hwf.toFramed)
  | some rtx =>
      have hpt : rtx.targetPayloadType.toNat < 128 := by
        obtain ⟨hfound, -⟩ := Option.filter_eq_some_iff.mp hrtx
        exact hvalid.payloadTypes rtx (List.mem_of_find?_eq_some hfound)
      have hframed := rtxHead_framed hwf.toFramed rtx.targetPayloadType
        (current.allocateSequenceNumber true).1 current.mapping.targetRtxSsrc
      have hpacket : (rtxResult current.mapping primary rtx (head ++ block ++ tail) parsed
          (current.allocateSequenceNumber true).1).packet = _ := assembleRetransmission_eq h12 _ _ _
      have hok := stampTransportCc_isOk_iff_fits current.mapping number hframed hpacket
      simp only [Option.map_some, Option.mem_some_iff, forall_eq']
      constructor
      · intro hrestores
        obtain ⟨result, hresult, out, hrepeats⟩ := hrestores
        have hfits := hok.mp ⟨result, hresult⟩
        refine ⟨hfits, ?_⟩
        intro hlooks
        obtain ⟨block', elements', hstamped⟩ := exists_stampedFor hwf.toFramed hfits number
        obtain ⟨other, hother, hout, -⟩ := hstamped.stamp hframed hpacket
        rw [hresult] at hother
        obtain rfl := Except.ok.inj hother
        have hread := hrepeats.parse
        rw [hout] at hread
        exact hstamped.not_repeats hwf hpt hlooks hread
      · intro hboth
        obtain ⟨hfits, hlooks⟩ := hboth
        obtain ⟨block', elements', hstamped⟩ := exists_stampedFor hwf.toFramed hfits number
        obtain ⟨result, hresult, hout, hnumber⟩ := hstamped.stamp hframed hpacket
        refine ⟨result, hresult, hstamped.repeats hwf hpt hlooks ?_⟩
        rw [hout, hnumber]
        rfl

end SimpleWebrtc.RtpRewriter
