import SimpleWebrtc.RewriterRuns

/-!
# The rewritten packet is read back

The bytes a rewrite puts out are again a header, an extension block and a
payload, so the parser of the input accepts them and reports what was put in.
There are three ways in which this goes wrong, and they are exact: a marked
packet whose payload type makes its second byte look like an RTCP packet type,
a MID longer than the length byte of its element, and a transport-wide id which
the section also uses for another extension.
-/
namespace SimpleWebrtc.RtpRewriter
open Library Library.Bytes RtpHeaderExtension RtpPacket RewrittenExtensions

/-- What a configuration guarantees of a section's mapping. -/
structure MappingValid (mapping : MediaMapping) : Prop where
  targetIds : ∀ e ∈ mapping.headerExtensions, e.targetId ≠ 0
  payloadTypes : ∀ p ∈ mapping.payloadTypes, p.targetPayloadType.toNat < 128

theorem MappingValid.midIdNonzero {mapping : MediaMapping} (h : MappingValid mapping) :
    MidIdNonzero mapping := fun m hm => h.targetIds m (List.mem_of_find?_eq_some hm)

/-- The contributing sources in the header of a packet. -/
def csrcList (packet : List UInt8) : List UInt8 :=
  (packet.drop kRtpFixedHeaderSize).take (csrcCount packet * kRtpCsrcSize)

/-! ## The header of a rewritten packet -/

theorem firstByte_table : ∀ n < 256,
    ((UInt8.ofNat n &&& ~~~0x10).toNat &&& 0x10 = 0 ∧
      (UInt8.ofNat n &&& ~~~0x10).toNat &&& 0x20 = n &&& 0x20 ∧
      (UInt8.ofNat n &&& ~~~0x10).toNat &&& 0x0F = n &&& 0x0F ∧
      (UInt8.ofNat n &&& ~~~0x10).toNat >>> 6 = n >>> 6) ∧
    ((UInt8.ofNat n ||| 0x10).toNat &&& 0x10 ≠ 0 ∧
      (UInt8.ofNat n ||| 0x10).toNat &&& 0x20 = n &&& 0x20 ∧
      (UInt8.ofNat n ||| 0x10).toNat &&& 0x0F = n &&& 0x0F ∧
      (UInt8.ofNat n ||| 0x10).toNat >>> 6 = n >>> 6) := by decide +kernel

theorem markerBit_table : ∀ n < 256, (UInt8.ofNat n &&& 0x80 = 0 ∧ n &&& 0x80 = 0) ∨
    (UInt8.ofNat n &&& 0x80 = 0x80 ∧ n &&& 0x80 ≠ 0) := by decide +kernel

theorem secondByte_table : ∀ p < 128,
    (((0 : UInt8) ||| UInt8.ofNat p).toNat = p ∧ p &&& 0x80 = 0 ∧ p &&& 0x7F = p) ∧
    (((0x80 : UInt8) ||| UInt8.ofNat p).toNat = 128 + p ∧ (128 + p) &&& 0x80 ≠ 0 ∧
      (128 + p) &&& 0x7F = p) := by decide +kernel

/-- The second byte keeps the marker bit and carries the target payload type. -/
theorem secondByte_toNat {b : ℕ} (hb : b < 256) {payloadType : UInt8}
    (hpt : payloadType.toNat < 128) :
    let byte := ((UInt8.ofNat b &&& 0x80) ||| payloadType).toNat
    (byte &&& 0x80 ≠ 0 ↔ b &&& 0x80 ≠ 0) ∧ byte &&& 0x7F = payloadType.toNat ∧
      (192 ≤ byte ∧ byte ≤ 223 ↔
        b &&& 0x80 ≠ 0 ∧ 64 ≤ payloadType.toNat ∧ payloadType.toNat ≤ 95) := by
  have hrow := secondByte_table payloadType.toNat hpt
  rw [UInt8.ofNat_toNat] at hrow
  obtain ⟨⟨h₀, h₀m, h₀t⟩, h₁, h₁m, h₁t⟩ := hrow
  rcases markerBit_table b hb with ⟨hmask, hclear⟩ | ⟨hmask, hset⟩
  · simp only [hmask, h₀, h₀m, h₀t, hclear, true_and]
    omega
  · simp only [hmask, h₁, h₁t]
    refine ⟨by simp [h₁m, hset], trivial, ?_⟩
    simp only [hset, ne_eq, not_false_eq_true, true_and]
    omega

/-- The header bytes of a rewritten packet. -/
def rewrittenHead (head block : List UInt8) (targetPayloadType : UInt8) (sequenceNumber : UInt16)
    (timestamp ssrc : UInt32) : List UInt8 :=
  let b₀ := UInt8.ofNat (byteAt head 0)
  let flagged := head.set 0 (if block.isEmpty then b₀ &&& ~~~0x10 else b₀ ||| 0x10)
  let typed := flagged.set 1 ((UInt8.ofNat (byteAt head 1) &&& 0x80) ||| targetPayloadType)
  writeU32 (writeU32 (writeU16 typed 2 sequenceNumber) 4 timestamp) 8 ssrc

section Head
variable {head : List UInt8} (block : List UInt8) (targetPayloadType : UInt8)
  (sequenceNumber : UInt16) (timestamp ssrc : UInt32)

@[simp] theorem rewrittenHead_length :
    (rewrittenHead head block targetPayloadType sequenceNumber timestamp ssrc).length =
      head.length := by simp [rewrittenHead]

theorem rewrittenHead_first (h : 12 ≤ head.length) :
    byteAt (rewrittenHead head block targetPayloadType sequenceNumber timestamp ssrc) 0 =
      (if block.isEmpty then UInt8.ofNat (byteAt head 0) &&& ~~~0x10
        else UInt8.ofNat (byteAt head 0) ||| 0x10).toNat := by
  simp only [rewrittenHead]
  rw [byteAt_writeU32 _ _ (Or.inl (by omega)), byteAt_writeU32 _ _ (Or.inl (by omega)),
    byteAt_writeU16 _ _ (Or.inl (by omega)), byteAt_set, if_neg (by omega), byteAt_set,
    if_pos ⟨rfl, by omega⟩]

theorem rewrittenHead_second (h : 12 ≤ head.length) :
    byteAt (rewrittenHead head block targetPayloadType sequenceNumber timestamp ssrc) 1 =
      ((UInt8.ofNat (byteAt head 1) &&& 0x80) ||| targetPayloadType).toNat := by
  simp only [rewrittenHead]
  rw [byteAt_writeU32 _ _ (Or.inl (by omega)), byteAt_writeU32 _ _ (Or.inl (by omega)),
    byteAt_writeU16 _ _ (Or.inl (by omega)), byteAt_set, if_pos ⟨rfl, by simp; omega⟩]

theorem rewrittenHead_words (h : 12 ≤ head.length) :
    readU16 (rewrittenHead head block targetPayloadType sequenceNumber timestamp ssrc) 2 =
      sequenceNumber ∧
    readU32 (rewrittenHead head block targetPayloadType sequenceNumber timestamp ssrc) 4 =
      timestamp ∧
    readU32 (rewrittenHead head block targetPayloadType sequenceNumber timestamp ssrc) 8 =
      ssrc := by
  simp only [rewrittenHead]
  refine ⟨?_, ?_, ?_⟩
  · rw [readU16_congr (byteAt_writeU32 _ _ (Or.inl (by omega)))
      (byteAt_writeU32 _ _ (Or.inl (by omega))),
      readU16_congr (byteAt_writeU32 _ _ (Or.inl (by omega)))
      (byteAt_writeU32 _ _ (Or.inl (by omega)))]
    exact readU16_writeU16 _ (by simp; omega)
  · rw [readU32_congr fun j hle hlt => byteAt_writeU32 _ _ (Or.inl (by omega))]
    exact readU32_writeU32 _ (by simp; omega)
  · exact readU32_writeU32 _ (by simp; omega)

theorem rewrittenHead_drop :
    (rewrittenHead head block targetPayloadType sequenceNumber timestamp ssrc).drop 12 =
      head.drop 12 := by
  have hset : ∀ (data : List UInt8) (i : ℕ) (b : UInt8), i < 12 →
      (data.set i b).drop 12 = data.drop 12 := fun data i b hi => List.drop_set_of_lt hi
  simp only [rewrittenHead, writeU32, writeU16]
  rw [hset _ _ _ (by omega), hset _ _ _ (by omega), hset _ _ _ (by omega), hset _ _ _ (by omega),
    hset _ _ _ (by omega), hset _ _ _ (by omega), hset _ _ _ (by omega), hset _ _ _ (by omega),
    hset _ _ _ (by omega), hset _ _ _ (by omega), hset _ _ _ (by omega), hset _ _ _ (by omega)]

/-- The flags and counts of the first byte survive, but for the extension flag. -/
theorem rewrittenHead_flags (h : 12 ≤ head.length) :
    let head' := rewrittenHead head block targetPayloadType sequenceNumber timestamp ssrc
    hasExtension head' = !block.isEmpty ∧ hasPadding head' = hasPadding head ∧
      csrcCount head' = csrcCount head ∧ hasRtpVersion head' = hasRtpVersion head := by
  have hfirst := rewrittenHead_first block targetPayloadType sequenceNumber timestamp ssrc h
  have hrow := firstByte_table (byteAt head 0) (byteAt_lt head 0)
  have hnil : ∀ data : List UInt8, 12 ≤ data.length → data.isEmpty = false := by
    intro data hlen
    cases data with
    | nil => simp at hlen
    | cons b bs => rfl
  have hempty := hnil _ h
  have hempty' := hnil (rewrittenHead head block targetPayloadType sequenceNumber timestamp ssrc)
    (by simpa using h)
  simp only [hasExtension, hasPadding, csrcCount, hasRtpVersion, hfirst, hempty, hempty']
  cases block.isEmpty with
  | true =>
      obtain ⟨⟨h₁, h₂, h₃, h₄⟩, -⟩ := hrow
      simp only [if_true, h₁, h₂, h₃, h₄]
      exact ⟨rfl, trivial, trivial, trivial⟩
  | false =>
      obtain ⟨-, h₁, h₂, h₃, h₄⟩ := hrow
      simp only [Bool.false_eq_true, if_false, h₂, h₃, h₄]
      exact ⟨decide_eq_true h₁, trivial, trivial, trivial⟩

/-- The parser reads the fields which were written, and the marker as it was. -/
theorem readHeader_rewrittenHead (h : 12 ≤ head.length) (hpt : targetPayloadType.toNat < 128) :
    readHeader (rewrittenHead head block targetPayloadType sequenceNumber timestamp ssrc) =
      { marker := (readHeader head).marker
        payloadType := targetPayloadType
        sequenceNumber
        timestamp
        ssrc } := by
  obtain ⟨hmark, htype, -⟩ := secondByte_toNat (byteAt_lt head 1) hpt
  obtain ⟨hseq, hts, hssrc⟩ := rewrittenHead_words block targetPayloadType sequenceNumber
    timestamp ssrc h
  simp only [readHeader, rewrittenHead_second block targetPayloadType sequenceNumber timestamp
    ssrc h, hseq, hts, hssrc, htype, UInt8.ofNat_toNat, RtpPacketHeader.mk.injEq, and_true]
  rw [decide_eq_decide]
  exact hmark

end Head

/-! ## The packet as a whole -/

/-- The payload of a rewritten packet: the input's, with the number an RTX packet repeats. -/
def rewrittenTail (tail : List UInt8) : Option UInt16 → List UInt8
  | some number => writeU16 tail 0 number
  | none => tail

theorem assemblePacket_eq {head sourceBlock tail : List UInt8}
    {elements : List ParsedHeaderExtension} {paddingSize : ℕ}
    (h12 : 12 ≤ head.length) (block : List UInt8)
    (targetPayloadType : UInt8) (sequenceNumber : UInt16) (timestamp ssrc : UInt32)
    (original : Option UInt16) :
    assemblePacket (head ++ sourceBlock ++ tail)
      (reportOf head sourceBlock tail elements paddingSize) block targetPayloadType sequenceNumber
      timestamp ssrc original =
      rewrittenHead head block targetPayloadType sequenceNumber timestamp ssrc ++ block ++
        rewrittenTail tail original := by
  have htake : (head ++ sourceBlock ++ tail).take
      (reportOf head sourceBlock tail elements paddingSize).baseHeaderSize = head := by
    rw [List.append_assoc]
    exact List.take_left
  have hdrop : (head ++ sourceBlock ++ tail).drop
      (reportOf head sourceBlock tail elements paddingSize).payloadOffset = tail := by
    have hoffset : (reportOf head sourceBlock tail elements paddingSize).payloadOffset =
        (head ++ sourceBlock).length := by
      rw [List.length_append]
      rfl
    rw [hoffset, List.drop_left]
  set flagged := head.set 0 (if block.isEmpty then UInt8.ofNat (byteAt head 0) &&& ~~~0x10
    else UInt8.ofNat (byteAt head 0) ||| 0x10) with hflagged
  have hlen : flagged.length = head.length := by rw [hflagged, List.length_set]
  have hblock : (if block.isEmpty then head.set 0 (UInt8.ofNat (byteAt head 0) &&& ~~~0x10)
      else head.set 0 (UInt8.ofNat (byteAt head 0) ||| 0x10) ++ block) = flagged ++ block := by
    rw [hflagged]
    cases hnil : block.isEmpty with
    | true => simp [List.isEmpty_iff.mp hnil]
    | false => simp
  have hsecond : byteAt (flagged ++ block ++ tail) 1 = byteAt head 1 := by
    rw [List.append_assoc, byteAt_append_left (by omega), hflagged, byteAt_set, if_neg (by omega)]
  have hheader : writeU32 (writeU32 (writeU16 ((flagged ++ block ++ tail).set 1
      ((UInt8.ofNat (byteAt (flagged ++ block ++ tail) 1) &&& 0x80) ||| targetPayloadType)) 2
      sequenceNumber) 4 timestamp) 8 ssrc =
      rewrittenHead head block targetPayloadType sequenceNumber timestamp ssrc ++ block ++
        tail := by
    rw [hsecond, List.append_assoc, set_append_left (by omega),
      writeU16_append_left (by simp; omega), writeU32_append_left (by simp; omega),
      writeU32_append_left (by simp; omega), ← List.append_assoc]
    rfl
  simp only [assemblePacket, htake, hdrop]
  rw [hblock, hheader]
  cases original with
  | none => rfl
  | some number =>
      have hat : (reportOf head sourceBlock tail elements paddingSize).baseHeaderSize +
          block.length = (rewrittenHead head block targetPayloadType sequenceNumber timestamp
            ssrc ++ block).length + 0 := by
        rw [List.length_append, rewrittenHead_length]
        rfl
      simp only [rewrittenTail]
      rw [hat, writeU16_append_right]

theorem rewrittenTail_length (tail : List UInt8) (original : Option UInt16) :
    (rewrittenTail tail original).length = tail.length := by
  cases original <;> simp [rewrittenTail]

/-- The padding count is not part of the number an RTX packet repeats. -/
theorem rewrittenTail_lastByte {tail : List UInt8} {original : Option UInt16}
    (h : original.isSome = true → 3 ≤ tail.length) :
    lastByte (rewrittenTail tail original) = lastByte tail := by
  cases original with
  | none => rfl
  | some number =>
      have hlen := h rfl
      simp only [lastByte, rewrittenTail, writeU16_length]
      rw [byteAt_writeU16 _ _ (Or.inr (by omega))]

theorem rewrittenTail_eq {tail : List UInt8} {number : UInt16} (h : 2 ≤ tail.length) :
    rewrittenTail tail (some number) = u16Bytes number ++ tail.drop 2 := by
  cases tail with
  | nil => simp at h
  | cons a tail =>
      cases tail with
      | nil => simp at h
      | cons b tail => rfl

/-- Rewritten parts are well-formed parts, unless the second byte looks like RTCP. -/
theorem rewritten_assembled {head sourceBlock tail block : List UInt8}
    {sources extensions : List ParsedHeaderExtension} {paddingSize : ℕ}
    (h : Assembled head sourceBlock tail sources paddingSize) {targetPayloadType : UInt8}
    (hpt : targetPayloadType.toNat < 128)
    (hrtcp : ¬(byteAt head 1 &&& 0x80 ≠ 0 ∧ 64 ≤ targetPayloadType.toNat ∧
      targetPayloadType.toNat ≤ 95))
    (hblock : (block = [] ∧ extensions = []) ∨ ExtensionBlock block extensions)
    (sequenceNumber : UInt16) (timestamp ssrc : UInt32) {original : Option UInt16}
    (hsize : original.isSome = true → 2 ≤ tail.length - paddingSize) :
    Assembled (rewrittenHead head block targetPayloadType sequenceNumber timestamp ssrc) block
      (rewrittenTail tail original) extensions paddingSize := by
  have h12 : 12 ≤ head.length := h.headLength ▸ baseHeaderSize_ge head
  obtain ⟨hext, hpad, hcsrc, hversion⟩ :=
    rewrittenHead_flags block targetPayloadType sequenceNumber timestamp ssrc h12
  have hsecond := rewrittenHead_second block targetPayloadType sequenceNumber timestamp ssrc h12
  obtain ⟨-, -, hlooks⟩ := secondByte_toNat (byteAt_lt head 1) hpt
  refine ⟨⟨?_, ?_, ?_⟩, ?_, ?_⟩
  · rw [rewrittenHead_length, h.headLength, RtpPacket.baseHeaderSize, RtpPacket.baseHeaderSize,
      hcsrc]
  · rw [hversion, h.version]
  · rw [hext]
    rcases hblock with ⟨rfl, rfl⟩ | hblock
    · simp
    · have h4 : 4 ≤ block.length := by
        rw [hblock.length, kRtpExtensionHeaderSize]
        omega
      have hne : block.isEmpty = false := by
        rw [List.isEmpty_eq_false_iff]
        exact List.ne_nil_of_length_pos (by omega)
      simp only [hne, Bool.not_false, if_true]
      exact hblock
  · rw [Bool.eq_false_iff]
    intro hpositive
    simp only [isRtcpPacket, Bool.and_eq_true, decide_eq_true_eq] at hpositive
    rw [hsecond] at hpositive
    exact hrtcp (hlooks.mp ⟨hpositive.1.2, hpositive.2⟩)
  · have hpadding := h.padding
    rw [hpad]
    split_ifs at hpadding ⊢
    · obtain ⟨hpos, hle, hlast⟩ := hpadding
      have hlong : original.isSome = true → 3 ≤ tail.length := by
        intro hsome
        have hroom := hsize hsome
        omega
      rw [rewrittenTail_length, rewrittenTail_lastByte hlong]
      exact ⟨hpos, hle, hlast⟩
    · exact hpadding

theorem isRtcpPacket_rewritten {head : List UInt8} (block more : List UInt8) (h12 : 12 ≤ head.length)
    (hversion : hasRtpVersion head = true) {targetPayloadType : UInt8}
    (hpt : targetPayloadType.toNat < 128) (sequenceNumber : UInt16) (timestamp ssrc : UInt32)
    (hlooks : byteAt head 1 &&& 0x80 ≠ 0 ∧ 64 ≤ targetPayloadType.toNat ∧
      targetPayloadType.toNat ≤ 95) :
    isRtcpPacket (rewrittenHead head block targetPayloadType sequenceNumber timestamp ssrc ++
      more) = true := by
  have hlen : (rewrittenHead head block targetPayloadType sequenceNumber timestamp ssrc).length =
      head.length := rewrittenHead_length block targetPayloadType sequenceNumber timestamp ssrc
  obtain ⟨-, -, -, hversion'⟩ :=
    rewrittenHead_flags block targetPayloadType sequenceNumber timestamp ssrc h12
  have hsecond := rewrittenHead_second block targetPayloadType sequenceNumber timestamp ssrc h12
  obtain ⟨-, -, hrange⟩ := secondByte_toNat (byteAt_lt head 1) hpt
  obtain ⟨hlow, hhigh⟩ := hrange.mpr hlooks
  rw [isRtcpPacket_append _ (by omega)]
  rw [hversion] at hversion'
  simp only [hasRtpVersion, Bool.and_eq_true, decide_eq_true_eq, Nat.shiftRight_eq_div_pow]
    at hversion'
  simp only [isRtcpPacket, isRtpOrRtcpPacket, Bool.and_eq_true, decide_eq_true_eq, hsecond]
  refine ⟨⟨⟨⟨⟨hversion'.1, ?_⟩, ?_⟩, ?_⟩, hlow⟩, hhigh⟩
  · omega
  · omega
  · omega

/-- The payload a rewritten packet should have. -/
def expectedPayload (payload : List UInt8) : Option UInt16 → List UInt8
  | some number => u16Bytes number ++ payload.drop 2
  | none => payload

/-- The target number of the packet which an RTX packet repeats. -/
def mappedOriginal (current : MediaRuntimeState) (rtx : Bool) (packet : List UInt8)
    (parsed : ParsedRtpPacket) : Option UInt16 :=
  if rtx then current.primarySequenceNumbers.find (readU16 packet parsed.payloadOffset) else none

/-- The parser reads back from a rewritten packet what the rewriter says it put in, and the rest
as it was in the input. -/
structure Faithful (packet : List UInt8) (parsed : ParsedRtpPacket) (mapping : MediaMapping)
    (original : Option UInt16) (transportSequenceNumber : UInt16) (result : RewriteResult)
    (out : ParsedRtpPacket) : Prop where
  parse : parseRewriteableRtpPacket result.packet = .ok out
  ssrc : out.header.ssrc = result.targetSsrc
  payloadType : out.header.payloadType = result.targetPayloadType
  sequenceNumber : out.header.sequenceNumber = result.targetSequenceNumber
  timestamp : out.header.timestamp = result.targetTimestamp
  marker : out.header.marker = parsed.header.marker
  csrc : csrcList result.packet = csrcList packet
  padding : out.padding = parsed.padding
  payloadSize : out.payloadDataSize = parsed.payloadDataSize
  payload : result.packet.drop out.payloadOffset =
    expectedPayload (packet.drop parsed.payloadOffset) original
  headerExtensions : rewriteHeaderExtensions parsed mapping transportSequenceNumber =
    .ok out.headerExtensions
  transportCc : ∀ number, result.transportSequenceNumber = some number → ∃ span,
    findRtpHeaderExtension result.packet mapping.targetTransportCcExtensionId =
      .ok (some span) ∧ span.bytes result.packet = u16Bytes number

/-- The second byte of the rewritten packet is in the range of RTCP packet types. -/
def LooksLikeRtcp (parsed : ParsedRtpPacket) (targetPayloadType : UInt8) : Prop :=
  parsed.header.marker = true ∧ 64 ≤ targetPayloadType.toNat ∧ targetPayloadType.toNat ≤ 95

/-- The section uses the transport-wide id for another extension the packet carries. -/
def TransportCcShadowed (mapping : MediaMapping) (sources : List ParsedHeaderExtension)
    (transportSequenceNumber : UInt16) : Prop :=
  mapping.targetTransportCcExtensionId ≠ 0 ∧ ∃ value,
    plainValueAt mapping sources mapping.targetTransportCcExtensionId = some value ∧
    value ≠ u16Bytes transportSequenceNumber

theorem csrcList_append {head : List UInt8} (h : head.length = RtpPacket.baseHeaderSize head)
    (rest : List UInt8) : csrcList (head ++ rest) = head.drop 12 := by
  have h12 : 12 ≤ head.length := h ▸ baseHeaderSize_ge head
  have hsize : csrcCount head * kRtpCsrcSize = (head.drop 12).length := by
    rw [List.length_drop, h, RtpPacket.baseHeaderSize, kRtpFixedHeaderSize, Nat.add_sub_cancel_left]
  rw [csrcList, csrcCount_append _ (by omega), hsize, kRtpFixedHeaderSize,
    List.drop_append_of_le_length h12, List.take_left]

/-- A lookup in an accepted packet finds the value the parser reports. -/
theorem find_of_parse {packet : List UInt8} {parsed : ParsedRtpPacket}
    (h : parseRewriteableRtpPacket packet = .ok parsed) {id : UInt8} (hid : id ≠ 0)
    {value : List UInt8} :
    (∃ span, findRtpHeaderExtension packet id = .ok (some span) ∧ span.bytes packet = value) ↔
      valueAt parsed.headerExtensions id = some value := by
  obtain ⟨head, block, tail, elements, paddingSize, rfl, hwf, rfl⟩ := assembled_of_parse h
  have hfind := hwf.toFramed.find tail hid
  have helements : (reportOf head block tail elements paddingSize).headerExtensions =
      elements := rfl
  rw [helements, valueAt]
  cases hfound : elements.find? fun e => decide (e.id = id) with
  | none =>
      rw [hfound] at hfind
      have hresult : findRtpHeaderExtension (head ++ block ++ tail) id = .ok none := hfind
      simp only [hresult]
      simp
  | some e =>
      rw [hfound] at hfind
      obtain ⟨span, hresult, hholds⟩ := hfind
      simp only [hresult, Except.ok.injEq, Option.some.injEq, exists_eq_left', hholds.bytes,
        Option.map_some]

theorem parsed_values_short {packet : List UInt8} {parsed : ParsedRtpPacket}
    (h : parseRewriteableRtpPacket packet = .ok parsed) :
    ∀ e ∈ parsed.headerExtensions, e.value.length ≤ 255 := by
  obtain ⟨head, block, tail, elements, paddingSize, rfl, hwf, rfl⟩ := assembled_of_parse h
  have hblock := hwf.block
  split_ifs at hblock
  · obtain ⟨-, next, hnext, hwalk⟩ := hblock
    refine value_length_le ?_ hwalk
    unfold profileReader at hnext
    split_ifs at hnext
    · exact Or.inl (Option.some.inj hnext).symm
    · exact Or.inr (Option.some.inj hnext).symm
  · intro e he
    have hnil : elements = [] := hblock.2
    have hmem : e ∈ elements := he
    rw [hnil] at hmem
    cases hmem

theorem parsed_not_rtcp {packet : List UInt8} {parsed : ParsedRtpPacket}
    (h : parseRewriteableRtpPacket packet = .ok parsed) : isRtcpPacket packet = false := by
  unfold parseRewriteableRtpPacket parseRtpPacketHeader at h
  cases hlayout : inspectRtpPacketLayout packet with
  | error e => simp [hlayout] at h
  | ok layout => exact (inspectRtpPacketLayout_ok hlayout).2.2.1

/-- The result of a rewrite is faithful exactly when none of the three collisions happens. -/
theorem rewrittenResult_faithful_iff {packet : List UInt8} {parsed : ParsedRtpPacket}
    (hparse : parseRewriteableRtpPacket packet = .ok parsed) {bound : BoundSource}
    (hvalid : MappingValid bound.current.mapping) {payloadType : PayloadTypeMapping}
    (hpt : payloadType.targetPayloadType.toNat < 128) {transportSequenceNumber : UInt16}
    {block : List UInt8}
    (hblock : extensionBlockFor parsed bound.current.mapping transportSequenceNumber = .ok block)
    {original : Option UInt16} (hsize : original.isSome = true → 2 ≤ parsed.payloadDataSize)
    (targetSequenceNumber : UInt16) (targetTimestamp : UInt32) :
    (∃ out, Faithful packet parsed bound.current.mapping original transportSequenceNumber
      (rewrittenResult bound packet parsed payloadType transportSequenceNumber original block
        targetSequenceNumber targetTimestamp) out) ↔
      ¬LooksLikeRtcp parsed payloadType.targetPayloadType ∧
      ¬MidOverflows bound.current.mapping parsed.headerExtensions ∧
      ¬TransportCcShadowed bound.current.mapping parsed.headerExtensions
        transportSequenceNumber := by
  obtain ⟨head, sourceBlock, tail, sources, paddingSize, rfl, hwf, rfl⟩ :=
    assembled_of_parse hparse
  set parsed := reportOf head sourceBlock tail sources paddingSize with hparsed
  set mapping := bound.current.mapping with hmapping
  set result := rewrittenResult bound (head ++ sourceBlock ++ tail) parsed payloadType
    transportSequenceNumber original block targetSequenceNumber targetTimestamp with hresult
  have h12 : 12 ≤ head.length := hwf.headLength ▸ baseHeaderSize_ge head
  obtain ⟨extensions, hextensions, hbuild⟩ : ∃ extensions,
      rewriteHeaderExtensions parsed mapping transportSequenceNumber = .ok extensions ∧
      buildHeaderExtensionBlock extensions mapping.targetExtmapAllowMixed = .ok block := by
    unfold extensionBlockFor at hblock
    cases hr : rewriteHeaderExtensions parsed mapping transportSequenceNumber with
    | error e => simp [hr] at hblock
    | ok extensions => exact ⟨extensions, rfl, by simpa [hr] using hblock⟩
  obtain ⟨hdistinct, hvalues⟩ := rewriteHeaderExtensions_spec hvalid.midIdNonzero hextensions
  have hshort := rewriteHeaderExtensions_short_iff hextensions
  have hmarker : (byteAt head 1 &&& 0x80 ≠ 0) ↔ parsed.header.marker = true :=
    decide_eq_true_iff.symm
  set head' := rewrittenHead head block payloadType.targetPayloadType targetSequenceNumber
    targetTimestamp (targetSsrcOf mapping payloadType.rtx) with hhead'
  have hpacket : result.packet = head' ++ block ++ rewrittenTail tail original :=
    assemblePacket_eq h12 block payloadType.targetPayloadType targetSequenceNumber
      targetTimestamp (targetSsrcOf mapping payloadType.rtx) original
  have hcc : result.transportSequenceNumber =
      if mapping.targetTransportCcExtensionId ≠ 0 then some transportSequenceNumber
      else none := rfl
  constructor
  · rintro ⟨out, hout⟩
    have hexts : out.headerExtensions = extensions :=
      Except.ok.inj (hout.headerExtensions.symm.trans hextensions)
    refine ⟨?_, ?_, ?_⟩
    · rintro ⟨hmark, hlow, hhigh⟩
      have hrtcp := isRtcpPacket_rewritten block (block ++ rewrittenTail tail original) h12
        hwf.version hpt targetSequenceNumber targetTimestamp
        (targetSsrcOf mapping payloadType.rtx) ⟨hmarker.mpr hmark, hlow, hhigh⟩
      rw [← hhead', ← List.append_assoc, ← hpacket, parsed_not_rtcp hout.parse] at hrtcp
      cases hrtcp
    · exact hshort.mp (hexts ▸ parsed_values_short hout.parse)
    · rintro ⟨hid, value, hplain, hne⟩
      have hspan := hout.transportCc transportSequenceNumber (by rw [hcc, if_pos hid])
      rw [find_of_parse hout.parse hid, hexts, hvalues, hplain] at hspan
      exact hne (Option.some.inj hspan)
  · rintro ⟨hrtcp, hmid, hshadow⟩
    have hwritten : (block = [] ∧ extensions = []) ∨ ExtensionBlock block extensions := by
      by_cases hnil : extensions = []
      · left
        simp only [hnil, buildHeaderExtensionBlock, List.isEmpty_nil, if_true,
          Except.ok.injEq] at hbuild
        exact ⟨hbuild.symm, hnil⟩
      · exact Or.inr (buildHeaderExtensionBlock_spec hbuild hdistinct.nonzero
          (hshort.mpr hmid) hnil)
    have hassembled : Assembled head' block (rewrittenTail tail original) extensions
        paddingSize :=
      rewritten_assembled hwf hpt (fun h => hrtcp ⟨hmarker.mp h.1, h.2⟩) hwritten
        targetSequenceNumber targetTimestamp (targetSsrcOf mapping payloadType.rtx) hsize
    have hread := hassembled.parse
    rw [← hpacket] at hread
    have hheader := readHeader_rewrittenHead block payloadType.targetPayloadType
      targetSequenceNumber targetTimestamp (targetSsrcOf mapping payloadType.rtx) h12 hpt
    rw [← hhead'] at hheader
    have hmark' : (readHeader head').marker = (readHeader head).marker := by rw [hheader]
    obtain ⟨-, hpad', -, -⟩ := rewrittenHead_flags block payloadType.targetPayloadType
      targetSequenceNumber targetTimestamp (targetSsrcOf mapping payloadType.rtx) h12
    have hdrop : head'.drop 12 = head.drop 12 := rewrittenHead_drop block
      payloadType.targetPayloadType targetSequenceNumber targetTimestamp
      (targetSsrcOf mapping payloadType.rtx)
    refine ⟨reportOf head' block (rewrittenTail tail original) extensions paddingSize,
      hread, congrArg RtpPacketHeader.ssrc hheader, congrArg RtpPacketHeader.payloadType hheader,
      congrArg RtpPacketHeader.sequenceNumber hheader, congrArg RtpPacketHeader.timestamp hheader,
      hmark', ?_, hpad', ?_, ?_, hextensions, ?_⟩
    · rw [hpacket, List.append_assoc, csrcList_append hassembled.headLength, List.append_assoc,
        csrcList_append hwf.headLength, hdrop]
    · simp only [reportOf, hparsed, rewrittenTail_length]
    · have hoffset : (reportOf head' block (rewrittenTail tail original) extensions
          paddingSize).payloadOffset = (head' ++ block).length := by
        rw [List.length_append]
        rfl
      have hoffset' : parsed.payloadOffset = (head ++ sourceBlock).length := by
        rw [List.length_append]
        rfl
      rw [hpacket, hoffset, List.drop_left, hoffset', List.drop_left]
      cases original with
      | none => rfl
      | some number =>
          have hroom : 2 ≤ tail.length - paddingSize := hsize rfl
          exact rewrittenTail_eq (by omega)
    · intro number hnumber
      rw [hcc] at hnumber
      by_cases hid : mapping.targetTransportCcExtensionId = 0
      · simp [hid] at hnumber
      · rw [if_pos hid, Option.some.injEq] at hnumber
        subst hnumber
        rw [find_of_parse hread hid]
        have hvalue := hvalues mapping.targetTransportCcExtensionId
        rw [if_pos ⟨hid, rfl⟩] at hvalue
        have hreport : (reportOf head' block (rewrittenTail tail original) extensions
            paddingSize).headerExtensions = extensions := rfl
        rw [hreport, hvalue]
        cases hplain : plainValueAt mapping parsed.headerExtensions
            mapping.targetTransportCcExtensionId with
        | none => rfl
        | some value =>
            by_contra hne
            exact hshadow ⟨hid, value, hplain, fun heq => hne (by rw [heq]; rfl)⟩

/-! ## The call -/

/-- The result of a call is faithful to the packet, for the section it resolved to. -/
def FaithfulRewrite (s : Impl) (packet : List UInt8) (transportSequenceNumber : UInt16)
    (result : RewriteResult) : Prop :=
  ∃ parsed resolved out, parseRewriteableRtpPacket packet = .ok parsed ∧
    s.resolve parsed = some resolved ∧
    Faithful packet parsed resolved.current.mapping
      (mappedOriginal resolved.current resolved.payloadType.rtx packet parsed)
      transportSequenceNumber result out

/-- The packets which cannot be read back, for the section they resolve to. -/
def RewriteCollides (s : Impl) (packet : List UInt8) (transportSequenceNumber : UInt16) : Prop :=
  ∃ parsed resolved, parseRewriteableRtpPacket packet = .ok parsed ∧
    s.resolve parsed = some resolved ∧
    (LooksLikeRtcp parsed resolved.payloadType.targetPayloadType ∨
      MidOverflows resolved.current.mapping parsed.headerExtensions ∨
      TransportCcShadowed resolved.current.mapping parsed.headerExtensions
        transportSequenceNumber)

/-- What the bound part repeats is what the state before the call has cached. -/
theorem rewriteBound_emits {bindings : AssocMap UInt32 SourceSsrcBinding} {packet : List UInt8}
    {parsed : ParsedRtpPacket} {resolved : ResolvedMedia} {bound : BoundSource}
    (hbind : bindSource bindings parsed resolved = some bound) {transportSequenceNumber : UInt16}
    {result : RewriteResult}
    (h : (rewriteBound bound packet parsed resolved.payloadType transportSequenceNumber).2 =
      .ok result) (hstate : result.state = .rewritten) :
    let original := mappedOriginal resolved.current resolved.payloadType.rtx packet parsed
    original.isSome = resolved.payloadType.rtx ∧
      (original.isSome = true → 2 ≤ parsed.payloadDataSize) ∧
      (emit bound packet parsed resolved.payloadType transportSequenceNumber original).2 =
        .ok result := by
  unfold rewriteBound at h
  unfold mappedOriginal
  split_ifs at h with hzero hrtx
  · simp only [Except.ok.injEq] at h
    subst h
    cases hstate
  · rw [bindSource, if_pos hrtx] at hbind
    obtain ⟨-, hout, -⟩ := bindRtx_some hbind
    have hcache : bound.current.primarySequenceNumbers = resolved.current.primarySequenceNumbers :=
      congrArg OutputStream.primarySequenceNumbers hout
    simp only [hrtx, if_true]
    unfold rtxOriginal at h
    split_ifs at h with hshort
    · simp only [Except.ok.injEq] at h
      subst h
      cases hstate
    · rw [hcache] at h
      cases hfind : resolved.current.primarySequenceNumbers.find
          (readU16 packet parsed.payloadOffset) with
      | none =>
          simp only [hfind, Except.ok.injEq] at h
          subst h
          cases hstate
      | some number =>
          simp only [hfind] at h
          exact ⟨rfl, fun _ => Nat.le_of_not_lt hshort, h⟩
  · simp only [hrtx]
    exact ⟨rfl, fun hsome => absurd hsome (by simp), h⟩

theorem rewrite_faithful_iff {s : Impl} (hvalid : ∀ m ∈ s.media, MappingValid m.mapping)
    {packet : List UInt8} {transportSequenceNumber : UInt16} {result : RewriteResult}
    (hresult : (s.rewrite packet transportSequenceNumber).2 = .ok result)
    (hstate : result.state = .rewritten) :
    FaithfulRewrite s packet transportSequenceNumber result ↔
      ¬RewriteCollides s packet transportSequenceNumber := by
  rcases s.rewrite_cases packet transportSequenceNumber with ⟨-, hnone⟩ |
    ⟨parsed, resolved, bound, hparse, hresolve, hbind, heq⟩
  · rw [hresult] at hnone
    have hdropped : result.state = .dropped := hnone
    rw [hstate] at hdropped
    cases hdropped
  · rw [heq] at hresult
    obtain ⟨-, hsize, hemit⟩ := rewriteBound_emits hbind hresult hstate
    obtain ⟨block, targetTimestamp, hblock, hfields⟩ := emit_result hemit
    obtain ⟨-, hmap⟩ := bindSource_some hbind
    obtain ⟨hat, hmapping⟩ := Impl.resolve_some hresolve
    have hvalidAt : MappingValid bound.current.mapping :=
      hmap ▸ hvalid _ (List.mem_of_getElem? hat)
    have hpt := (hmap ▸ hvalidAt).payloadTypes _ (List.mem_of_find?_eq_some hmapping)
    have hiff := rewrittenResult_faithful_iff hparse hvalidAt hpt hblock hsize
      (bound.current.sequenceNumber resolved.payloadType.rtx) targetTimestamp
    rw [← hfields, hmap] at hiff
    simp only [FaithfulRewrite, RewriteCollides, hparse, hresolve, Except.ok.injEq,
      Option.some.injEq, exists_and_left, exists_eq_left']
    rw [hiff, not_or, not_or]

end SimpleWebrtc.RtpRewriter
