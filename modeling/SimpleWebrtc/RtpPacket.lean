import SimpleWebrtc.RtpHeaderExtension

/-!
# RTP packets

The validating header parser and the parser the rewriter builds on it. The
latter accepts a packet exactly when it is a header, an optional extension
block and a payload put one after the other, each well formed; that
characterization is what the serializer is later checked against.
-/
namespace SimpleWebrtc.RtpPacket
open Library Library.Bytes RtpHeaderExtension

structure RtpPacketLayout where
  headerSize : ℕ
  mediaPayloadSize : ℕ
  paddingSize : ℕ
  padding : Bool
deriving Repr, DecidableEq

structure RtpPacketHeader where
  marker : Bool
  payloadType : UInt8
  sequenceNumber : UInt16
  timestamp : UInt32
  ssrc : UInt32
deriving Repr, DecidableEq

def hasRtpVersion (data : List UInt8) : Bool :=
  !data.isEmpty && decide (byteAt data 0 >>> 6 = 2)

def isRtpOrRtcpPacket (data : List UInt8) : Bool :=
  !data.isEmpty && decide (128 ≤ byteAt data 0) && decide (byteAt data 0 ≤ 191)

def isRtcpPacket (data : List UInt8) : Bool :=
  isRtpOrRtcpPacket data && decide (2 ≤ data.length) &&
    decide (192 ≤ byteAt data 1) && decide (byteAt data 1 ≤ 223)

/-- The element check of one format over the payload at an offset. -/
def validateElements (next : ElementReader) (truncated : Text) (packet : List UInt8)
    (payloadOffset payloadSize : ℕ) : Except Text Unit :=
  if packet.length < payloadOffset + payloadSize then .error truncated
  else
    let payload := (packet.drop payloadOffset).take payloadSize
    (walk next payload.length payload).map fun _ => ()

def validateOneByteHeaderExtensions : List UInt8 → ℕ → ℕ → Except Text Unit :=
  validateElements oneByteElement (ascii "rtp one-byte extension payload is truncated")

def validateTwoByteHeaderExtensions : List UInt8 → ℕ → ℕ → Except Text Unit :=
  validateElements twoByteElement (ascii "rtp two-byte extension payload is truncated")

/-- The size of the extension block at an offset. A profile of neither format is let through. -/
def validateHeaderExtensions (packet : List UInt8) (headerOffset : ℕ) : Except Text ℕ :=
  if packet.length < headerOffset + kRtpExtensionHeaderSize then
    .error (ascii "rtp extension header is truncated")
  else
    let profile := readU16 packet headerOffset
    let payloadOffset := headerOffset + kRtpExtensionHeaderSize
    let payloadSize := (readU16 packet (headerOffset + 2)).toNat * 4
    let totalSize := kRtpExtensionHeaderSize + payloadSize
    if packet.length < headerOffset + totalSize then
      .error (ascii "rtp extension payload is truncated")
    else
      let validation :=
        if isOneByteExtensionProfile profile then
          validateOneByteHeaderExtensions packet payloadOffset payloadSize
        else if isTwoByteExtensionProfile profile then
          validateTwoByteHeaderExtensions packet payloadOffset payloadSize
        else .ok ()
      validation.map fun _ => totalSize

def lastByte (packet : List UInt8) : ℕ := byteAt packet (packet.length - 1)

def validateRtpPadding (packet : List UInt8) (padding : Bool) (payloadSize : ℕ) :
    Except Text Unit :=
  if padding = false then .ok ()
  else if payloadSize = 0 then .error (ascii "rtp padding flag set but payload is empty")
  else if lastByte packet = 0 then .error (ascii "rtp padding size is zero")
  else if payloadSize < lastByte packet then .error (ascii "rtp padding exceeds payload size")
  else .ok ()

def baseHeaderSize (packet : List UInt8) : ℕ :=
  kRtpFixedHeaderSize + csrcCount packet * kRtpCsrcSize

def inspectRtpPacketLayout (data : List UInt8) : Except Text RtpPacketLayout :=
  if data.length < kRtpFixedHeaderSize then
    .error (ascii "rtp packet is shorter than fixed header")
  else if hasRtpVersion data = false then .error (ascii "rtp version is invalid")
  else if isRtcpPacket data then .error (ascii "packet is rtcp not rtp")
  else if data.length < baseHeaderSize data then .error (ascii "rtp csrc list is truncated")
  else
    let extensionResult :=
      if hasExtension data then validateHeaderExtensions data (baseHeaderSize data) else .ok 0
    match extensionResult with
    | .error e => .error e
    | .ok extensionSize =>
        let headerSize := baseHeaderSize data + extensionSize
        if data.length < headerSize then .error (ascii "rtp header exceeds packet size")
        else
          let wirePayloadSize := data.length - headerSize
          match validateRtpPadding data (hasPadding data) wirePayloadSize with
          | .error e => .error e
          | .ok () =>
              let paddingSize := if hasPadding data then lastByte data else 0
              .ok ⟨headerSize, wirePayloadSize - paddingSize, paddingSize, hasPadding data⟩

/-- The fixed fields, read without any check. -/
def readHeader (data : List UInt8) : RtpPacketHeader where
  marker := decide (byteAt data 1 &&& 0x80 ≠ 0)
  payloadType := UInt8.ofNat (byteAt data 1 &&& 0x7F)
  sequenceNumber := readU16 data 2
  timestamp := readU32 data 4
  ssrc := readU32 data 8

def parseRtpPacketHeader (data : List UInt8) : Except Text RtpPacketHeader :=
  match inspectRtpPacketLayout data with
  | .error e => .error e
  | .ok _ => .ok (readHeader data)

structure ParsedRtpPacket where
  header : RtpPacketHeader
  padding : Bool
  baseHeaderSize : ℕ
  payloadOffset : ℕ
  payloadDataSize : ℕ
  headerExtensions : List ParsedHeaderExtension
deriving Repr, DecidableEq

/-- The elements of one format in the payload at an offset. -/
def parseElements (next : ElementReader) (packet : List UInt8) (offset size : ℕ) :
    Except Text (List ParsedHeaderExtension) :=
  let payload := (packet.drop offset).take size
  walk next payload.length payload

def parseOneByteHeaderExtensions := parseElements oneByteElement

def parseTwoByteHeaderExtensions := parseElements twoByteElement

/-- The elements and the payload offset behind the extension block at an offset. -/
def parseExtensionBlock (packet : List UInt8) (headerOffset : ℕ) :
    Except Text (List ParsedHeaderExtension × ℕ) :=
  if packet.length < headerOffset + kRtpExtensionHeaderSize then
    .error (ascii "rtp extension header is truncated")
  else
    let profile := readU16 packet headerOffset
    let payloadOffset := headerOffset + kRtpExtensionHeaderSize
    let payloadSize := (readU16 packet (headerOffset + 2)).toNat * 4
    if packet.length < payloadOffset + payloadSize then
      .error (ascii "rtp extension payload is truncated")
    else
      let parsed :=
        if isOneByteExtensionProfile profile then
          parseOneByteHeaderExtensions packet payloadOffset payloadSize
        else if isTwoByteExtensionProfile profile then
          parseTwoByteHeaderExtensions packet payloadOffset payloadSize
        else .error (ascii "rtp header extension profile is unsupported for rewrite")
      parsed.map fun elements => (elements, payloadOffset + payloadSize)

def parseRewriteableRtpPacket (packet : List UInt8) : Except Text ParsedRtpPacket :=
  match parseRtpPacketHeader packet with
  | .error e => .error e
  | .ok header =>
      let padding := hasPadding packet
      let base := RtpPacket.baseHeaderSize packet
      let extensionResult :=
        if hasExtension packet then parseExtensionBlock packet base else .ok ([], base)
      match extensionResult with
      | .error e => .error e
      | .ok (headerExtensions, payloadOffset) =>
          if packet.length < payloadOffset then
            .error (ascii "rtp payload offset exceeds packet size")
          else
            let size := packet.length - payloadOffset
            if padding = false then
              .ok ⟨header, padding, base, payloadOffset, size, headerExtensions⟩
            else if size = 0 then
              .error (ascii "rtp padding is set without payload bytes")
            else if lastByte packet = 0 ∨ size < lastByte packet then
              .error (ascii "rtp padding size is invalid")
            else
              .ok ⟨header, padding, base, payloadOffset, size - lastByte packet, headerExtensions⟩

/-- The element format a profile announces. -/
def profileReader (profile : UInt16) : Option ElementReader :=
  if isOneByteExtensionProfile profile then some oneByteElement
  else if isTwoByteExtensionProfile profile then some twoByteElement
  else none

/-- An extension block, header word included, which holds these elements. -/
structure ExtensionBlock (block : List UInt8) (elements : List ParsedHeaderExtension) : Prop where
  length : block.length = kRtpExtensionHeaderSize + (readU16 block 2).toNat * 4
  read : ∃ next, profileReader (readU16 block 0) = some next ∧
    walk next (block.drop 4).length (block.drop 4) = .ok elements

/-- A header of the announced length with the extension block it announces. -/
structure Framed (head block : List UInt8) (elements : List ParsedHeaderExtension) : Prop where
  headLength : head.length = RtpPacket.baseHeaderSize head
  version : hasRtpVersion head = true
  block : if hasExtension head then ExtensionBlock block elements else block = [] ∧ elements = []

/-- A packet put together from a header, an extension block and a payload with padding. -/
structure Assembled (head block tail : List UInt8) (elements : List ParsedHeaderExtension)
    (paddingSize : ℕ) : Prop extends Framed head block elements where
  notRtcp : isRtcpPacket head = false
  padding : if hasPadding head then
      0 < paddingSize ∧ paddingSize ≤ tail.length ∧ lastByte tail = paddingSize
    else paddingSize = 0

/-- What the parser reports for a packet put together from parts. -/
def reportOf (head block tail : List UInt8) (elements : List ParsedHeaderExtension)
    (paddingSize : ℕ) : ParsedRtpPacket where
  header := readHeader head
  padding := hasPadding head
  baseHeaderSize := head.length
  payloadOffset := head.length + block.length
  payloadDataSize := tail.length - paddingSize
  headerExtensions := elements

section Prefix
variable {head : List UInt8} (rest : List UInt8)

theorem csrcCount_append (h : 0 < head.length) : csrcCount (head ++ rest) = csrcCount head := by
  simp only [csrcCount, byteAt_append_left h]

theorem hasExtension_append (h : 0 < head.length) :
    hasExtension (head ++ rest) = hasExtension head := by
  simp only [hasExtension, byteAt_append_left h]

theorem hasPadding_append (h : 0 < head.length) : hasPadding (head ++ rest) = hasPadding head := by
  simp only [hasPadding, byteAt_append_left h]

theorem baseHeaderSize_append (h : 0 < head.length) :
    RtpPacket.baseHeaderSize (head ++ rest) = RtpPacket.baseHeaderSize head := by
  simp only [RtpPacket.baseHeaderSize, csrcCount_append rest h]

theorem hasRtpVersion_append (h : 0 < head.length) :
    hasRtpVersion (head ++ rest) = hasRtpVersion head := by
  have hne : head ≠ [] := List.ne_nil_of_length_pos h
  have hne' : head ++ rest ≠ [] := by simp [hne]
  simp only [hasRtpVersion, byteAt_append_left h, List.isEmpty_eq_false_iff.mpr hne,
    List.isEmpty_eq_false_iff.mpr hne']

theorem isRtcpPacket_append (h : 2 ≤ head.length) :
    isRtcpPacket (head ++ rest) = isRtcpPacket head := by
  have hne : head ≠ [] := List.ne_nil_of_length_pos (by omega)
  have hne' : head ++ rest ≠ [] := by simp [hne]
  have hlen : 2 ≤ (head ++ rest).length := by
    rw [List.length_append]
    omega
  simp only [isRtcpPacket, isRtpOrRtcpPacket, byteAt_append_left (show 0 < head.length by omega),
    byteAt_append_left (show 1 < head.length by omega), List.isEmpty_eq_false_iff.mpr hne,
    List.isEmpty_eq_false_iff.mpr hne', h, hlen]

theorem readHeader_append (h : 12 ≤ head.length) : readHeader (head ++ rest) = readHeader head := by
  simp only [readHeader, byteAt_append_left (show 1 < head.length by omega),
    readU16_append_left (show 2 + 1 < head.length by omega),
    readU32_append_left (show 4 + 3 < head.length by omega),
    readU32_append_left (show 8 + 3 < head.length by omega)]

theorem lastByte_append {tail : List UInt8} (h : 0 < tail.length) :
    lastByte (head ++ tail) = lastByte tail := by
  have heq : (head ++ tail).length - 1 = head.length + (tail.length - 1) := by
    rw [List.length_append]
    omega
  rw [lastByte, heq, byteAt_append_right, lastByte]

end Prefix

/-- What a frame says depends on the length of the header and its first byte. -/
theorem Framed.congr {head head' block : List UInt8} {elements : List ParsedHeaderExtension}
    (h : Framed head block elements) (hlen : head'.length = head.length)
    (hfirst : byteAt head' 0 = byteAt head 0) : Framed head' block elements := by
  have hnil : head'.isEmpty = head.isEmpty := by
    rw [Bool.eq_iff_iff, List.isEmpty_iff_length_eq_zero, List.isEmpty_iff_length_eq_zero, hlen]
  refine ⟨?_, ?_, ?_⟩
  · rw [hlen, h.headLength, RtpPacket.baseHeaderSize, RtpPacket.baseHeaderSize, csrcCount,
      csrcCount, hfirst]
  · rw [← h.version, hasRtpVersion, hasRtpVersion, hnil, hfirst]
  · have hext : hasExtension head' = hasExtension head := by
      rw [hasExtension, hasExtension, hfirst]
    rw [hext]
    exact h.block

theorem baseHeaderSize_ge (packet : List UInt8) : 12 ≤ RtpPacket.baseHeaderSize packet := by
  simp only [RtpPacket.baseHeaderSize, kRtpFixedHeaderSize]
  omega

/-- The block's own header word and payload, seen through the whole packet. -/
theorem block_at (head tail : List UInt8) {block : List UInt8}
    {elements : List ParsedHeaderExtension} (h : ExtensionBlock block elements) :
    4 ≤ block.length ∧
    readU16 (head ++ block ++ tail) head.length = readU16 block 0 ∧
    readU16 (head ++ block ++ tail) (head.length + 2) = readU16 block 2 ∧
    ((head ++ block ++ tail).drop (head.length + kRtpExtensionHeaderSize)).take
      (block.drop 4).length = block.drop 4 := by
  have h4 : 4 ≤ block.length := by
    rw [h.length, kRtpExtensionHeaderSize]
    omega
  refine ⟨h4, ?_, ?_, ?_⟩
  · have hright := readU16_append_right head (block ++ tail) 0
    rw [Nat.add_zero] at hright
    rw [List.append_assoc, hright, readU16_append_left (by omega)]
  · rw [List.append_assoc, readU16_append_right, readU16_append_left (by omega)]
  · have hdrop : (head ++ (block ++ tail)).drop (head.length + 4) = block.drop 4 ++ tail := by
      rw [List.drop_append, List.drop_eq_nil_of_le (Nat.le_add_right _ _), List.nil_append,
        Nat.add_sub_cancel_left, List.drop_append_of_le_length h4]
    rw [List.append_assoc, kRtpExtensionHeaderSize, hdrop, List.take_left]

/-- Both readers of the block at the end of the header see the block's own bytes. -/
theorem readers_of_block {head block tail : List UInt8}
    {elements : List ParsedHeaderExtension} (h : ExtensionBlock block elements) :
    validateHeaderExtensions (head ++ block ++ tail) head.length = .ok block.length ∧
    parseExtensionBlock (head ++ block ++ tail) head.length =
      .ok (elements, head.length + block.length) := by
  obtain ⟨h4, hprofile, hwords, hpayload⟩ := block_at head tail h
  obtain ⟨hlen, next, hnext, hwalk⟩ := h
  have hsize : (readU16 block 2).toNat * 4 = (block.drop 4).length := by
    rw [List.length_drop, hlen, kRtpExtensionHeaderSize]
    omega
  have hlength : (head ++ block ++ tail).length = head.length + block.length + tail.length := by
    simp only [List.length_append]
  have hdrop : (block.drop 4).length + kRtpExtensionHeaderSize = block.length := by
    rw [List.length_drop, kRtpExtensionHeaderSize]
    omega
  have hfit₁ : ¬(head ++ block ++ tail).length < head.length + kRtpExtensionHeaderSize := by omega
  have hfit₂ : ¬(head ++ block ++ tail).length <
      head.length + kRtpExtensionHeaderSize + (block.drop 4).length := by omega
  have hfit₃ : ¬(head ++ block ++ tail).length <
      head.length + (kRtpExtensionHeaderSize + (block.drop 4).length) := by omega
  unfold profileReader at hnext
  constructor
  · simp only [validateHeaderExtensions, if_neg hfit₁, hprofile, hwords, hsize, if_neg hfit₃,
      validateOneByteHeaderExtensions, validateTwoByteHeaderExtensions, validateElements,
      if_neg hfit₂, hpayload]
    split_ifs at hnext ⊢ <;> cases hnext <;> simp only [hwalk, Except.map] <;>
      rw [Nat.add_comm, hdrop]
  · simp only [parseExtensionBlock, if_neg hfit₁, hprofile, hwords, hsize, if_neg hfit₂,
      parseOneByteHeaderExtensions, parseTwoByteHeaderExtensions, parseElements, hpayload]
    split_ifs at hnext ⊢ <;> cases hnext <;> simp only [hwalk, Except.map] <;>
      rw [Nat.add_assoc, Nat.add_comm kRtpExtensionHeaderSize, hdrop]

/-- Past its checks, the lookup in a framed packet is the one in the payload of the block. -/
theorem Framed.find_eq {head block : List UInt8} {elements : List ParsedHeaderExtension}
    (h : Framed head block elements) (hx : hasExtension head = true) (tail : List UInt8)
    {extensionId : UInt8} (hid : extensionId ≠ 0) :
    ∃ next, profileReader (readU16 block 0) = some next ∧
      walk next (block.drop 4).length (block.drop 4) = .ok elements ∧
      (findRtpHeaderExtension (head ++ block ++ tail) extensionId =
          findElement next extensionId (head.length + block.length) (block.drop 4).length
            (block.drop 4) ∨
        findRtpHeaderExtension (head ++ block ++ tail) extensionId = .ok none ∧
          (elements.find? fun e => decide (e.id = extensionId)) = none) := by
  have h12 : 12 ≤ head.length := h.headLength ▸ baseHeaderSize_ge head
  have hlength : (head ++ block ++ tail).length = head.length + block.length + tail.length := by
    simp only [List.length_append]
  have hbase : kRtpFixedHeaderSize + csrcCount (head ++ block ++ tail) * kRtpCsrcSize =
      head.length := by
    rw [List.append_assoc, csrcCount_append _ (by omega), h.headLength]
    rfl
  have hext : hasExtension (head ++ block ++ tail) = true := by
    rw [List.append_assoc, hasExtension_append _ (by omega), hx]
  have hversion : ¬byteAt (head ++ block ++ tail) 0 >>> 6 ≠ 2 := by
    have hv := h.version
    simp only [hasRtpVersion, Bool.and_eq_true, decide_eq_true_eq] at hv
    rw [List.append_assoc, byteAt_append_left (by omega), hv.2]
    exact not_not_intro rfl
  have hbound : ¬(head ++ block ++ tail).length < kRtpFixedHeaderSize := by
    rw [kRtpFixedHeaderSize]
    omega
  have hblock := h.block
  rw [if_pos hx] at hblock
  obtain ⟨h4, hprofile, hwords, hpayload⟩ := block_at head tail hblock
  obtain ⟨hlen, next, hnext, hwalk⟩ := hblock
  refine ⟨next, hnext, hwalk, ?_⟩
  have hsize : (readU16 block 2).toNat * 4 = (block.drop 4).length := by
    rw [List.length_drop, hlen, kRtpExtensionHeaderSize]
    omega
  have hstop : head.length + kRtpExtensionHeaderSize + (block.drop 4).length =
      head.length + block.length := by
    rw [List.length_drop, kRtpExtensionHeaderSize]
    omega
  have hfit₁ : ¬(head ++ block ++ tail).length < head.length + kRtpExtensionHeaderSize := by
    rw [kRtpExtensionHeaderSize]
    omega
  have hfit₂ : ¬(head ++ block ++ tail).length < head.length + block.length := by omega
  simp only [findRtpHeaderExtension, if_neg hid, if_neg hbound, if_neg hversion, hext, hbase,
    Bool.true_eq_false, if_false, if_neg hfit₁, hprofile, hwords, hsize, hpayload, hstop,
    if_neg hfit₂]
  unfold profileReader at hnext
  split_ifs at hnext ⊢ with hone hreserved htwo
  · cases hnext
    refine Or.inr ⟨rfl, ?_⟩
    rw [List.find?_eq_none]
    intro e he
    have hlt := walk_all (fun _ _ _ _ => oneByteElement_id_lt) hwalk e he
    simp only [decide_eq_true_eq]
    rintro rfl
    exact absurd hreserved (by simpa using hlt)
  · cases hnext
    exact Or.inl rfl
  · cases hnext
    exact Or.inl rfl

theorem profileReader_sound {profile : UInt16} {next : ElementReader}
    (h : profileReader profile = some next) : next.Sound := by
  unfold profileReader at h
  split_ifs at h
  · obtain rfl := Option.some.inj h
    exact oneByteElement_sound
  · obtain rfl := Option.some.inj h
    exact twoByteElement_sound

/-- The lookup in a framed packet points at the first element with the id. -/
theorem Framed.find {head block : List UInt8} {elements : List ParsedHeaderExtension}
    (h : Framed head block elements) (tail : List UInt8) {extensionId : UInt8}
    (hid : extensionId ≠ 0) :
    PointsAt (head ++ block ++ tail) (head.length + 4) (head.length + block.length)
      (findRtpHeaderExtension (head ++ block ++ tail) extensionId)
      (elements.find? fun e => decide (e.id = extensionId)) := by
  have h12 : 12 ≤ head.length := h.headLength ▸ baseHeaderSize_ge head
  cases hx : hasExtension head with
  | false =>
      have hblock := h.block
      rw [if_neg (by rw [hx]; exact Bool.false_ne_true)] at hblock
      have hext : hasExtension (head ++ block ++ tail) = false := by
        rw [List.append_assoc, hasExtension_append _ (by omega), hx]
      have hversion : ¬byteAt (head ++ block ++ tail) 0 >>> 6 ≠ 2 := by
        have hv := h.version
        simp only [hasRtpVersion, Bool.and_eq_true, decide_eq_true_eq] at hv
        rw [List.append_assoc, byteAt_append_left (by omega), hv.2]
        exact not_not_intro rfl
      have hbound : ¬(head ++ block ++ tail).length < kRtpFixedHeaderSize := by
        simp only [List.length_append, kRtpFixedHeaderSize]
        omega
      simp only [findRtpHeaderExtension, if_neg hid, if_neg hbound, if_neg hversion, hext, if_true,
        hblock.2, List.find?_nil]
      rfl
  | true =>
      obtain ⟨next, hnext, hwalk, hresult⟩ := h.find_eq hx tail hid
      rcases hresult with hresult | ⟨hresult, hnone⟩
      · have hblock := h.block
        rw [if_pos hx] at hblock
        have h4 := (block_at head tail hblock).1
        have hsplit : head ++ block ++ tail = (head ++ block.take 4) ++ block.drop 4 ++ tail := by
          rw [List.append_assoc head (block.take 4), List.take_append_drop]
        have hbefore : (head ++ block.take 4).length = head.length + 4 := by
          rw [List.length_append, List.length_take]
          omega
        have hstop : head.length + 4 + (block.drop 4).length = head.length + block.length := by
          rw [List.length_drop]
          omega
        have hfind := findElement_of_walk (profileReader_sound hnext) extensionId hwalk
          (head ++ block.take 4) tail
        rw [← hsplit, hbefore, hstop] at hfind
        rw [hresult]
        exact hfind
      · rw [hresult, hnone]
        rfl

/-- The parser accepts every packet put together from well-formed parts. -/
theorem Assembled.parse {head block tail : List UInt8} {elements : List ParsedHeaderExtension}
    {paddingSize : ℕ} (h : Assembled head block tail elements paddingSize) :
    parseRewriteableRtpPacket (head ++ block ++ tail) =
      .ok (reportOf head block tail elements paddingSize) := by
  have h12 : 12 ≤ head.length := h.headLength ▸ baseHeaderSize_ge head
  have hbase : RtpPacket.baseHeaderSize (head ++ block ++ tail) = head.length := by
    rw [List.append_assoc, baseHeaderSize_append _ (by omega), h.headLength]
  have hversion : hasRtpVersion (head ++ block ++ tail) = true := by
    rw [List.append_assoc, hasRtpVersion_append _ (by omega), h.version]
  have hrtcp : isRtcpPacket (head ++ block ++ tail) = false := by
    rw [List.append_assoc, isRtcpPacket_append _ (by omega), h.notRtcp]
  have hext : hasExtension (head ++ block ++ tail) = hasExtension head := by
    rw [List.append_assoc, hasExtension_append _ (by omega)]
  have hpad : hasPadding (head ++ block ++ tail) = hasPadding head := by
    rw [List.append_assoc, hasPadding_append _ (by omega)]
  have hheader : readHeader (head ++ block ++ tail) = readHeader head := by
    rw [List.append_assoc, readHeader_append _ h12]
  have hlength : (head ++ block ++ tail).length = head.length + block.length + tail.length := by
    simp only [List.length_append]
  have hvalidate : (if hasExtension head then
      validateHeaderExtensions (head ++ block ++ tail) head.length else .ok 0) =
        .ok block.length := by
    have hblock := h.block
    split_ifs at hblock ⊢ with hx
    · exact (readers_of_block hblock).1
    · rw [hblock.1]
      rfl
  have hread : (if hasExtension head then
      parseExtensionBlock (head ++ block ++ tail) head.length else .ok ([], head.length)) =
        .ok (elements, head.length + block.length) := by
    have hblock := h.block
    split_ifs at hblock ⊢ with hx
    · exact (readers_of_block hblock).2
    · rw [hblock.1, hblock.2]
      rfl
  have hfit : ¬(head ++ block ++ tail).length < head.length + block.length := by omega
  have hsize : (head ++ block ++ tail).length - (head.length + block.length) = tail.length := by
    omega
  have hlayout : ∃ layout, inspectRtpPacketLayout (head ++ block ++ tail) = .ok layout := by
    have hbound₁ : ¬(head ++ block ++ tail).length < kRtpFixedHeaderSize := by
      rw [kRtpFixedHeaderSize]
      omega
    have hbound₂ : ¬(head ++ block ++ tail).length < head.length := by omega
    have hpadding := h.padding
    simp only [inspectRtpPacketLayout, if_neg hbound₁, hversion, hrtcp, hbase, if_neg hbound₂,
      hext, hpad, hvalidate, if_neg hfit, hsize, Bool.true_eq_false, Bool.false_eq_true, if_false]
    cases hp : hasPadding head with
    | false => exact ⟨_, by simp only [validateRtpPadding, if_true]; rfl⟩
    | true =>
        simp only [hp, if_true] at hpadding
        obtain ⟨hpos, hle, hlast⟩ := hpadding
        have hlast' : lastByte (head ++ block ++ tail) = paddingSize := by
          rw [lastByte_append (by omega), hlast]
        have h₀ : ¬tail.length = 0 := by omega
        have h₁ : ¬paddingSize = 0 := by omega
        have h₂ : ¬tail.length < paddingSize := by omega
        exact ⟨_, by simp only [validateRtpPadding, Bool.true_eq_false, if_false, if_neg h₀,
          hlast', if_neg h₁, if_neg h₂]; rfl⟩
  obtain ⟨layout, hlayout⟩ := hlayout
  have hpadding := h.padding
  simp only [parseRewriteableRtpPacket, parseRtpPacketHeader, hlayout, hext, hbase, hread,
    if_neg hfit, hpad, hsize, hheader, reportOf]
  cases hp : hasPadding head with
  | false =>
      simp only [hp, Bool.false_eq_true, if_false] at hpadding
      simp only [if_true, hpadding, Nat.sub_zero]
  | true =>
      simp only [hp, if_true] at hpadding
      obtain ⟨hpos, hle, hlast⟩ := hpadding
      have hlast' : lastByte (head ++ block ++ tail) = paddingSize := by
        rw [lastByte_append (by omega), hlast]
      have h₀ : ¬tail.length = 0 := by omega
      have h₁ : ¬(paddingSize = 0 ∨ tail.length < paddingSize) := by omega
      simp only [Bool.true_eq_false, if_false, if_neg h₀, hlast', if_neg h₁]

/-- What a successful header check established. -/
theorem inspectRtpPacketLayout_ok {data : List UInt8} {layout : RtpPacketLayout}
    (h : inspectRtpPacketLayout data = .ok layout) :
    12 ≤ data.length ∧ hasRtpVersion data = true ∧ isRtcpPacket data = false ∧
      RtpPacket.baseHeaderSize data ≤ data.length := by
  unfold inspectRtpPacketLayout kRtpFixedHeaderSize at h
  by_cases h₁ : data.length < 12
  · simp [h₁] at h
  · by_cases h₂ : hasRtpVersion data = false
    · simp [h₁, h₂] at h
    · by_cases h₃ : isRtcpPacket data = true
      · simp [h₁, h₂, h₃] at h
      · by_cases h₄ : data.length < RtpPacket.baseHeaderSize data
        · simp [h₁, h₂, h₃, h₄] at h
        · exact ⟨by omega, by simpa using h₂, by simpa using h₃, by omega⟩

/-- The parser cuts the extension block out of the packet. -/
theorem parseExtensionBlock_ok {packet : List UInt8} {offset payloadOffset : ℕ}
    {elements : List ParsedHeaderExtension} (hoffset : offset ≤ packet.length)
    (h : parseExtensionBlock packet offset = .ok (elements, payloadOffset)) :
    ∃ block tail, packet = packet.take offset ++ block ++ tail ∧
      ExtensionBlock block elements ∧ payloadOffset = offset + block.length := by
  simp only [parseExtensionBlock] at h
  by_cases hshort : packet.length < offset + kRtpExtensionHeaderSize
  · simp [hshort] at h
  by_cases hpayload : packet.length <
      offset + kRtpExtensionHeaderSize + (readU16 packet (offset + 2)).toNat * 4
  · simp [hshort, hpayload] at h
  rw [if_neg hshort, if_neg hpayload] at h
  have hkey : ∀ next, profileReader (readU16 packet offset) = some next →
      (parseElements next packet (offset + kRtpExtensionHeaderSize)
        ((readU16 packet (offset + 2)).toNat * 4)).map (fun elements => (elements,
          offset + kRtpExtensionHeaderSize + (readU16 packet (offset + 2)).toNat * 4)) =
        .ok (elements, payloadOffset) →
      ∃ block tail, packet = packet.take offset ++ block ++ tail ∧
        ExtensionBlock block elements ∧ payloadOffset = offset + block.length := by
    intro next hnext hmap
    set size := (readU16 packet (offset + 2)).toNat * 4 with hsize
    refine ⟨(packet.drop offset).take (4 + size), packet.drop (offset + (4 + size)), ?_, ?_, ?_⟩
    · rw [List.append_assoc, ← List.drop_drop, List.take_append_drop, List.take_append_drop]
    · have hlen : ((packet.drop offset).take (4 + size)).length = 4 + size := by
        rw [List.length_take, List.length_drop]
        simp only [kRtpExtensionHeaderSize] at hpayload
        omega
      have hread : ∀ i, i + 1 < 4 + size →
          readU16 ((packet.drop offset).take (4 + size)) i = readU16 packet (offset + i) := by
        intro i hi
        have hleft : readU16 ((packet.drop offset).take (4 + size) ++
            (packet.drop offset).drop (4 + size)) i =
            readU16 ((packet.drop offset).take (4 + size)) i :=
          readU16_append_left (by omega) _
        rw [List.take_append_drop, readU16_drop] at hleft
        exact hleft.symm
      have hdrop : ((packet.drop offset).take (4 + size)).drop 4 =
          (packet.drop (offset + kRtpExtensionHeaderSize)).take size := by
        rw [List.drop_take, List.drop_drop, kRtpExtensionHeaderSize, Nat.add_sub_cancel_left]
      refine ⟨?_, next, ?_, ?_⟩
      · rw [hlen, hread 2 (by omega), kRtpExtensionHeaderSize]
      · rw [hread 0 (by omega), Nat.add_zero, hnext]
      · rw [hdrop]
        cases hwalk : parseElements next packet (offset + kRtpExtensionHeaderSize) size with
        | error e => simp [hwalk, Except.map] at hmap
        | ok found =>
            simp only [hwalk, Except.map, Except.ok.injEq, Prod.mk.injEq] at hmap
            rw [← hmap.1]
            exact hwalk
    · cases hwalk : parseElements next packet (offset + kRtpExtensionHeaderSize) size with
      | error e => simp [hwalk, Except.map] at hmap
      | ok found =>
          simp only [hwalk, Except.map, Except.ok.injEq, Prod.mk.injEq] at hmap
          rw [← hmap.2, List.length_take, List.length_drop]
          simp only [kRtpExtensionHeaderSize] at hpayload ⊢
          omega
  split_ifs at h with hone htwo
  · exact hkey _ (by simp [profileReader, hone]) h
  · exact hkey _ (by simp [profileReader, hone, htwo]) h
  · simp [Except.map] at h

/-- Every accepted packet is put together from well-formed parts. -/
theorem assembled_of_parse {packet : List UInt8} {parsed : ParsedRtpPacket}
    (h : parseRewriteableRtpPacket packet = .ok parsed) :
    ∃ head block tail elements paddingSize, packet = head ++ block ++ tail ∧
      Assembled head block tail elements paddingSize ∧
      parsed = reportOf head block tail elements paddingSize := by
  unfold parseRewriteableRtpPacket parseRtpPacketHeader at h
  cases hlayout : inspectRtpPacketLayout packet with
  | error e => simp [hlayout] at h
  | ok layout =>
      obtain ⟨h12, hversion, hrtcp, hbase⟩ := inspectRtpPacketLayout_ok hlayout
      simp only [hlayout] at h
      have hparts : ∃ block tail elements,
          packet = packet.take (RtpPacket.baseHeaderSize packet) ++ block ++ tail ∧
          (if hasExtension packet then ExtensionBlock block elements
            else block = [] ∧ elements = []) ∧
          (if hasExtension packet then
            parseExtensionBlock packet (RtpPacket.baseHeaderSize packet)
            else .ok ([], RtpPacket.baseHeaderSize packet)) =
            .ok (elements, RtpPacket.baseHeaderSize packet + block.length) := by
        cases hx : hasExtension packet with
        | false => exact ⟨[], packet.drop (RtpPacket.baseHeaderSize packet), [],
            by simp only [List.append_nil, List.take_append_drop],
            by simp, by simp⟩
        | true =>
            cases hblock : parseExtensionBlock packet (RtpPacket.baseHeaderSize packet) with
            | error e => simp [hx, hblock] at h
            | ok out =>
                obtain ⟨elements, payloadOffset⟩ := out
                obtain ⟨block, tail, hsplit, hwf, hoff⟩ := parseExtensionBlock_ok hbase hblock
                exact ⟨block, tail, elements, hsplit, by simpa using hwf, by simp [hoff]⟩
      obtain ⟨block, tail, elements, hsplit, hblock, hread⟩ := hparts
      set head := packet.take (RtpPacket.baseHeaderSize packet) with hhead
      have hge := baseHeaderSize_ge packet
      have hheadlen : head.length = RtpPacket.baseHeaderSize packet := by
        rw [hhead, List.length_take]
        omega
      have hpos : 0 < head.length := by omega
      have hlen : packet.length = head.length + block.length + tail.length := by
        rw [hsplit]
        simp only [List.length_append]
      rw [List.append_assoc] at hsplit
      have hext : hasExtension packet = hasExtension head := by
        rw [hsplit, hasExtension_append _ hpos]
      have hpad : hasPadding packet = hasPadding head := by
        rw [hsplit, hasPadding_append _ hpos]
      have hheader : readHeader packet = readHeader head := by
        rw [hsplit, readHeader_append _ (by omega)]
      have hbase' : RtpPacket.baseHeaderSize packet = RtpPacket.baseHeaderSize head := by
        conv_lhs => rw [hsplit]
        exact baseHeaderSize_append _ hpos
      have hversion' : hasRtpVersion head = true := by
        rw [← hversion, hsplit, hasRtpVersion_append _ hpos]
      have hrtcp' : isRtcpPacket head = false := by
        rw [← hrtcp, hsplit, isRtcpPacket_append _ (by omega)]
      rw [hread] at h
      have hsize : packet.length - (RtpPacket.baseHeaderSize packet + block.length) =
          tail.length := by omega
      have hfit : ¬packet.length < RtpPacket.baseHeaderSize packet + block.length := by omega
      simp only [if_neg hfit, hsize] at h
      rw [hext] at hblock
      rw [hpad, hheader, ← hheadlen] at h
      rw [← List.append_assoc] at hsplit
      cases hp : hasPadding head with
      | false =>
          simp only [hp, if_true, Except.ok.injEq] at h
          refine ⟨head, block, tail, elements, 0, hsplit,
            ⟨⟨hheadlen.trans hbase', hversion', hblock⟩, hrtcp', by simp [hp]⟩, ?_⟩
          rw [← h, reportOf, hp, Nat.sub_zero]
      | true =>
          simp only [hp, Bool.true_eq_false, if_false] at h
          split_ifs at h with hzero hbad
          have hlast : lastByte packet = lastByte tail := by
            rw [hsplit, lastByte_append (by omega)]
          rw [hlast] at h hbad
          rw [Except.ok.injEq] at h
          refine ⟨head, block, tail, elements, lastByte tail, hsplit,
            ⟨⟨hheadlen.trans hbase', hversion', hblock⟩, hrtcp', ?_⟩, ?_⟩
          · simp only [hp, if_true, and_true]
            omega
          · rw [← h, reportOf, hp]

end SimpleWebrtc.RtpPacket
