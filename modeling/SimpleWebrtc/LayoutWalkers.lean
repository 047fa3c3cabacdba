import SimpleWebrtc.Library.Fallible
import SimpleWebrtc.RtpPacket
import SimpleWebrtc.VideoKeyframeDetector

/-!
# Agreement of the layout walkers

Four functions find their way through the same header. Whatever the validating
one accepts, the others place the payload and the extension elements where it
does, and each refuses only what it has a reason of its own to refuse.
-/
namespace SimpleWebrtc.LayoutWalkers
open Library Library.Bytes RtpHeaderExtension RtpPacket VideoKeyframeDetector

/-- The extension block, if there is one, has a profile the rewriter knows. -/
def HasKnownProfile (data : List UInt8) : Prop :=
  hasExtension data = false ∨
    isOneByteExtensionProfile (readU16 data (RtpPacket.baseHeaderSize data)) = true ∨
    isTwoByteExtensionProfile (readU16 data (RtpPacket.baseHeaderSize data)) = true

structure WalkersAgree (data : List UInt8) : Prop where
  payloadView : ∀ layout, inspectRtpPacketLayout data = .ok layout →
    ((∃ view, parseRtpPayloadView data = .ok view) ↔ 0 < layout.mediaPayloadSize) ∧
      ∀ view, parseRtpPayloadView data = .ok view →
        view.payload = (data.drop layout.headerSize).take layout.mediaPayloadSize
  rewriteable : ∀ layout, inspectRtpPacketLayout data = .ok layout →
    ((∃ parsed, parseRewriteableRtpPacket data = .ok parsed) ↔ HasKnownProfile data) ∧
      ∀ parsed, parseRewriteableRtpPacket data = .ok parsed →
        parsed.payloadOffset = layout.headerSize ∧
          parsed.payloadDataSize = layout.mediaPayloadSize
  lookup : ∀ parsed, parseRewriteableRtpPacket data = .ok parsed →
    ∀ extensionId, extensionId ≠ 0 →
      (findRtpHeaderExtension data extensionId).map (fun span => span.map (·.bytes data)) =
        .ok ((parsed.headerExtensions.find? fun e => decide (e.id = extensionId)).map (·.value))
  rejected : ∀ e, inspectRtpPacketLayout data = .error e →
    ∃ e', parseRewriteableRtpPacket data = .error e'

/-- The size of the extension area at an offset, header word included. -/
def extensionTotalSize (data : List UInt8) (offset : ℕ) : ℕ :=
  kRtpExtensionHeaderSize + (readU16 data (offset + 2)).toNat * 4

theorem validateElements_ok {next : ElementReader} {truncated : Text} {data : List UInt8}
    {offset size : ℕ} (h : validateElements next truncated data offset size = .ok ()) :
    ∃ elements, parseElements next data offset size = .ok elements := by
  unfold validateElements at h
  split_ifs at h
  unfold parseElements
  cases hwalk : walk next ((data.drop offset).take size).length ((data.drop offset).take size) with
  | error e =>
      simp only [hwalk] at h
      cases h
  | ok elements => exact ⟨elements, rfl⟩

/-- What the validator found in the extension block, the parser finds as well. -/
theorem validateHeaderExtensions_ok {data : List UInt8} {offset size : ℕ}
    (h : validateHeaderExtensions data offset = .ok size) :
    size = extensionTotalSize data offset ∧ offset + size ≤ data.length ∧
      (isOneByteExtensionProfile (readU16 data offset) = true ∨
          isTwoByteExtensionProfile (readU16 data offset) = true →
        ∃ elements, parseExtensionBlock data offset = .ok (elements, offset + size)) ∧
      (isOneByteExtensionProfile (readU16 data offset) = false →
        isTwoByteExtensionProfile (readU16 data offset) = false →
        ∃ e, parseExtensionBlock data offset = .error e) := by
  simp only [validateHeaderExtensions] at h
  by_cases hheader : data.length < offset + kRtpExtensionHeaderSize
  · rw [if_pos hheader] at h
    cases h
  by_cases htotal :
      data.length < offset + (kRtpExtensionHeaderSize + (readU16 data (offset + 2)).toNat * 4)
  · rw [if_neg hheader, if_pos htotal] at h
    cases h
  have hend : offset + kRtpExtensionHeaderSize + (readU16 data (offset + 2)).toNat * 4 =
      offset + (kRtpExtensionHeaderSize + (readU16 data (offset + 2)).toNat * 4) := Nat.add_assoc _ _ _
  rw [if_neg hheader, if_neg htotal] at h
  simp only [parseExtensionBlock, if_neg hheader, hend, if_neg htotal, extensionTotalSize]
  cases hone : isOneByteExtensionProfile (readU16 data offset) with
  | true =>
      simp only [hone, if_true] at h ⊢
      obtain ⟨⟨⟩, hvalid, rfl⟩ := map_ok.mp h
      obtain ⟨elements, helements⟩ := validateElements_ok hvalid
      have hparse : parseOneByteHeaderExtensions data (offset + kRtpExtensionHeaderSize)
          ((readU16 data (offset + 2)).toNat * 4) = .ok elements := helements
      refine ⟨rfl, by omega, ?_, by simp⟩
      intro _
      rw [hparse]
      exact ⟨elements, rfl⟩
  | false =>
      cases htwo : isTwoByteExtensionProfile (readU16 data offset) with
      | true =>
          simp only [hone, htwo, Bool.false_eq_true, if_false, if_true] at h ⊢
          obtain ⟨⟨⟩, hvalid, rfl⟩ := map_ok.mp h
          obtain ⟨elements, helements⟩ := validateElements_ok hvalid
          have hparse : parseTwoByteHeaderExtensions data (offset + kRtpExtensionHeaderSize)
              ((readU16 data (offset + 2)).toNat * 4) = .ok elements := helements
          refine ⟨rfl, by omega, ?_, by simp⟩
          intro _
          rw [hparse]
          exact ⟨elements, rfl⟩
      | false =>
          simp only [hone, htwo, Bool.false_eq_true, if_false] at h ⊢
          obtain ⟨-, -, rfl⟩ := map_ok.mp h
          refine ⟨rfl, by omega, by simp, ?_⟩
          intro _ _
          exact ⟨_, rfl⟩

/-- What an accepted layout says about the packet. -/
structure LaidOut (data : List UInt8) (layout : RtpPacketLayout) : Prop where
  version : hasRtpVersion data = true
  fixedHeader : kRtpFixedHeaderSize ≤ data.length
  baseHeader : RtpPacket.baseHeaderSize data ≤ data.length
  header : layout.headerSize ≤ data.length
  extended : hasExtension data = true →
    validateHeaderExtensions data (RtpPacket.baseHeaderSize data) =
      .ok (layout.headerSize - RtpPacket.baseHeaderSize data)
  extension : RtpPacket.baseHeaderSize data ≤ layout.headerSize
  plain : hasExtension data = false → layout.headerSize = RtpPacket.baseHeaderSize data
  padded : hasPadding data = true → 0 < lastByte data ∧
    layout.mediaPayloadSize + lastByte data = data.length - layout.headerSize
  unpadded : hasPadding data = false →
    layout.mediaPayloadSize = data.length - layout.headerSize

theorem validateRtpPadding_ok {data : List UInt8} {size : ℕ}
    (h : validateRtpPadding data true size = .ok ()) : 0 < lastByte data ∧ lastByte data ≤ size := by
  unfold validateRtpPadding at h
  rw [if_neg Bool.true_eq_false.mp] at h
  split_ifs at h with hempty hzero hsize
  omega

theorem laidOut_of_inspect {data : List UInt8} {layout : RtpPacketLayout}
    (h : inspectRtpPacketLayout data = .ok layout) : LaidOut data layout := by
  obtain ⟨hfixed, hversion, hrtcp, hbase⟩ := inspectRtpPacketLayout_ok h
  have hfixed' : ¬data.length < kRtpFixedHeaderSize := Nat.not_lt.mpr hfixed
  simp only [inspectRtpPacketLayout, if_neg hfixed', hversion, hrtcp, if_neg (Nat.not_lt.mpr hbase),
    Bool.true_eq_false, Bool.false_eq_true, if_false] at h
  cases hextension : (if hasExtension data then
      validateHeaderExtensions data (RtpPacket.baseHeaderSize data) else .ok 0) with
  | error e =>
      rw [hextension] at h
      cases h
  | ok extensionSize =>
      rw [hextension] at h
      simp only at h
      by_cases hheader : data.length < RtpPacket.baseHeaderSize data + extensionSize
      · rw [if_pos hheader] at h
        cases h
      rw [if_neg hheader] at h
      cases hpadding : validateRtpPadding data (hasPadding data)
          (data.length - (RtpPacket.baseHeaderSize data + extensionSize)) with
      | error e =>
          rw [hpadding] at h
          cases h
      | ok u =>
          rw [hpadding] at h
          cases h
          constructor
          case version => exact hversion
          case fixedHeader => exact hfixed
          case baseHeader => exact hbase
          case header => exact Nat.not_lt.mp hheader
          case extended =>
            intro hx
            rw [if_pos hx] at hextension
            rw [hextension, Nat.add_sub_cancel_left]
          case extension => exact Nat.le_add_right _ _
          case plain =>
            intro hx
            rw [hx, if_neg Bool.false_ne_true] at hextension
            cases hextension
            rfl
          case padded =>
            intro hp
            rw [hp] at hpadding
            obtain ⟨hpos, hle⟩ := validateRtpPadding_ok hpadding
            simp only [hp, if_true]
            omega
          case unpadded =>
            intro hp
            simp only [hp, Bool.false_eq_true, if_false, Nat.sub_zero]

section Layout
variable {data : List UInt8} {layout : RtpPacketLayout}

theorem payloadOffset_of_laidOut (h : LaidOut data layout) :
    payloadOffsetAfterExtension data (RtpPacket.baseHeaderSize data) = .ok layout.headerSize := by
  unfold payloadOffsetAfterExtension
  cases hx : hasExtension data with
  | false => rw [if_pos rfl, h.plain hx]
  | true =>
      have hle := h.header
      have hge := h.extension
      obtain ⟨hsize, hfit, -, -⟩ := validateHeaderExtensions_ok (h.extended hx)
      unfold extensionTotalSize at hsize
      have hheader : ¬data.length < RtpPacket.baseHeaderSize data + kRtpExtensionHeaderSize := by
        omega
      have htotal : ¬data.length < RtpPacket.baseHeaderSize data +
          (kRtpExtensionHeaderSize +
            (readU16 data (RtpPacket.baseHeaderSize data + 2)).toNat * 4) := by
        omega
      rw [if_neg Bool.true_eq_false.mp, if_neg hheader]
      simp only [if_neg htotal]
      congr 1
      omega

theorem payloadEnd_of_laidOut (h : LaidOut data layout) :
    payloadEndBeforePadding data layout.headerSize =
      .ok (layout.headerSize + layout.mediaPayloadSize) := by
  have hle := h.header
  unfold payloadEndBeforePadding
  cases hp : hasPadding data with
  | false =>
      have hsize := h.unpadded hp
      rw [if_pos rfl]
      congr 1
      omega
  | true =>
      obtain ⟨hpos, hsize⟩ := h.padded hp
      unfold lastByte at hpos hsize
      have hpayload : ¬data.length ≤ layout.headerSize := by omega
      have hpadding : ¬(byteAt data (data.length - 1) = 0 ∨
          data.length - layout.headerSize < byteAt data (data.length - 1)) := by
        omega
      simp only [Bool.true_eq_false, if_false, if_neg hpayload, if_neg hpadding]
      congr 1
      omega

theorem payloadView_of_laidOut (h : LaidOut data layout) :
    parseRtpPayloadView data =
      if layout.mediaPayloadSize = 0 then .error (ascii "rtp payload is empty")
      else
        .ok
          { marker := decide (byteAt data 1 &&& 0x80 ≠ 0)
            sequenceNumber := readU16 data 2
            timestamp := readU32 data 4
            ssrc := readU32 data 8
            payload := (data.drop layout.headerSize).take layout.mediaPayloadSize } := by
  have hfixed : ¬data.length < kRtpFixedHeaderSize := Nat.not_lt.mpr h.fixedHeader
  have hbase : ¬data.length < kRtpFixedHeaderSize + csrcCount data * kRtpCsrcSize :=
    Nat.not_lt.mpr h.baseHeader
  have hversion : ¬byteAt data 0 >>> 6 ≠ 2 := by
    have hv := h.version
    simp only [hasRtpVersion, Bool.and_eq_true, decide_eq_true_eq] at hv
    exact not_not_intro hv.2
  have hoffset : payloadOffsetAfterExtension data
      (kRtpFixedHeaderSize + csrcCount data * kRtpCsrcSize) = .ok layout.headerSize :=
    payloadOffset_of_laidOut h
  have hempty : layout.headerSize + layout.mediaPayloadSize ≤ layout.headerSize ↔
      layout.mediaPayloadSize = 0 := by
    omega
  simp only [parseRtpPayloadView, if_neg hfixed, if_neg hversion, if_neg hbase, hoffset,
    payloadEnd_of_laidOut h, hempty, Nat.add_sub_cancel_left]

/-- Behind an accepted header the rewriter's parser can only refuse the extension block. -/
theorem extensionBlock_of_laidOut (h : LaidOut data layout) :
    (HasKnownProfile data →
      ∃ elements, (if hasExtension data then
          parseExtensionBlock data (RtpPacket.baseHeaderSize data)
        else .ok ([], RtpPacket.baseHeaderSize data)) = .ok (elements, layout.headerSize)) ∧
    (¬HasKnownProfile data →
      ∃ e, (if hasExtension data then parseExtensionBlock data (RtpPacket.baseHeaderSize data)
        else .ok ([], RtpPacket.baseHeaderSize data)) = .error e) := by
  unfold HasKnownProfile
  cases hx : hasExtension data with
  | false =>
      constructor
      · intro _
        exact ⟨[], by simp [h.plain hx]⟩
      · intro hunknown
        exact absurd (.inl rfl) hunknown
  | true =>
      obtain ⟨-, -, hknown, hother⟩ := validateHeaderExtensions_ok (h.extended hx)
      rw [Nat.add_sub_cancel' h.extension] at hknown
      simp only [if_true, Bool.true_eq_false, false_or]
      refine ⟨hknown, ?_⟩
      intro hunknown
      rw [not_or, Bool.not_eq_true, Bool.not_eq_true] at hunknown
      exact hother hunknown.1 hunknown.2

theorem rewriteable_of_known (hlayout : inspectRtpPacketLayout data = .ok layout)
    (h : LaidOut data layout) (hknown : HasKnownProfile data) :
    ∃ parsed, parseRewriteableRtpPacket data = .ok parsed ∧
      parsed.payloadOffset = layout.headerSize ∧
      parsed.payloadDataSize = layout.mediaPayloadSize := by
  obtain ⟨elements, helements⟩ := (extensionBlock_of_laidOut h).1 hknown
  have hfit : ¬data.length < layout.headerSize := Nat.not_lt.mpr h.header
  simp only [parseRewriteableRtpPacket, parseRtpPacketHeader, hlayout, helements, if_neg hfit]
  cases hp : hasPadding data with
  | false =>
      rw [if_pos rfl]
      exact ⟨_, rfl, rfl, (h.unpadded hp).symm⟩
  | true =>
      obtain ⟨hpos, hsize⟩ := h.padded hp
      have hpayload : ¬data.length - layout.headerSize = 0 := by omega
      have hpadding : ¬(lastByte data = 0 ∨ data.length - layout.headerSize < lastByte data) := by
        omega
      rw [if_neg Bool.true_eq_false.mp, if_neg hpayload, if_neg hpadding]
      exact ⟨_, rfl, rfl, by simp only; omega⟩

theorem refused_of_unknown (hlayout : inspectRtpPacketLayout data = .ok layout)
    (h : LaidOut data layout) (hunknown : ¬HasKnownProfile data) :
    ∃ e, parseRewriteableRtpPacket data = .error e := by
  obtain ⟨e, he⟩ := (extensionBlock_of_laidOut h).2 hunknown
  simp only [parseRewriteableRtpPacket, parseRtpPacketHeader, hlayout, he]
  exact ⟨e, rfl⟩

end Layout

/-- The lookup returns the value of the first parsed element with the id, or nothing. -/
theorem find_of_parse {data : List UInt8} {parsed : ParsedRtpPacket}
    (h : parseRewriteableRtpPacket data = .ok parsed) {extensionId : UInt8}
    (hid : extensionId ≠ 0) :
    (findRtpHeaderExtension data extensionId).map (fun span => span.map (·.bytes data)) =
      .ok ((parsed.headerExtensions.find? fun e => decide (e.id = extensionId)).map (·.value)) := by
  obtain ⟨head, block, tail, elements, paddingSize, rfl, hassembled, rfl⟩ := assembled_of_parse h
  have hpoints := hassembled.find tail hid
  simp only [reportOf]
  cases hfound : elements.find? fun e => decide (e.id = extensionId) with
  | none =>
      rw [hfound] at hpoints
      rw [show findRtpHeaderExtension _ _ = _ from hpoints]
      rfl
  | some e =>
      rw [hfound] at hpoints
      obtain ⟨span, hspan, hholds⟩ := hpoints
      rw [hspan]
      exact congrArg (fun value => Except.ok (some value)) hholds.bytes

/-- The four walkers agree on every byte string. -/
theorem walkers_agree (data : List UInt8) : WalkersAgree data := by
  constructor
  case payloadView =>
    intro layout hlayout
    have hview := payloadView_of_laidOut (laidOut_of_inspect hlayout)
    by_cases hempty : layout.mediaPayloadSize = 0
    · rw [if_pos hempty] at hview
      rw [hview, hempty]
      exact ⟨by simp, by simp⟩
    · rw [if_neg hempty] at hview
      rw [hview]
      refine ⟨by simp [Nat.pos_of_ne_zero hempty], ?_⟩
      intro view hok
      cases hok
      rfl
  case rewriteable =>
    intro layout hlayout
    have hlaid := laidOut_of_inspect hlayout
    by_cases hknown : HasKnownProfile data
    · obtain ⟨parsed, hparsed, hoffset, hsize⟩ := rewriteable_of_known hlayout hlaid hknown
      refine ⟨⟨fun _ => hknown, fun _ => ⟨parsed, hparsed⟩⟩, ?_⟩
      intro other hother
      obtain rfl : parsed = other := Except.ok.inj (hparsed.symm.trans hother)
      exact ⟨hoffset, hsize⟩
    · obtain ⟨e, he⟩ := refused_of_unknown hlayout hlaid hknown
      rw [he]
      exact ⟨by simp [hknown], by simp⟩
  case lookup =>
    intro parsed hparsed extensionId hid
    exact find_of_parse hparsed hid
  case rejected =>
    intro e he
    exact ⟨e, by rw [parseRewriteableRtpPacket, parseRtpPacketHeader, he]⟩

end SimpleWebrtc.LayoutWalkers
