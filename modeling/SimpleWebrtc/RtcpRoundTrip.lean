import SimpleWebrtc.Library.RecordRows
import SimpleWebrtc.RtcpPacketBuilder

/-!
# RTCP packets read back

Every built packet is a common header, the source identifier behind it and a
body, and every block parser finds the data of the builder again. A datagram
is the packets one after the other, so the compound parser cuts it where the
packets meet and collects their data in order.
-/
namespace SimpleWebrtc.RtcpRoundTrip
open Library Library.Bytes Library.RecordRows RtpPacket RtcpReport RtcpFeedback
open RtcpCompoundPacket RtcpPacketBuilder

theorem writeCommonHeader_ok {size : ℕ} {count packetType : UInt8} {head : List UInt8} :
    writeCommonHeader size count packetType = .ok head ↔
      4 ≤ size ∧ size % 4 = 0 ∧ count.toNat ≤ 31 ∧ size / 4 - 1 ≤ 65535 ∧
        head = UInt8.ofNat (128 + count.toNat) :: packetType ::
          u16Bytes (UInt16.ofNat (size / 4 - 1)) := by
  simp only [writeCommonHeader, ensure_bind_ok]
  simp only [kRtcpCommonHeaderSize, kRtcpMaxCount, kRtcpVersion, Except.ok.injEq]
  constructor
  · intro h
    obtain ⟨⟨hsize, hmod⟩, hcount, hwords, hhead⟩ := h
    exact ⟨hsize, hmod, hcount, hwords, hhead.symm⟩
  · intro h
    obtain ⟨hsize, hmod, hcount, hwords, hhead⟩ := h
    exact ⟨⟨hsize, hmod⟩, hcount, hwords, hhead.symm⟩

/-- A finished packet: the header declares its length, a source identifier follows. -/
structure WrittenPacket (count packetType : UInt8) (ssrc : UInt32) (body packet : List UInt8) :
    Prop where
  head : ∃ head, writeCommonHeader packet.length count packetType = .ok head ∧
    packet = head ++ (u32Bytes ssrc ++ body)
  rtcp : 192 ≤ packetType.toNat ∧ packetType.toNat ≤ 223

/-- The header which is read back from a finished packet. -/
def headerOf (count packetType : UInt8) (ssrc : UInt32) (packetSize : ℕ) : RtcpPacketHeader where
  count
  packetType
  length := UInt16.ofNat (packetSize / 4 - 1)
  packetSize
  hasSsrc := true
  ssrc

section Written
variable {count packetType : UInt8} {ssrc : UInt32} {body packet : List UInt8}

theorem writtenPacket_of_head {size : ℕ} {head : List UInt8}
    (hhead : writeCommonHeader size count packetType = .ok head)
    (hrtcp : 192 ≤ packetType.toNat ∧ packetType.toNat ≤ 223) (hsize : size = 8 + body.length) :
    WrittenPacket count packetType ssrc body (head ++ (u32Bytes ssrc ++ body)) := by
  have hlength : (head ++ (u32Bytes ssrc ++ body)).length = size := by
    rw [(writeCommonHeader_ok.mp hhead).2.2.2.2, hsize]
    simp only [List.length_append, List.length_cons, u16Bytes_length, u32Bytes_length]
    omega
  exact ⟨⟨head, by rw [hlength]; exact hhead, rfl⟩, hrtcp⟩

namespace WrittenPacket

theorem layout (h : WrittenPacket count packetType ssrc body packet) :
    packet = (UInt8.ofNat (128 + count.toNat) :: packetType ::
      u16Bytes (UInt16.ofNat (packet.length / 4 - 1))) ++ (u32Bytes ssrc ++ body) := by
  obtain ⟨head, hhead, heq⟩ := h.head
  rw [(writeCommonHeader_ok.mp hhead).2.2.2.2] at heq
  exact heq

theorem length (h : WrittenPacket count packetType ssrc body packet) :
    packet.length = 8 + body.length := by
  conv_lhs => rw [h.layout]
  simp only [List.length_append, List.length_cons, u16Bytes_length, u32Bytes_length]
  omega

theorem length_mod (h : WrittenPacket count packetType ssrc body packet) :
    packet.length % 4 = 0 := by
  obtain ⟨head, hhead, _⟩ := h.head
  exact (writeCommonHeader_ok.mp hhead).2.1

theorem count_le (h : WrittenPacket count packetType ssrc body packet) : count.toNat ≤ 31 := by
  obtain ⟨head, hhead, _⟩ := h.head
  exact (writeCommonHeader_ok.mp hhead).2.2.1

theorem words_le (h : WrittenPacket count packetType ssrc body packet) :
    packet.length / 4 - 1 ≤ 65535 := by
  obtain ⟨head, hhead, _⟩ := h.head
  exact (writeCommonHeader_ok.mp hhead).2.2.2.1

variable (h : WrittenPacket count packetType ssrc body packet) (more : List UInt8)
include h

theorem byteAt_zero : byteAt (packet ++ more) 0 = 128 + count.toNat := by
  have hcount := h.count_le
  rw [h.layout]
  simp only [List.cons_append, byteAt_cons_zero, UInt8.toNat_ofNat']
  omega

theorem type_byte : (packet ++ more).getD 1 0 = packetType := by
  rw [h.layout]
  rfl

theorem byteAt_one : byteAt (packet ++ more) 1 = packetType.toNat := by
  rw [byteAt, h.type_byte]

theorem length_field :
    readU16 (packet ++ more) 2 = UInt16.ofNat (packet.length / 4 - 1) := by
  conv_lhs => rw [h.layout, ← Nat.add_zero 2, ← readU16_drop]
  exact readU16_u16Bytes _ _

theorem declared_size : ((readU16 (packet ++ more) 2).toNat + 1) * 4 = packet.length := by
  have hwords := h.words_le
  have hmod := h.length_mod
  have hlength := h.length
  rw [h.length_field, UInt16.toNat_ofNat']
  omega

theorem ssrc_field : readU32 (packet ++ more) 4 = ssrc := by
  conv_lhs => rw [h.layout, ← Nat.add_zero 4, ← readU32_drop]
  exact (congrArg (readU32 · 0) (List.append_assoc _ _ _)).trans (readU32_u32Bytes ssrc _)

theorem parse_header :
    parseRtcpPacketHeader (packet ++ more) =
      .ok (headerOf count packetType ssrc packet.length) := by
  have hcount := h.count_le
  have hlength := h.length
  have hrtcp := h.rtcp
  have hzero := h.byteAt_zero more
  have hone := h.byteAt_one more
  have hsize := h.declared_size more
  have hlong : (packet ++ more).length = packet.length + more.length := List.length_append
  have hne : (packet ++ more).isEmpty = false := by
    cases hcase : packet ++ more with
    | nil => simp [hcase] at hlong; omega
    | cons => rfl
  have hversion : hasRtpVersion (packet ++ more) = true := by
    have hshift : (128 + count.toNat) >>> 6 = 2 := by
      rw [Nat.shiftRight_eq_div_pow]
      omega
    simp [hasRtpVersion, hne, hzero, hshift]
  have hkind : isRtcpPacket (packet ++ more) = true := by
    simp only [isRtcpPacket, isRtpOrRtcpPacket, hne, hzero, hone, hlong, Bool.and_eq_true,
      decide_eq_true_eq, Bool.not_false, true_and]
    omega
  have hpadding : (byteAt (packet ++ more) 0).testBit 5 = false := by
    rw [hzero, Nat.testBit_eq_decide_div_mod_eq, decide_eq_false_iff_not]
    omega
  have hcountByte : UInt8.ofNat (byteAt (packet ++ more) 0 % 32) = count := by
    apply UInt8.toNat_inj.mp
    rw [hzero, UInt8.toNat_ofNat']
    omega
  rw [parseRtcpPacketHeader, ensure_pass (by rw [hlong, kRtcpCommonHeaderSize]; omega),
    ensure_pass hversion, ensure_pass hkind]
  simp only [hpadding, hsize, hcountByte, h.type_byte, h.ssrc_field, Bool.false_eq_true,
    false_imp_iff]
  rw [ensure_pass (by omega), ensure_pass trivial, ensure_pass trivial, ensure_pass trivial,
    h.length_field, if_pos (by omega), decide_eq_true (by omega)]
  rfl

omit more in
theorem validate : validateRtcpPacket packet = .ok packetType := by
  have hzero := h.byteAt_zero []
  have hsize := h.declared_size []
  have htype := h.type_byte []
  have hcount := h.count_le
  have hlength := h.length
  rw [List.append_nil] at hzero hsize htype
  rw [validateRtcpPacket, ensure_pass ⟨by rw [kRtcpCommonHeaderSize]; omega, h.length_mod⟩,
    ensure_pass (by rw [hzero, kRtcpVersion]; omega), ensure_pass hsize, htype]

end WrittenPacket

/-- The body starts behind the source identifier. -/
theorem WrittenPacket.split (h : WrittenPacket count packetType ssrc body packet) :
    ∃ front, front.length = 8 ∧ packet = front ++ body :=
  ⟨_, rfl, h.layout.trans (List.append_assoc _ _ _).symm⟩

/-- What the block parsers learn from the header of a finished packet. -/
structure HeaderRead (count packetType : UInt8) (packet : List UInt8) (header : RtcpPacketHeader) :
    Prop where
  parsed : parseRtcpPacketHeader packet = .ok header
  packetType : header.packetType = packetType
  count : header.count = count
  packetSize : header.packetSize = packet.length
  padding : header.padding = false
  payloadEnd : ∀ name, rtcpPayloadEnd header packet name = .ok packet.length

theorem WrittenPacket.header_read (h : WrittenPacket count packetType ssrc body packet) :
    HeaderRead count packetType packet (headerOf count packetType ssrc packet.length) := by
  have hparsed := h.parse_header []
  rw [List.append_nil] at hparsed
  exact ⟨hparsed, rfl, rfl, rfl, rfl, fun name => by simp [rtcpPayloadEnd, headerOf]⟩

end Written

/-- The range of a signed twenty-four-bit field. -/
def FitsI24 (value : ℤ) : Prop := -8388608 ≤ value ∧ value ≤ 8388607

theorem readI24_i24Word {value : ℤ} (h : FitsI24 value) (more : List UInt8) :
    readI24 (u24Bytes (i24Word value) ++ more) 0 = value := by
  obtain ⟨hlow, hhigh⟩ := h
  have hword : (readU24 (u24Bytes (i24Word value) ++ more) 0).toNat =
      (value % 16777216).toNat := by
    rw [readU24_u24Bytes, i24Word, UInt32.toNat_ofNat']
    omega
  simp only [readI24, hword, Nat.testBit_eq_decide_div_mod_eq, decide_eq_true_eq]
  split_ifs with hsign
  · omega
  · omega

def reportBlockBytes (block : RtcpReportBlock) : List UInt8 :=
  u32Bytes block.sourceSsrc ++ (block.fractionLost ::
    (u24Bytes (i24Word block.cumulativeLost) ++
      (u32Bytes block.extendedHighestSequenceNumber ++ (u32Bytes block.jitter ++
        (u32Bytes block.lastSenderReport ++ u32Bytes block.delaySinceLastSenderReport)))))

theorem reportBlockBytes_length (block : RtcpReportBlock) :
    (reportBlockBytes block).length = kRtcpReportBlockSize := rfl

theorem shifts_parseReportBlock : Shifts parseReportBlock := by
  intro front data i
  simp only [parseReportBlock, readI24, Nat.add_assoc, readU32_append_right, readU24_append_right,
    getD_append_right]

theorem parseReportBlock_written {block : RtcpReportBlock} (h : FitsI24 block.cumulativeLost)
    (more : List UInt8) : parseReportBlock (reportBlockBytes block ++ more) 0 = block := by
  have hsource : readU32 (reportBlockBytes block ++ more) 0 = block.sourceSsrc :=
    readU32_u32Bytes _ _
  have hlost : readI24 (reportBlockBytes block ++ more) 5 = block.cumulativeLost := by
    rw [readI24, ← Nat.add_zero 5, ← readU24_drop]
    exact readI24_i24Word h _
  have hsequence : readU32 (reportBlockBytes block ++ more) 8 =
      block.extendedHighestSequenceNumber := by
    rw [← Nat.add_zero 8, ← readU32_drop]
    exact readU32_u32Bytes _ _
  have hjitter : readU32 (reportBlockBytes block ++ more) 12 = block.jitter := by
    rw [← Nat.add_zero 12, ← readU32_drop]
    exact readU32_u32Bytes _ _
  have hlast : readU32 (reportBlockBytes block ++ more) 16 = block.lastSenderReport := by
    rw [← Nat.add_zero 16, ← readU32_drop]
    exact readU32_u32Bytes _ _
  have hdelay : readU32 (reportBlockBytes block ++ more) 20 =
      block.delaySinceLastSenderReport := by
    rw [← Nat.add_zero 20, ← readU32_drop]
    exact readU32_u32Bytes _ _
  simp only [parseReportBlock, Nat.zero_add, hsource, hlost, hsequence, hjitter, hlast, hdelay]
  rfl

theorem writeReportBlocks_ok {packetSize offset : ℕ} {blocks : List RtcpReportBlock}
    {bytes : List UInt8} (hfit : offset + blocks.length * kRtcpReportBlockSize ≤ packetSize) :
    writeReportBlocks packetSize offset blocks = .ok bytes ↔
      (∀ block ∈ blocks, FitsI24 block.cumulativeLost) ∧ bytes = blocks.flatMap reportBlockBytes := by
  induction blocks generalizing offset bytes with
  | nil => simp [writeReportBlocks, eq_comm]
  | cons block blocks ih =>
      rw [List.length_cons, Nat.succ_mul] at hfit
      have htail := @ih (offset + kRtcpReportBlockSize)
      rw [writeReportBlocks, ensure_bind_ok, ensure_bind_ok, bind_ok]
      constructor
      · intro h
        obtain ⟨hlost, -, rest, hrest, hbytes⟩ := h
        obtain ⟨hall, hflat⟩ := (htail (by omega)).mp hrest
        apply And.intro
        · intro b hb
          cases hb with
          | head => exact hlost
          | tail _ hb => exact hall b hb
        · rw [← Except.ok.inj hbytes, hflat, List.flatMap_cons, reportBlockBytes]
          simp only [List.append_assoc, List.cons_append]
      · intro h
        obtain ⟨hall, hbytes⟩ := h
        apply And.intro (hall block (by simp))
        apply And.intro (by omega)
        refine ⟨_, (htail (by omega)).mpr
          ⟨fun b hb => hall b (List.mem_cons_of_mem block hb), rfl⟩, ?_⟩
        rw [hbytes, List.flatMap_cons, reportBlockBytes]
        simp only [List.append_assoc, List.cons_append]

theorem validateReport_ok {reportCount : ℕ} {senderSsrc : UInt32} {count : UInt8} :
    validateReport reportCount senderSsrc = .ok count ↔
      senderSsrc ≠ 0 ∧ reportCount ≤ 31 ∧ count = UInt8.ofNat reportCount := by
  rw [validateReport, ensure_bind_ok, ensure_bind_ok, Except.ok.injEq, eq_comm (a := count)]
  rfl

theorem count_toNat {n : ℕ} (h : n ≤ 31) : (UInt8.ofNat n).toNat = n := by
  rw [UInt8.toNat_ofNat']
  omega

/-- What a report of either kind is accepted with. -/
structure AcceptedReport (senderSsrc : UInt32) (blocks : List RtcpReportBlock) : Prop where
  ssrc : senderSsrc ≠ 0
  count : blocks.length ≤ 31
  lost : ∀ block ∈ blocks, FitsI24 block.cumulativeLost

theorem reportBlocks_length (blocks : List RtcpReportBlock) :
    (blocks.flatMap reportBlockBytes).length = blocks.length * kRtcpReportBlockSize :=
  row_length reportBlockBytes_length blocks

theorem parse_reportBlocks {blocks : List RtcpReportBlock}
    (hlost : ∀ block ∈ blocks, FitsI24 block.cumulativeLost) (front : List UInt8) :
    (List.range blocks.length).map (fun i =>
      parseReportBlock (front ++ blocks.flatMap reportBlockBytes)
        (front.length + i * kRtcpReportBlockSize)) = blocks := by
  have hrow : (List.range blocks.length).map (fun i =>
      parseReportBlock (front ++ (blocks.flatMap reportBlockBytes ++ []))
        (front.length + i * kRtcpReportBlockSize)) = blocks.map id :=
    read_row reportBlockBytes_length shifts_parseReportBlock
      (fun block hblock => parseReportBlock_written (hlost block hblock)) front []
  rwa [List.append_nil, List.map_id] at hrow

def senderInfoBytes (report : RtcpSenderReportData) : List UInt8 :=
  u32Bytes (UInt32.ofNat (report.ntpTimestamp.toNat / 4294967296)) ++
    (u32Bytes (UInt32.ofNat report.ntpTimestamp.toNat) ++ (u32Bytes report.rtpTimestamp ++
      (u32Bytes report.senderPacketCount ++ u32Bytes report.senderOctetCount)))

def senderInfoOf (report : RtcpSenderReportData) : RtcpSenderInfo where
  ntpTimestampMsw := UInt32.ofNat (report.ntpTimestamp.toNat / 4294967296)
  ntpTimestampLsw := UInt32.ofNat report.ntpTimestamp.toNat
  rtpTimestamp := report.rtpTimestamp
  senderPacketCount := report.senderPacketCount
  senderOctetCount := report.senderOctetCount

theorem parseSenderInfo_written (front : List UInt8) (report : RtcpSenderReportData)
    (more : List UInt8) :
    parseSenderInfo (front ++ (senderInfoBytes report ++ more)) front.length =
      senderInfoOf report := by
  have hat : ∀ i, readU32 (front ++ (senderInfoBytes report ++ more)) (front.length + i) =
      readU32 ((senderInfoBytes report ++ more).drop i) 0 := by
    intro i
    rw [readU32_append_right, readU32_drop, Nat.add_zero]
  have hzero := hat 0
  rw [Nat.add_zero] at hzero
  simp only [parseSenderInfo, hat, hzero, senderInfoOf, RtcpSenderInfo.mk.injEq]
  exact ⟨readU32_u32Bytes _ _, readU32_u32Bytes _ _, readU32_u32Bytes _ _, readU32_u32Bytes _ _,
    readU32_u32Bytes _ _⟩

theorem buildRtcpReceiverReport_written {report : RtcpReceiverReportData} {packet : List UInt8}
    (h : buildRtcpReceiverReport report = .ok packet) :
    AcceptedReport report.senderSsrc report.reportBlocks ∧
      WrittenPacket (UInt8.ofNat report.reportBlocks.length) kRtcpPacketTypeReceiverReport
        report.senderSsrc (report.reportBlocks.flatMap reportBlockBytes) packet := by
  obtain ⟨count, hcount, h⟩ := bind_ok.mp h
  obtain ⟨head, hhead, h⟩ := bind_ok.mp h
  obtain ⟨bytes, hbytes, h⟩ := bind_ok.mp h
  obtain ⟨hssrc, hlength, hcounted⟩ := validateReport_ok.mp hcount
  obtain ⟨hlost, hflat⟩ := (writeReportBlocks_ok (by simp [kRtcpCommonHeaderSize])).mp hbytes
  apply And.intro ⟨hssrc, hlength, hlost⟩
  rw [← Except.ok.inj h, hflat, ← hcounted]
  exact writtenPacket_of_head hhead (by decide)
    (by rw [reportBlocks_length, kRtcpCommonHeaderSize])

theorem buildRtcpSenderReport_written {report : RtcpSenderReportData} {packet : List UInt8}
    (h : buildRtcpSenderReport report = .ok packet) :
    AcceptedReport report.senderSsrc report.reportBlocks ∧
      WrittenPacket (UInt8.ofNat report.reportBlocks.length) kRtcpPacketTypeSenderReport
        report.senderSsrc
        (senderInfoBytes report ++ report.reportBlocks.flatMap reportBlockBytes) packet := by
  obtain ⟨count, hcount, h⟩ := bind_ok.mp h
  obtain ⟨head, hhead, h⟩ := bind_ok.mp h
  obtain ⟨bytes, hbytes, h⟩ := bind_ok.mp h
  obtain ⟨hssrc, hlength, hcounted⟩ := validateReport_ok.mp hcount
  obtain ⟨hlost, hflat⟩ := (writeReportBlocks_ok
    (by simp [kRtcpCommonHeaderSize, kRtcpSenderInfoSize])).mp hbytes
  apply And.intro ⟨hssrc, hlength, hlost⟩
  have hpacket := Except.ok.inj h
  rw [← hpacket, hflat, ← hcounted]
  have hsize : (senderInfoBytes report ++ report.reportBlocks.flatMap reportBlockBytes).length =
      20 + report.reportBlocks.length * kRtcpReportBlockSize := by
    rw [List.length_append, reportBlocks_length]
    rfl
  have hwritten : WrittenPacket count kRtcpPacketTypeSenderReport report.senderSsrc
      (senderInfoBytes report ++ report.reportBlocks.flatMap reportBlockBytes) _ :=
    writtenPacket_of_head hhead (by decide)
      (by rw [hsize, kRtcpCommonHeaderSize, kRtcpSenderInfoSize]; omega)
  simpa only [senderInfoBytes, List.append_assoc] using hwritten

theorem parseRtcpReportPacket_receiver {report : RtcpReceiverReportData} {packet : List UInt8}
    (h : buildRtcpReceiverReport report = .ok packet) :
    parseRtcpReportPacket packet =
      .ok ⟨kRtcpPacketTypeReceiverReport, report.senderSsrc, none, report.reportBlocks⟩ := by
  obtain ⟨haccepted, hwritten⟩ := buildRtcpReceiverReport_written h
  have hssrc := hwritten.ssrc_field []
  have hlength := hwritten.length
  have hcount := count_toNat haccepted.count
  obtain ⟨front, hfront, hpacket⟩ := hwritten.split
  have hblocks := parse_reportBlocks haccepted.lost front
  rw [List.append_nil] at hssrc
  rw [reportBlocks_length] at hlength
  rw [hfront, ← hpacket] at hblocks
  have hread := hwritten.header_read
  generalize headerOf _ _ _ _ = header at hread
  have hkind : (kRtcpPacketTypeReceiverReport == kRtcpPacketTypeSenderReport) = false := rfl
  rw [parseRtcpReportPacket, hread.parsed, ok_bind, ensure_pass (by rw [hread.packetType]; rfl),
    rtcpReportPayloadEnd, hread.payloadEnd, ok_bind]
  simp only [hread.packetType, hread.count, hcount, hkind, Bool.false_eq_true, false_imp_iff,
    if_false]
  have hsizes : kRtcpCommonHeaderSize + kRtcpSenderSsrcSize = 8 := rfl
  rw [ensure_pass (by omega), ensure_pass trivial, ensure_pass (by omega),
    ensure_pass (by omega)]
  simp only [kRtcpCommonHeaderSize, kRtcpSenderSsrcSize, hssrc, hblocks]

theorem parseRtcpReportPacket_sender {report : RtcpSenderReportData} {packet : List UInt8}
    (h : buildRtcpSenderReport report = .ok packet) :
    parseRtcpReportPacket packet = .ok ⟨kRtcpPacketTypeSenderReport, report.senderSsrc,
      some (senderInfoOf report), report.reportBlocks⟩ := by
  obtain ⟨haccepted, hwritten⟩ := buildRtcpSenderReport_written h
  have hssrc := hwritten.ssrc_field []
  have hlength := hwritten.length
  have hcount := count_toNat haccepted.count
  have hinfoLength : (senderInfoBytes report).length = 20 := rfl
  obtain ⟨front, hfront, hpacket⟩ := hwritten.split
  have hinfo := parseSenderInfo_written front report (report.reportBlocks.flatMap reportBlockBytes)
  have hblocks := parse_reportBlocks haccepted.lost (front ++ senderInfoBytes report)
  rw [List.append_nil] at hssrc
  rw [List.length_append, hinfoLength, reportBlocks_length] at hlength
  rw [hfront, ← hpacket] at hinfo
  rw [List.length_append, hinfoLength, hfront, List.append_assoc, ← hpacket] at hblocks
  have hread := hwritten.header_read
  generalize headerOf _ _ _ _ = header at hread
  have hkind : (kRtcpPacketTypeSenderReport == kRtcpPacketTypeSenderReport) = true := rfl
  rw [parseRtcpReportPacket, hread.parsed, ok_bind, ensure_pass (by rw [hread.packetType]; rfl),
    rtcpReportPayloadEnd, hread.payloadEnd, ok_bind]
  simp only [hread.packetType, hread.count, hcount, hkind, true_imp_iff, if_true]
  have hsizes : kRtcpCommonHeaderSize + kRtcpSenderSsrcSize = 8 ∧ kRtcpSenderInfoSize = 20 :=
    ⟨rfl, rfl⟩
  rw [ensure_pass (by omega), ensure_pass (by omega), ensure_pass (by omega),
    ensure_pass (by omega)]
  simp only [kRtcpCommonHeaderSize, kRtcpSenderSsrcSize, kRtcpSenderInfoSize, hssrc, hinfo, hblocks]

theorem buildRtcpReceiverReport_accepts (report : RtcpReceiverReportData) :
    (∃ packet, buildRtcpReceiverReport report = .ok packet) ↔
      AcceptedReport report.senderSsrc report.reportBlocks := by
  constructor
  · intro h
    obtain ⟨packet, hpacket⟩ := h
    exact (buildRtcpReceiverReport_written hpacket).1
  · intro h
    have hcount := h.count
    have hsize : kRtcpCommonHeaderSize + 4 + report.reportBlocks.length * kRtcpReportBlockSize =
        8 + report.reportBlocks.length * 24 := rfl
    have hheader : writeCommonHeader
        (kRtcpCommonHeaderSize + 4 + report.reportBlocks.length * kRtcpReportBlockSize)
        (UInt8.ofNat report.reportBlocks.length) kRtcpPacketTypeReceiverReport = .ok _ :=
      writeCommonHeader_ok.mpr ⟨by rw [hsize]; omega, by rw [hsize]; omega,
        (count_toNat hcount).trans_le hcount, by rw [hsize]; omega, rfl⟩
    exact ⟨_, bind_ok.mpr ⟨_, validateReport_ok.mpr ⟨h.ssrc, hcount, rfl⟩, bind_ok.mpr ⟨_, hheader,
      bind_ok.mpr ⟨_, (writeReportBlocks_ok le_rfl).mpr ⟨h.lost, rfl⟩, rfl⟩⟩⟩⟩

theorem buildRtcpSenderReport_accepts (report : RtcpSenderReportData) :
    (∃ packet, buildRtcpSenderReport report = .ok packet) ↔
      AcceptedReport report.senderSsrc report.reportBlocks := by
  constructor
  · intro h
    obtain ⟨packet, hpacket⟩ := h
    exact (buildRtcpSenderReport_written hpacket).1
  · intro h
    have hcount := h.count
    have hsize : kRtcpCommonHeaderSize + 4 + kRtcpSenderInfoSize +
        report.reportBlocks.length * kRtcpReportBlockSize =
        28 + report.reportBlocks.length * 24 := rfl
    have hheader : writeCommonHeader (kRtcpCommonHeaderSize + 4 + kRtcpSenderInfoSize +
        report.reportBlocks.length * kRtcpReportBlockSize)
        (UInt8.ofNat report.reportBlocks.length) kRtcpPacketTypeSenderReport = .ok _ :=
      writeCommonHeader_ok.mpr ⟨by rw [hsize]; omega, by rw [hsize]; omega,
        (count_toNat hcount).trans_le hcount, by rw [hsize]; omega, rfl⟩
    exact ⟨_, bind_ok.mpr ⟨_, validateReport_ok.mpr ⟨h.ssrc, hcount, rfl⟩, bind_ok.mpr ⟨_, hheader,
      bind_ok.mpr ⟨_, (writeReportBlocks_ok le_rfl).mpr ⟨h.lost, rfl⟩, rfl⟩⟩⟩⟩

theorem trailingBytesAreZero_replicate (front : List UInt8) (size : ℕ) :
    trailingBytesAreZero (front ++ List.replicate size 0) front.length
      (front ++ List.replicate size 0).length = true := by
  have hzero : (List.replicate size (0 : UInt8)).all (· == 0) = true :=
    List.all_eq_true.mpr fun b hb => beq_iff_eq.mpr (List.eq_of_mem_replicate hb)
  rw [trailingBytesAreZero, List.drop_left, List.length_append, List.length_replicate,
    Nat.add_sub_cancel_left, List.take_of_length_le (by simp), hzero]
  simp

def sdesBody (cname : Text) : List UInt8 :=
  kRtcpSdesItemCname :: UInt8.ofNat cname.length ::
    (cname ++ (0 :: List.replicate (alignedSize (11 + cname.length) - (11 + cname.length)) 0))

theorem buildRtcpSdesCname_written {ssrc : UInt32} {cname : Text} {packet : List UInt8}
    (h : buildRtcpSdesCname ssrc cname = .ok packet) :
    cname.length ≤ 255 ∧
      WrittenPacket 1 kRtcpPacketTypeSdes ssrc (sdesBody cname) packet := by
  obtain ⟨_, h⟩ := ensure_bind_ok.mp h
  obtain ⟨_, h⟩ := ensure_bind_ok.mp h
  obtain ⟨hlength, h⟩ := ensure_bind_ok.mp h
  obtain ⟨head, hhead, h⟩ := bind_ok.mp h
  have hunaligned : kRtcpCommonHeaderSize + 4 + 2 + cname.length + 1 = 11 + cname.length := by
    rw [kRtcpCommonHeaderSize]
    omega
  rw [hunaligned] at hhead h
  apply And.intro hlength
  rw [← Except.ok.inj h]
  apply writtenPacket_of_head hhead (by decide)
  simp only [sdesBody, List.length_cons, List.length_append, List.length_replicate, alignedSize]
  omega

theorem parseSdesItems_written {cname : Text} {front : List UInt8} {size : ℕ}
    (hlength : cname.length ≤ 255)
    (haligned : (front.length + 3 + cname.length + 3) / 4 * 4 =
      front.length + 3 + cname.length + size) (ssrc : UInt32) :
    let data := front ++ (kRtcpSdesItemCname :: UInt8.ofNat cname.length ::
      (cname ++ (0 :: List.replicate size 0)))
    parseSdesItems data data.length front.length { ssrc } =
      .ok (⟨ssrc, cname, [⟨kRtcpSdesItemCname, cname⟩]⟩, data.length) := by
  intro data
  have hsize : data.length = front.length + 3 + cname.length + size := by
    simp only [data, List.length_append, List.length_cons, List.length_replicate]
    omega
  have htype : data.getD front.length 0 = kRtcpSdesItemCname :=
    getD_append_right front _ 0 0
  have hcount : byteAt data (front.length + 1) = cname.length := by
    rw [byteAt, getD_append_right]
    simp only [List.getD_cons_succ, List.getD_cons_zero, UInt8.toNat_ofNat']
    omega
  have hsplit : data = (front ++ [kRtcpSdesItemCname, UInt8.ofNat cname.length]) ++
      (cname ++ (0 :: List.replicate size 0)) := by
    simp only [data, List.append_assoc, List.cons_append, List.nil_append]
  have hvalue : (data.drop (front.length + 2)).take cname.length = cname := by
    rw [hsplit, List.drop_left' (by simp), List.take_left]
  have hbefore : (front ++ [kRtcpSdesItemCname, UInt8.ofNat cname.length] ++ cname).length =
      front.length + 2 + cname.length := by
    simp only [List.length_append, List.length_cons, List.length_nil]
  have hend : data.getD (front.length + 2 + cname.length) 0 = kRtcpSdesItemEnd := by
    have hat := getD_append_right (front ++ [kRtcpSdesItemCname, UInt8.ofNat cname.length] ++ cname)
      (0 :: List.replicate size 0) 0 0
    rwa [List.append_assoc _ cname, ← hsplit, hbefore, Nat.add_zero] at hat
  have hzero := trailingBytesAreZero_replicate
    (front ++ [kRtcpSdesItemCname, UInt8.ofNat cname.length] ++ cname ++ [0]) size
  have hback : front ++ [kRtcpSdesItemCname, UInt8.ofNat cname.length] ++ cname ++ [0] ++
      List.replicate size 0 = data := by
    rw [hsplit]
    simp only [List.append_assoc, List.cons_append, List.nil_append]
  have hfront : (front ++ [kRtcpSdesItemCname, UInt8.ofNat cname.length] ++ cname ++ [0]).length =
      front.length + 2 + cname.length + 1 := by
    rw [List.length_append, hbefore]
    rfl
  rw [hback, hfront] at hzero
  rw [parseSdesItems, if_neg (by omega), htype, if_neg (by decide), if_neg (by omega)]
  simp only [hcount]
  rw [if_neg (by omega), hvalue, parseSdesItems, if_neg (by omega), if_pos hend]
  have hnext : (front.length + 2 + cname.length + 1 + 3) / 4 * 4 = data.length := by omega
  simp only [hnext]
  rw [if_neg (by omega), if_neg (by rw [hzero]; decide)]
  simp

theorem parseRtcpSdesPacket_written {ssrc : UInt32} {cname : Text} {packet : List UInt8}
    (h : buildRtcpSdesCname ssrc cname = .ok packet) :
    parseRtcpSdesPacket packet = .ok [⟨ssrc, cname, [⟨kRtcpSdesItemCname, cname⟩]⟩] := by
  obtain ⟨hlength, hwritten⟩ := buildRtcpSdesCname_written h
  have hssrc := hwritten.ssrc_field []
  have hsize := hwritten.length
  obtain ⟨front, hfront, hpacket⟩ := hwritten.split
  have haligned : (front.length + 3 + cname.length + 3) / 4 * 4 = front.length + 3 + cname.length +
      (alignedSize (11 + cname.length) - (11 + cname.length)) := by
    rw [hfront, alignedSize]
    omega
  have hitems := parseSdesItems_written hlength haligned ssrc
  rw [List.append_nil] at hssrc
  change parseSdesItems (front ++ sdesBody cname) (front ++ sdesBody cname).length front.length _ =
    .ok (_, (front ++ sdesBody cname).length) at hitems
  rw [hfront, ← hpacket] at hitems
  have hread := hwritten.header_read
  generalize headerOf _ _ _ _ = header at hread
  have hone : (1 : UInt8).toNat = 0 + 1 := rfl
  rw [parseRtcpSdesPacket, hread.parsed, ok_bind, ensure_pass hread.packetType, hread.payloadEnd,
    ok_bind, hread.count, hone, parseSdesChunks, kRtcpCommonHeaderSize, kRtcpSsrcSize,
    ensure_pass (by omega), hssrc, hitems, ok_bind]
  simp only [parseSdesChunks, ok_bind]
  rw [ensure_pass trivial]

/-- Payload feedback is handed on with its two source identifiers read. -/
theorem parseRtcpFeedbackPacket_written {format : UInt8} {senderSsrc mediaSsrc : UInt32}
    {fci packet : List UInt8} (h : WrittenPacket format kRtcpPacketTypePayloadFeedback senderSsrc
      (u32Bytes mediaSsrc ++ fci) packet) :
    parseRtcpFeedbackPacket packet = parsePayloadFeedback packet 12 packet.length
      { format, packetType := kRtcpPacketTypePayloadFeedback, senderSsrc, mediaSsrc } := by
  have hssrc := h.ssrc_field []
  have hsize := h.length
  obtain ⟨front, hfront, hpacket⟩ := h.split
  have hsecond : readU32 packet 8 = mediaSsrc := by
    rw [hpacket, ← hfront, ← Nat.add_zero front.length, readU32_append_right, readU32_u32Bytes]
  rw [List.append_nil] at hssrc
  rw [List.length_append, u32Bytes_length] at hsize
  have hread := h.header_read
  generalize headerOf _ _ _ _ = header at hread
  have hnopadding : header.padding = true → kRtcpFeedbackHeaderSize ≤ packet.length := by
    rw [hread.padding]
    exact fun h => Bool.noConfusion h
  have hkind : kRtcpPacketTypePayloadFeedback ≠ kRtcpPacketTypeTransportFeedback := by decide
  rw [parseRtcpFeedbackPacket, hread.parsed, ok_bind, ensure_pass (by rw [hread.packetType]; rfl),
    ensure_pass (by rw [hread.packetSize, kRtcpFeedbackHeaderSize]; omega),
    rtcpFeedbackPayloadEnd, hread.payloadEnd, ok_bind, ensure_pass hnopadding, ok_bind,
    hread.packetType, hread.count, hssrc, hsecond, kRtcpFeedbackHeaderSize, if_neg hkind]

def pliPacketOf (senderSsrc mediaSsrc : UInt32) : RtcpFeedbackPacket where
  format := kRtcpPayloadFeedbackPli
  packetType := kRtcpPacketTypePayloadFeedback
  senderSsrc
  mediaSsrc
  hasKeyframeRequest := true
  keyframeRequestMediaSsrcs := [mediaSsrc]

theorem buildRtcpPictureLossIndication_written {senderSsrc mediaSsrc : UInt32}
    {packet : List UInt8} (h : buildRtcpPictureLossIndication senderSsrc mediaSsrc = .ok packet) :
    mediaSsrc ≠ 0 ∧ WrittenPacket kRtcpPayloadFeedbackPli kRtcpPacketTypePayloadFeedback senderSsrc
      (u32Bytes mediaSsrc) packet := by
  obtain ⟨_, h⟩ := ensure_bind_ok.mp h
  obtain ⟨hmedia, h⟩ := ensure_bind_ok.mp h
  obtain ⟨head, hhead, h⟩ := bind_ok.mp h
  apply And.intro hmedia
  rw [← Except.ok.inj h]
  exact writtenPacket_of_head hhead (by decide) rfl

theorem parseRtcpFeedbackPacket_pli {senderSsrc mediaSsrc : UInt32} {packet : List UInt8}
    (h : buildRtcpPictureLossIndication senderSsrc mediaSsrc = .ok packet) :
    parseRtcpFeedbackPacket packet = .ok (pliPacketOf senderSsrc mediaSsrc) := by
  obtain ⟨hmedia, hwritten⟩ := buildRtcpPictureLossIndication_written h
  have hsize : packet.length = 12 := hwritten.length
  rw [← List.append_nil (u32Bytes mediaSsrc)] at hwritten
  rw [parseRtcpFeedbackPacket_written hwritten, parsePayloadFeedback, if_pos rfl, parsePli,
    ensure_pass hsize.symm, if_pos hmedia, pliPacketOf]

def firEntryBytes (request : RtcpFirRequest) : List UInt8 :=
  u32Bytes request.mediaSsrc ++ [request.sequenceNumber, 0, 0, 0]

def firEntryOf (request : RtcpFirRequest) : RtcpFirEntry :=
  ⟨request.mediaSsrc, request.sequenceNumber⟩

/-- One entry of a full intra request where it stands. -/
def readFirEntry (data : List UInt8) (offset : ℕ) : RtcpFirEntry :=
  ⟨readU32 data offset, data.getD (offset + 4) 0⟩

theorem firEntryBytes_length (request : RtcpFirRequest) :
    (firEntryBytes request).length = kRtcpFirEntrySize := rfl

theorem writeFirEntries_ok {requests : List RtcpFirRequest} {bytes : List UInt8}
    (h : writeFirEntries requests = .ok bytes) :
    (∀ request ∈ requests, request.mediaSsrc ≠ 0) ∧ bytes = requests.flatMap firEntryBytes := by
  induction requests generalizing bytes with
  | nil =>
      cases h
      simp
  | cons request requests ih =>
      obtain ⟨hmedia, h⟩ := ensure_bind_ok.mp h
      obtain ⟨rest, hrest, h⟩ := bind_ok.mp h
      obtain ⟨hall, hflat⟩ := ih hrest
      apply And.intro
      · intro other hother
        cases hother with
        | head => exact hmedia
        | tail _ hother => exact hall other hother
      · rw [← Except.ok.inj h, hflat, List.flatMap_cons, firEntryBytes]
        simp only [List.append_assoc, List.cons_append, List.nil_append]

def firPacketOf (senderSsrc : UInt32) (requests : List RtcpFirRequest) : RtcpFeedbackPacket where
  format := kRtcpPayloadFeedbackFir
  packetType := kRtcpPacketTypePayloadFeedback
  senderSsrc
  firCount := requests.length
  hasKeyframeRequest := true
  keyframeRequestMediaSsrcs := requests.map RtcpFirRequest.mediaSsrc
  firEntries := requests.map firEntryOf

theorem buildRtcpFullIntraRequest_written {senderSsrc : UInt32} {requests : List RtcpFirRequest}
    {packet : List UInt8} (h : buildRtcpFullIntraRequest senderSsrc requests = .ok packet) :
    (∀ request ∈ requests, request.mediaSsrc ≠ 0) ∧
      WrittenPacket kRtcpPayloadFeedbackFir kRtcpPacketTypePayloadFeedback senderSsrc
        (u32Bytes 0 ++ requests.flatMap firEntryBytes) packet := by
  obtain ⟨_, h⟩ := ensure_bind_ok.mp h
  obtain ⟨_, h⟩ := ensure_bind_ok.mp h
  obtain ⟨_, h⟩ := ensure_bind_ok.mp h
  obtain ⟨head, hhead, h⟩ := bind_ok.mp h
  obtain ⟨bytes, hbytes, h⟩ := bind_ok.mp h
  obtain ⟨hmedia, hflat⟩ := writeFirEntries_ok hbytes
  apply And.intro hmedia
  rw [← Except.ok.inj h, hflat]
  apply writtenPacket_of_head hhead (by decide)
  rw [List.length_append, u32Bytes_length, row_length firEntryBytes_length,
    kRtcpFeedbackHeaderSize]
  omega

theorem parseRtcpFeedbackPacket_fir {senderSsrc : UInt32} {requests : List RtcpFirRequest}
    {packet : List UInt8} (h : buildRtcpFullIntraRequest senderSsrc requests = .ok packet) :
    parseRtcpFeedbackPacket packet = .ok (firPacketOf senderSsrc requests) := by
  obtain ⟨hmedia, hwritten⟩ := buildRtcpFullIntraRequest_written h
  have hsize := hwritten.length
  obtain ⟨front, hfront, hpacket⟩ := hwritten.split
  have hshift : Shifts readFirEntry := by
    intro front data i
    simp only [readFirEntry, Nat.add_assoc, readU32_append_right, getD_append_right]
  have hread : ∀ request ∈ requests, ∀ more,
      readFirEntry (firEntryBytes request ++ more) 0 = firEntryOf request := by
    intro request _ more
    rw [readFirEntry, firEntryBytes, List.append_assoc, readU32_u32Bytes]
    rfl
  have hrow := read_row firEntryBytes_length hshift hread (front ++ u32Bytes 0) []
  rw [List.append_nil, List.append_assoc, ← hpacket, List.length_append, hfront,
    u32Bytes_length] at hrow
  rw [List.length_append, u32Bytes_length, row_length firEntryBytes_length] at hsize
  have hfci : packet.length - 12 = requests.length * 8 := by
    rw [hsize, kRtcpFirEntrySize]
    omega
  have hcount : requests.length * 8 / 8 = requests.length := by omega
  have hpli : kRtcpPayloadFeedbackFir ≠ kRtcpPayloadFeedbackPli := by decide
  have hentries : (List.range requests.length).map (fun i =>
      (⟨readU32 packet (12 + i * 8), packet.getD (12 + i * 8 + 4) 0⟩ : RtcpFirEntry)) =
      requests.map firEntryOf := hrow
  have hmedia' : ((requests.map firEntryOf).map RtcpFirEntry.mediaSsrc).filter (· != 0) =
      requests.map RtcpFirRequest.mediaSsrc := by
    rw [List.map_map]
    apply List.filter_eq_self.mpr
    intro ssrc hssrc
    obtain ⟨request, hrequest, heq⟩ := List.mem_map.mp hssrc
    rw [← heq]
    exact bne_iff_ne.mpr (hmedia request hrequest)
  rw [parseRtcpFeedbackPacket_written hwritten, parsePayloadFeedback, if_neg hpli, if_pos rfl,
    parseFir, hfci, ensure_pass (by omega)]
  simp only [hcount, hentries, hmedia', firPacketOf]

theorem parseByeSsrcs_written {payloadEnd : ℕ} {ssrcs : List UInt32} {front tail : List UInt8}
    (hfit : front.length + ssrcs.length * 4 ≤ payloadEnd) :
    parseByeSsrcs (front ++ (ssrcs.flatMap u32Bytes ++ tail)) payloadEnd ssrcs.length
      front.length = .ok (ssrcs, front.length + ssrcs.length * 4) := by
  induction ssrcs generalizing front with
  | nil => simp [parseByeSsrcs]
  | cons ssrc ssrcs ih =>
      rw [List.length_cons, Nat.succ_mul] at hfit
      have hread : readU32 (front ++ ((ssrc :: ssrcs).flatMap u32Bytes ++ tail)) front.length =
          ssrc := by
        rw [← Nat.add_zero front.length, readU32_append_right, List.flatMap_cons,
          List.append_assoc, readU32_u32Bytes]
      have htail : parseByeSsrcs (front ++ ((ssrc :: ssrcs).flatMap u32Bytes ++ tail)) payloadEnd
          ssrcs.length (front.length + 4) = .ok (ssrcs, front.length + 4 + ssrcs.length * 4) := by
        have hnext := @ih (front ++ u32Bytes ssrc) (by
          rw [List.length_append, u32Bytes_length]
          omega)
        rw [List.length_append, u32Bytes_length, List.append_assoc, ← List.append_assoc (u32Bytes _)]
          at hnext
        exact hnext
      rw [List.length_cons, parseByeSsrcs, ensure_pass (by rw [kRtcpSsrcSize]; omega),
        kRtcpSsrcSize, htail, ok_bind, hread, Nat.succ_mul, Nat.add_right_comm]
      rfl

/-- The reason and the padding behind the sources. -/
def byeTail (ssrcs : List UInt32) (reason : Text) : List UInt8 :=
  let unalignedSize := 4 + ssrcs.length * 4 + (reasonBytes reason).length
  reasonBytes reason ++ List.replicate (alignedSize unalignedSize - unalignedSize) 0

theorem buildRtcpBye_written {ssrcs : List UInt32} {reason : Text} {packet : List UInt8}
    (h : buildRtcpBye ssrcs reason = .ok packet) :
    ssrcs.length ≤ 31 ∧ reason.length ≤ 255 ∧
      (∃ front, front.length = 4 ∧
        packet = front ++ (ssrcs.flatMap u32Bytes ++ byeTail ssrcs reason)) ∧
      WrittenPacket (UInt8.ofNat ssrcs.length) kRtcpPacketTypeBye (ssrcs.headD 0)
        (ssrcs.tail.flatMap u32Bytes ++ byeTail ssrcs reason) packet := by
  obtain ⟨hne, h⟩ := ensure_bind_ok.mp h
  obtain ⟨hcount, h⟩ := ensure_bind_ok.mp h
  obtain ⟨hreason, h⟩ := ensure_bind_ok.mp h
  obtain ⟨_, h⟩ := ensure_bind_ok.mp h
  obtain ⟨head, hhead, h⟩ := bind_ok.mp h
  apply And.intro hcount
  apply And.intro hreason
  have hpacket : head ++ (ssrcs.flatMap u32Bytes ++ byeTail ssrcs reason) = packet :=
    Except.ok.inj h
  apply And.intro
  · refine ⟨head, ?_, hpacket.symm⟩
    rw [(writeCommonHeader_ok.mp hhead).2.2.2.2]
    rfl
  · rw [← hpacket]
    cases ssrcs with
    | nil => exact absurd rfl hne
    | cons ssrc ssrcs =>
        rw [List.flatMap_cons, List.append_assoc]
        apply writtenPacket_of_head hhead (by decide)
        have hrow : (ssrcs.flatMap u32Bytes).length = ssrcs.length * 4 :=
          row_length u32Bytes_length ssrcs
        simp only [byeTail, List.tail_cons, List.length_append, hrow, List.length_replicate,
          List.length_cons, alignedSize, kRtcpCommonHeaderSize]
        omega

theorem parseRtcpByePacket_written {ssrcs : List UInt32} {reason : Text} {packet : List UInt8}
    (h : buildRtcpBye ssrcs reason = .ok packet) :
    parseRtcpByePacket packet = .ok ⟨ssrcs, reason⟩ := by
  obtain ⟨hcount, hreason, hfront, hwritten⟩ := buildRtcpBye_written h
  obtain ⟨front, hfour, hpacket⟩ := hfront
  have hrow : (ssrcs.flatMap u32Bytes).length = ssrcs.length * 4 := row_length u32Bytes_length ssrcs
  have hsize : packet.length = 4 + ssrcs.length * 4 + (byeTail ssrcs reason).length := by
    rw [hpacket, List.length_append, List.length_append, hrow, hfour]
    omega
  have hssrcs := @parseByeSsrcs_written packet.length ssrcs front (byeTail ssrcs reason) (by omega)
  rw [hfour, ← hpacket] at hssrcs
  have hread := hwritten.header_read
  generalize headerOf _ _ _ _ = header at hread
  rw [parseRtcpByePacket, hread.parsed, ok_bind, ensure_pass hread.packetType, hread.payloadEnd,
    ok_bind, hread.count, count_toNat hcount, kRtcpCommonHeaderSize, hssrcs, ok_bind]
  dsimp only
  cases reason with
  | nil =>
      have hnone : (byeTail ssrcs []).length = 0 := by
        simp only [byeTail, reasonBytes, if_true, List.length_append, List.length_nil,
          List.length_replicate, alignedSize]
        omega
      rw [if_pos (by omega)]
  | cons b bs =>
      set reason := b :: bs with hcons
      set before := front ++ ssrcs.flatMap u32Bytes with hbefore
      set size := alignedSize (4 + ssrcs.length * 4 + (reason.length + 1)) -
        (4 + ssrcs.length * 4 + (reason.length + 1))
      have htail : byeTail ssrcs reason =
          UInt8.ofNat reason.length :: (reason ++ List.replicate size 0) := by
        rw [byeTail, reasonBytes, if_neg (List.cons_ne_nil b bs)]
        rfl
      have hoffset : before.length = 4 + ssrcs.length * 4 := by
        rw [hbefore, List.length_append, hrow, hfour]
      have hsplit : packet = before ++ (UInt8.ofNat reason.length ::
          (reason ++ List.replicate size 0)) := by
        rw [hpacket, htail, hbefore, List.append_assoc]
      have hlong : packet.length = 4 + ssrcs.length * 4 + 1 + reason.length + size := by
        rw [hsplit]
        simp only [List.length_append, List.length_cons, List.length_replicate, hoffset]
        omega
      have hbyte : byteAt packet (4 + ssrcs.length * 4) = reason.length := by
        rw [hsplit, ← hoffset, byteAt, ← Nat.add_zero before.length, getD_append_right,
          List.getD_cons_zero, UInt8.toNat_ofNat']
        omega
      have hsplit' : packet = (before ++ [UInt8.ofNat reason.length]) ++
          (reason ++ List.replicate size 0) := by
        rw [hsplit, List.append_assoc before [_]]
        rfl
      have hfront' : (before ++ [UInt8.ofNat reason.length]).length = 4 + ssrcs.length * 4 + 1 := by
        rw [List.length_append, hoffset]
        rfl
      have hvalue : (packet.drop (4 + ssrcs.length * 4 + 1)).take reason.length = reason := by
        rw [hsplit', List.drop_left' hfront', List.take_left]
      have hzero := trailingBytesAreZero_replicate
        (before ++ [UInt8.ofNat reason.length] ++ reason) size
      rw [List.append_assoc _ reason, ← hsplit', List.length_append, hfront'] at hzero
      rw [if_neg (by omega), hbyte, ensure_pass (by omega), ensure_pass hzero, hvalue]

end SimpleWebrtc.RtcpRoundTrip
