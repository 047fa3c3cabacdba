import SimpleWebrtc.RtcpCompoundPacket

/-!
# Building RTCP packets

Every builder checks its input, lays out a packet of whole words, and declares
its length in the common header. The three datagram builders only put finished
packets one after the other.
-/
namespace SimpleWebrtc.RtcpPacketBuilder
open Library Library.Bytes RtcpReport RtcpFeedback RtcpCompoundPacket

def kRtcpVersion : ℕ := 2
def kRtcpFirEntrySize : ℕ := 8
def kRtcpMaxCount : ℕ := 31
def kRtcpMinCumulativeLost : ℤ := -8388608
def kRtcpMaxCumulativeLost : ℤ := 8388607

structure RtcpSenderReportData where
  senderSsrc : UInt32 := 0
  ntpTimestamp : UInt64 := 0
  rtpTimestamp : UInt32 := 0
  senderPacketCount : UInt32 := 0
  senderOctetCount : UInt32 := 0
  reportBlocks : List RtcpReportBlock := []
deriving Repr, DecidableEq

structure RtcpReceiverReportData where
  senderSsrc : UInt32 := 0
  reportBlocks : List RtcpReportBlock := []
deriving Repr, DecidableEq

structure RtcpFirRequest where
  mediaSsrc : UInt32 := 0
  sequenceNumber : UInt8 := 0
deriving Repr, DecidableEq

/-- The first four bytes of a packet of the given size. -/
def writeCommonHeader (packetSize : ℕ) (count packetType : UInt8) : Except String (List UInt8) := do
  ensure (kRtcpCommonHeaderSize ≤ packetSize ∧ packetSize % 4 = 0) "rtcp packet size is invalid"
  ensure (count.toNat ≤ kRtcpMaxCount) "rtcp packet count exceeds five-bit field"
  let lengthWords := packetSize / 4 - 1
  ensure (lengthWords ≤ 65535) "rtcp packet length exceeds sixteen-bit field"
  .ok (UInt8.ofNat (kRtcpVersion * 64 + count.toNat) :: packetType ::
    u16Bytes (UInt16.ofNat lengthWords))

/-- The low twenty-four bits of a signed value. -/
def i24Word (value : ℤ) : UInt32 := UInt32.ofNat (value % 16777216).toNat

/-- A report block takes part in a packet of the given size at an offset. -/
def writeReportBlocks (packetSize : ℕ) : ℕ → List RtcpReportBlock → Except String (List UInt8)
  | _, [] => .ok []
  | offset, block :: blocks => do
      ensure (kRtcpMinCumulativeLost ≤ block.cumulativeLost ∧
        block.cumulativeLost ≤ kRtcpMaxCumulativeLost)
        "rtcp cumulative lost exceeds signed 24-bit field"
      ensure (offset + kRtcpReportBlockSize ≤ packetSize) "rtcp report block output is truncated"
      let rest ← writeReportBlocks packetSize (offset + kRtcpReportBlockSize) blocks
      .ok (u32Bytes block.sourceSsrc ++ (block.fractionLost ::
        (u24Bytes (i24Word block.cumulativeLost) ++
          (u32Bytes block.extendedHighestSequenceNumber ++ (u32Bytes block.jitter ++
            (u32Bytes block.lastSenderReport ++
              (u32Bytes block.delaySinceLastSenderReport ++ rest)))))))

def validateReport (reportCount : ℕ) (senderSsrc : UInt32) : Except String UInt8 := do
  ensure (senderSsrc ≠ 0) "rtcp report sender ssrc is zero"
  ensure (reportCount ≤ kRtcpMaxCount) "rtcp report block count exceeds five-bit field"
  .ok (UInt8.ofNat reportCount)

/-- The type of a finished packet whose declared length is its own. -/
def validateRtcpPacket (packet : List UInt8) : Except String UInt8 := do
  ensure (kRtcpCommonHeaderSize ≤ packet.length ∧ packet.length % 4 = 0)
    "rtcp compound member size is invalid"
  ensure (byteAt packet 0 / 64 = kRtcpVersion) "rtcp compound member version is invalid"
  ensure (((readU16 packet 2).toNat + 1) * 4 = packet.length)
    "rtcp compound member length does not match buffer"
  .ok (packet.getD 1 0)

def buildRtcpSenderReport (report : RtcpSenderReportData) : Except String (List UInt8) := do
  let reportCount ← validateReport report.reportBlocks.length report.senderSsrc
  let packetSize := kRtcpCommonHeaderSize + 4 + kRtcpSenderInfoSize +
    report.reportBlocks.length * kRtcpReportBlockSize
  let header ← writeCommonHeader packetSize reportCount kRtcpPacketTypeSenderReport
  let blocks ← writeReportBlocks packetSize 28 report.reportBlocks
  .ok (header ++ (u32Bytes report.senderSsrc ++
    (u32Bytes (UInt32.ofNat (report.ntpTimestamp.toNat / 4294967296)) ++
      (u32Bytes (UInt32.ofNat report.ntpTimestamp.toNat) ++ (u32Bytes report.rtpTimestamp ++
        (u32Bytes report.senderPacketCount ++ (u32Bytes report.senderOctetCount ++ blocks)))))))

def buildRtcpReceiverReport (report : RtcpReceiverReportData) : Except String (List UInt8) := do
  let reportCount ← validateReport report.reportBlocks.length report.senderSsrc
  let packetSize := kRtcpCommonHeaderSize + 4 + report.reportBlocks.length * kRtcpReportBlockSize
  let header ← writeCommonHeader packetSize reportCount kRtcpPacketTypeReceiverReport
  let blocks ← writeReportBlocks packetSize 8 report.reportBlocks
  .ok (header ++ (u32Bytes report.senderSsrc ++ blocks))

/-- The next multiple of a word. -/
def alignedSize (size : ℕ) : ℕ := (size + 3) / 4 * 4

/-- The zero terminator of the chunk is the first byte of its padding. -/
def buildRtcpSdesCname (ssrc : UInt32) (cname : Text) : Except String (List UInt8) := do
  ensure (ssrc ≠ 0) "rtcp sdes ssrc is zero"
  ensure (cname ≠ []) "rtcp sdes cname is empty"
  ensure (cname.length ≤ 255) "rtcp sdes cname exceeds eight-bit length field"
  let unalignedSize := kRtcpCommonHeaderSize + 4 + 2 + cname.length + 1
  let packetSize := alignedSize unalignedSize
  let header ← writeCommonHeader packetSize 1 kRtcpPacketTypeSdes
  .ok (header ++ (u32Bytes ssrc ++ (kRtcpSdesItemCname :: UInt8.ofNat cname.length ::
    (cname ++ (0 :: List.replicate (packetSize - unalignedSize) 0)))))

def buildRtcpPictureLossIndication (senderSsrc mediaSsrc : UInt32) :
    Except String (List UInt8) := do
  ensure (senderSsrc ≠ 0) "rtcp pli sender ssrc is zero"
  ensure (mediaSsrc ≠ 0) "rtcp pli media ssrc is zero"
  let header ← writeCommonHeader kRtcpFeedbackHeaderSize kRtcpPayloadFeedbackPli
    kRtcpPacketTypePayloadFeedback
  .ok (header ++ (u32Bytes senderSsrc ++ u32Bytes mediaSsrc))

def writeFirEntries : List RtcpFirRequest → Except String (List UInt8)
  | [] => .ok []
  | request :: requests => do
      ensure (request.mediaSsrc ≠ 0) "rtcp fir media ssrc is zero"
      let rest ← writeFirEntries requests
      .ok (u32Bytes request.mediaSsrc ++ (request.sequenceNumber :: 0 :: 0 :: 0 :: rest))

def buildRtcpFullIntraRequest (senderSsrc : UInt32) (requests : List RtcpFirRequest) :
    Except String (List UInt8) := do
  ensure (senderSsrc ≠ 0) "rtcp fir sender ssrc is zero"
  ensure (requests ≠ []) "rtcp fir request list is empty"
  ensure (requests.length ≤ (18446744073709551615 - kRtcpFeedbackHeaderSize) / kRtcpFirEntrySize)
    "rtcp fir request list is too large"
  let header ← writeCommonHeader (kRtcpFeedbackHeaderSize + requests.length * kRtcpFirEntrySize)
    kRtcpPayloadFeedbackFir kRtcpPacketTypePayloadFeedback
  let entries ← writeFirEntries requests
  .ok (header ++ (u32Bytes senderSsrc ++ (u32Bytes 0 ++ entries)))

/-- The length byte and the bytes of a reason; no reason takes no bytes. -/
def reasonBytes (reason : Text) : List UInt8 :=
  if reason = [] then [] else UInt8.ofNat reason.length :: reason

def buildRtcpBye (ssrcs : List UInt32) (reason : Text) : Except String (List UInt8) := do
  ensure (ssrcs ≠ []) "rtcp bye ssrc list is empty"
  ensure (ssrcs.length ≤ kRtcpMaxCount) "rtcp bye ssrc count exceeds five-bit field"
  ensure (reason.length ≤ 255) "rtcp bye reason exceeds eight-bit length field"
  ensure (ssrcs.all (· != 0) = true) "rtcp bye ssrc is zero"
  let unalignedSize := kRtcpCommonHeaderSize + ssrcs.length * 4 + (reasonBytes reason).length
  let packetSize := alignedSize unalignedSize
  let header ← writeCommonHeader packetSize (UInt8.ofNat ssrcs.length) kRtcpPacketTypeBye
  .ok (header ++ (ssrcs.flatMap u32Bytes ++ (reasonBytes reason ++
    List.replicate (packetSize - unalignedSize) 0)))

/-- The checks of the members from an index on: the size they add up to and whether an SDES
packet is among them. -/
def checkMembers (memberCount maximumSize : ℕ) :
    ℕ → ℕ → Bool → List (List UInt8) → Except String (ℕ × Bool)
  | _, totalSize, hasSdes, [] => .ok (totalSize, hasSdes)
  | index, totalSize, hasSdes, packet :: packets => do
      let packetType ← validateRtcpPacket packet
      ensure (index = 0 → packetType = kRtcpPacketTypeSenderReport ∨
        packetType = kRtcpPacketTypeReceiverReport)
        "rtcp compound packet must begin with sender or receiver report"
      ensure ((byteAt packet 0).testBit 5 = true → index + 1 = memberCount)
        "rtcp compound padding is only allowed on final member"
      ensure (totalSize ≤ maximumSize ∧ packet.length ≤ maximumSize - totalSize)
        "rtcp compound packet exceeds maximum size"
      checkMembers memberCount maximumSize (index + 1) (totalSize + packet.length)
        (hasSdes || packetType == kRtcpPacketTypeSdes) packets

def buildRtcpCompoundPacket (packets : List (List UInt8)) (maximumSize : ℕ) :
    Except String (List UInt8) := do
  ensure (packets ≠ []) "rtcp compound packet list is empty"
  ensure (kRtcpCommonHeaderSize ≤ maximumSize) "rtcp compound maximum size is too small"
  let (_, hasSdes) ← checkMembers packets.length maximumSize 0 0 false packets
  ensure (hasSdes = true) "rtcp compound packet is missing sdes"
  .ok packets.flatten

def buildRtcpFeedbackDatagram (feedbackPacket : List UInt8) (senderSsrc : UInt32) (cname : Text)
    (reducedSize : Bool) (maximumSize : ℕ) : Except String (List UInt8) := do
  ensure (senderSsrc ≠ 0) "rtcp feedback sender ssrc is zero"
  let packetType ← validateRtcpPacket feedbackPacket
  ensure (isFeedbackPacketType packetType = true)
    "rtcp feedback datagram member is not a feedback packet"
  ensure (kRtcpFeedbackHeaderSize ≤ feedbackPacket.length ∧
    readU32 feedbackPacket 4 = senderSsrc)
    "rtcp feedback sender ssrc does not match datagram sender"
  if reducedSize then do
    ensure (feedbackPacket.length ≤ maximumSize) "rtcp reduced-size feedback exceeds maximum size"
    .ok feedbackPacket
  else do
    let receiverReport ← buildRtcpReceiverReport { senderSsrc }
    let sdes ← buildRtcpSdesCname senderSsrc cname
    buildRtcpCompoundPacket [receiverReport, sdes, feedbackPacket] maximumSize

def buildRtcpByeDatagram (reportPacket : List UInt8) (participantSsrc : UInt32) (cname : Text)
    (byeSsrcs : List UInt32) (reason : Text) (maximumSize : ℕ) :
    Except String (List UInt8) := do
  ensure (participantSsrc ≠ 0) "rtcp bye participant ssrc is zero"
  ensure (cname ≠ []) "rtcp bye cname is empty"
  let packetType ← validateRtcpPacket reportPacket
  ensure (isReportPacketType packetType = true ∧ 8 ≤ reportPacket.length ∧
    readU32 reportPacket 4 = participantSsrc)
    "rtcp bye report sender does not match participant"
  let sdes ← buildRtcpSdesCname participantSsrc cname
  let bye ← buildRtcpBye byeSsrcs reason
  buildRtcpCompoundPacket [reportPacket, sdes, bye] maximumSize

end SimpleWebrtc.RtcpPacketBuilder
