import SimpleWebrtc.RtcpFeedback

/-!
# RTCP compound packets

A datagram is a row of blocks, each as long as its header declares. The parser
reads one block after the other, and collects what the blocks carry in the
order in which they stand.
-/
namespace SimpleWebrtc.RtcpCompoundPacket
open Library Library.Bytes RtcpReport RtcpFeedback

def kRtcpPacketTypeSdes : UInt8 := 202
def kRtcpPacketTypeBye : UInt8 := 203
def kRtcpSdesItemEnd : UInt8 := 0
def kRtcpSdesItemCname : UInt8 := 1
def kRtcpSsrcSize : ℕ := 4

structure RtcpSdesItem where
  type : UInt8
  value : Text
deriving Repr, DecidableEq

structure RtcpSdesChunk where
  ssrc : UInt32
  cname : Text := []
  items : List RtcpSdesItem := []
deriving Repr, DecidableEq

structure RtcpByePacket where
  ssrcs : List UInt32
  reason : Text := []
deriving Repr, DecidableEq

structure RtcpCompoundBlock where
  count : UInt8 := 0
  packetType : UInt8 := 0
  length : UInt16 := 0
  hasSsrc : Bool := false
  ssrc : UInt32 := 0
  packetTypeName : String := ""
  isFeedback : Bool := false
  isReport : Bool := false
  isSdes : Bool := false
  isBye : Bool := false
  isUnknown : Bool := false
  feedbackName : String := ""
  feedbackSenderSsrc : UInt32 := 0
  feedbackMediaSsrc : UInt32 := 0
  nackCount : ℕ := 0
  firCount : ℕ := 0
  hasGenericNack : Bool := false
  hasKeyframeRequest : Bool := false
  transportFeedback : Option TransportFeedbackCodec.ParsedRtcpTransportFeedback := none
  nackEntries : List RtcpNackEntry := []
  nackSequenceNumbers : List UInt16 := []
  keyframeRequestMediaSsrcs : List UInt32 := []
  firEntries : List RtcpFirEntry := []
  hasRemb : Bool := false
  rembBitrateBps : ℕ := 0

structure RtcpCompoundPacket where
  blocks : List RtcpCompoundBlock := []
  feedbackBlockCount : ℕ := 0
  pliCount : ℕ := 0
  firBlockCount : ℕ := 0
  nackCount : ℕ := 0
  firCount : ℕ := 0
  genericNackBlockCount : ℕ := 0
  transportCcBlockCount : ℕ := 0
  rembBlockCount : ℕ := 0
  otherFeedbackBlockCount : ℕ := 0
  hasFeedback : Bool := false
  hasGenericNack : Bool := false
  hasKeyframeRequest : Bool := false
  nackEntries : List RtcpNackEntry := []
  nackSequenceNumbers : List UInt16 := []
  keyframeRequestMediaSsrcs : List UInt32 := []
  firEntries : List RtcpFirEntry := []
  hasRemb : Bool := false
  rembBitrateBps : ℕ := 0
  reportPacketCount : ℕ := 0
  senderReportCount : ℕ := 0
  receiverReportCount : ℕ := 0
  reportBlockCount : ℕ := 0
  reportPackets : List RtcpReportPacket := []
  sdesPacketCount : ℕ := 0
  sdesChunks : List RtcpSdesChunk := []
  byePackets : List RtcpByePacket := []
  hasBye : Bool := false
  unknownBlockCount : ℕ := 0

def trailingBytesAreZero (data : List UInt8) (offset stop : ℕ) : Bool :=
  decide (offset ≤ stop) && decide (stop ≤ data.length) &&
    ((data.drop offset).take (stop - offset)).all (· == 0)

def fillFeedbackBlock (feedback : RtcpFeedbackPacket) (block : RtcpCompoundBlock) :
    RtcpCompoundBlock :=
  { block with
    isFeedback := true
    feedbackName := if feedback.rembBitrateBps.isSome then "remb"
      else rtcpFeedbackFormatToString feedback.packetType feedback.format
    feedbackSenderSsrc := feedback.senderSsrc
    feedbackMediaSsrc := feedback.mediaSsrc
    nackCount := feedback.nackCount
    firCount := feedback.firCount
    hasGenericNack := feedback.hasGenericNack
    hasKeyframeRequest := feedback.hasKeyframeRequest
    transportFeedback := feedback.transportFeedback
    nackEntries := feedback.nackEntries
    nackSequenceNumbers := feedback.nackSequenceNumbers
    keyframeRequestMediaSsrcs := feedback.keyframeRequestMediaSsrcs
    firEntries := feedback.firEntries
    hasRemb := feedback.rembBitrateBps.isSome
    rembBitrateBps := feedback.rembBitrateBps.getD 0 }

def feedbackIsClassified (block : RtcpCompoundBlock) : Bool :=
  block.feedbackName == "pli" || block.feedbackName == "fir" || block.hasGenericNack ||
    block.transportFeedback.isSome || block.hasRemb

/-- A media source several blocks ask for is listed once. -/
def addKeyframeRequests (known requested : List UInt32) : List UInt32 :=
  requested.foldl (fun known ssrc => if ssrc ∈ known then known else known ++ [ssrc]) known

def aggregateFeedbackBlock (block : RtcpCompoundBlock) (packet : RtcpCompoundPacket) :
    RtcpCompoundPacket :=
  if block.isFeedback = false then packet
  else
    { packet with
      hasFeedback := true
      feedbackBlockCount := packet.feedbackBlockCount + 1
      pliCount := packet.pliCount + if block.feedbackName = "pli" then 1 else 0
      firBlockCount := packet.firBlockCount +
        if block.feedbackName ≠ "pli" ∧ block.feedbackName = "fir" then 1 else 0
      nackCount := packet.nackCount + block.nackCount
      firCount := packet.firCount + block.firCount
      genericNackBlockCount := packet.genericNackBlockCount + if block.hasGenericNack then 1 else 0
      transportCcBlockCount :=
        packet.transportCcBlockCount + if block.transportFeedback.isSome then 1 else 0
      rembBlockCount := packet.rembBlockCount + if block.hasRemb then 1 else 0
      otherFeedbackBlockCount :=
        packet.otherFeedbackBlockCount + if feedbackIsClassified block then 0 else 1
      hasGenericNack := packet.hasGenericNack || block.hasGenericNack
      hasKeyframeRequest := packet.hasKeyframeRequest || block.hasKeyframeRequest
      nackEntries := packet.nackEntries ++ block.nackEntries
      nackSequenceNumbers := packet.nackSequenceNumbers ++ block.nackSequenceNumbers
      keyframeRequestMediaSsrcs :=
        addKeyframeRequests packet.keyframeRequestMediaSsrcs block.keyframeRequestMediaSsrcs
      firEntries := packet.firEntries ++ block.firEntries
      hasRemb := packet.hasRemb || block.hasRemb
      rembBitrateBps := max packet.rembBitrateBps block.rembBitrateBps }

def aggregateReportPacket (report : RtcpReportPacket) (packet : RtcpCompoundPacket) :
    RtcpCompoundPacket :=
  { packet with
    reportPacketCount := packet.reportPacketCount + 1
    senderReportCount := packet.senderReportCount + if report.senderInfo.isSome then 1 else 0
    receiverReportCount := packet.receiverReportCount + if report.senderInfo.isSome then 0 else 1
    reportBlockCount := packet.reportBlockCount + report.reportBlocks.length
    reportPackets := packet.reportPackets ++ [report] }

def makeBlockFromHeader (header : RtcpPacketHeader) : RtcpCompoundBlock where
  count := header.count
  packetType := header.packetType
  length := header.length
  hasSsrc := header.hasSsrc
  ssrc := header.ssrc
  packetTypeName := rtcpPacketTypeToString header.packetType

/-- The items of one chunk up to its end item, and where the next chunk starts. -/
def parseSdesItems (data : List UInt8) (payloadEnd offset : ℕ) (chunk : RtcpSdesChunk) :
    Except String (RtcpSdesChunk × ℕ) :=
  if payloadEnd ≤ offset then .error "rtcp sdes chunk end item is missing"
  else if data.getD offset 0 = kRtcpSdesItemEnd then
    let alignedOffset := (offset + 1 + 3) / 4 * 4
    if alignedOffset > payloadEnd then .error "rtcp sdes chunk padding is truncated"
    else if trailingBytesAreZero data (offset + 1) alignedOffset = false then
      .error "rtcp sdes chunk padding is not zero"
    else .ok (chunk, alignedOffset)
  else if payloadEnd ≤ offset + 1 then .error "rtcp sdes item length is truncated"
  else
    let itemType := data.getD offset 0
    let itemSize := byteAt data (offset + 1)
    if offset + 2 + itemSize > payloadEnd then .error "rtcp sdes item value is truncated"
    else
      let value := (data.drop (offset + 2)).take itemSize
      parseSdesItems data payloadEnd (offset + 2 + itemSize)
        { chunk with
          cname := if itemType = kRtcpSdesItemCname ∧ chunk.cname = [] then value else chunk.cname
          items := chunk.items ++ [⟨itemType, value⟩] }
termination_by payloadEnd - offset

def parseSdesChunks (data : List UInt8) (payloadEnd : ℕ) :
    ℕ → ℕ → Except String (List RtcpSdesChunk × ℕ)
  | 0, offset => .ok ([], offset)
  | remaining + 1, offset => do
      ensure (offset + kRtcpSsrcSize ≤ payloadEnd) "rtcp sdes chunk ssrc is truncated"
      let (chunk, next) ← parseSdesItems data payloadEnd (offset + kRtcpSsrcSize)
        { ssrc := readU32 data offset }
      let (chunks, stop) ← parseSdesChunks data payloadEnd remaining next
      .ok (chunk :: chunks, stop)

def parseRtcpSdesPacket (data : List UInt8) : Except String (List RtcpSdesChunk) := do
  let header ← parseRtcpPacketHeader data
  ensure (header.packetType = kRtcpPacketTypeSdes) "rtcp packet is not sdes"
  let payloadEnd ← rtcpPayloadEnd header data "sdes"
  let (chunks, stop) ← parseSdesChunks data payloadEnd header.count.toNat kRtcpCommonHeaderSize
  ensure (stop = payloadEnd) "rtcp sdes packet has trailing payload bytes"
  .ok chunks

def parseByeSsrcs (data : List UInt8) (payloadEnd : ℕ) :
    ℕ → ℕ → Except String (List UInt32 × ℕ)
  | 0, offset => .ok ([], offset)
  | remaining + 1, offset => do
      ensure (offset + kRtcpSsrcSize ≤ payloadEnd) "rtcp bye ssrc list is truncated"
      let (ssrcs, stop) ← parseByeSsrcs data payloadEnd remaining (offset + kRtcpSsrcSize)
      .ok (readU32 data offset :: ssrcs, stop)

def parseRtcpByePacket (data : List UInt8) : Except String RtcpByePacket := do
  let header ← parseRtcpPacketHeader data
  ensure (header.packetType = kRtcpPacketTypeBye) "rtcp packet is not bye"
  let payloadEnd ← rtcpPayloadEnd header data "bye"
  let (ssrcs, offset) ← parseByeSsrcs data payloadEnd header.count.toNat kRtcpCommonHeaderSize
  if offset = payloadEnd then .ok { ssrcs }
  else do
    let reasonSize := byteAt data offset
    ensure (offset + 1 + reasonSize ≤ payloadEnd) "rtcp bye reason is truncated"
    ensure (trailingBytesAreZero data (offset + 1 + reasonSize) payloadEnd = true)
      "rtcp bye reason padding is not zero"
    .ok { ssrcs, reason := (data.drop (offset + 1)).take reasonSize }

/-- A failure inside a block, told with the kind of the block. -/
def inBlock {A : Type} (kind : String) : Except String A → Except String A
  | .error e => .error ("rtcp compound " ++ kind ++ " parse failed: " ++ e)
  | .ok a => .ok a

/-- One block, as its type tells, collected into the packet. -/
def parseCompoundBlock (header : RtcpPacketHeader) (blockData : List UInt8)
    (packet : RtcpCompoundPacket) : Except String RtcpCompoundPacket :=
  let block := makeBlockFromHeader header
  if isRtcpFeedbackPacket blockData then do
    let feedback ← inBlock "feedback" (parseRtcpFeedbackPacket blockData)
    let block := fillFeedbackBlock feedback block
    let packet := aggregateFeedbackBlock block packet
    .ok { packet with blocks := packet.blocks ++ [block] }
  else if isRtcpReportPacket blockData then do
    let report ← inBlock "report" (parseRtcpReportPacket blockData)
    let packet := aggregateReportPacket report packet
    .ok { packet with blocks := packet.blocks ++ [{ block with isReport := true }] }
  else if header.packetType = kRtcpPacketTypeSdes then do
    let chunks ← inBlock "sdes" (parseRtcpSdesPacket blockData)
    .ok
      { packet with
        sdesPacketCount := packet.sdesPacketCount + 1
        sdesChunks := packet.sdesChunks ++ chunks
        blocks := packet.blocks ++ [{ block with isSdes := true }] }
  else if header.packetType = kRtcpPacketTypeBye then do
    let bye ← inBlock "bye" (parseRtcpByePacket blockData)
    .ok
      { packet with
        hasBye := true
        byePackets := packet.byePackets ++ [bye]
        blocks := packet.blocks ++ [{ block with isBye := true }] }
  else
    .ok
      { packet with
        unknownBlockCount := packet.unknownBlockCount + 1
        blocks := packet.blocks ++ [{ block with isUnknown := true }] }

/-- The blocks of what is left of the datagram. -/
def parseCompoundBlocks (remaining : List UInt8) (packet : RtcpCompoundPacket) :
    Except String RtcpCompoundPacket :=
  if remaining = [] then .ok packet
  else if remaining.length < kRtcpCommonHeaderSize then
    .error "rtcp compound trailing bytes are invalid"
  else
    match inBlock "block" (parseRtcpPacketHeader remaining) with
    | .error e => .error e
    | .ok header =>
        if header.packetSize = 0 then .error "rtcp compound block size is zero"
        else if header.packetSize > remaining.length then
          .error "rtcp compound block exceeds remaining size"
        else if header.padding = true ∧ header.packetSize ≠ remaining.length then
          .error "rtcp compound padding is only allowed on the last block"
        else
          match parseCompoundBlock header (remaining.take header.packetSize) packet with
          | .error e => .error e
          | .ok packet => parseCompoundBlocks (remaining.drop header.packetSize) packet
termination_by remaining.length
decreasing_by
  simp only [List.length_drop]
  omega

def parseRtcpCompoundPacket (data : List UInt8) : Except String RtcpCompoundPacket :=
  if data = [] then .error "rtcp compound packet is empty"
  else
    match parseCompoundBlocks data {} with
    | .error e => .error e
    | .ok packet =>
        if packet.blocks.isEmpty then .error "rtcp compound packet has no blocks" else .ok packet

end SimpleWebrtc.RtcpCompoundPacket
