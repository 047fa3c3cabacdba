import SimpleWebrtc.Library.Fallible
import SimpleWebrtc.RtpPacket

/-!
# RTCP headers and reports

The common header every RTCP block starts with, and the sender and receiver
reports. Sizes are counted in bytes; the length field of the header counts the
words behind the first one.
-/
namespace SimpleWebrtc.RtcpReport
open Library Library.Bytes RtpPacket

def kRtcpPacketTypeSenderReport : UInt8 := 200
def kRtcpPacketTypeReceiverReport : UInt8 := 201
def kRtcpCommonHeaderSize : ℕ := 4
def kRtcpSenderSsrcSize : ℕ := 4
def kRtcpSenderInfoSize : ℕ := 20
def kRtcpReportBlockSize : ℕ := 24

structure RtcpPacketHeader where
  padding : Bool := false
  count : UInt8 := 0
  packetType : UInt8 := 0
  length : UInt16 := 0
  packetSize : ℕ := 0
  hasSsrc : Bool := false
  ssrc : UInt32 := 0
deriving Repr, DecidableEq

/-- The header of the block at the front of the data, which may go on behind it. -/
def parseRtcpPacketHeader (data : List UInt8) : Except String RtcpPacketHeader := do
  ensure (kRtcpCommonHeaderSize ≤ data.length) "rtcp packet is shorter than fixed header"
  ensure (hasRtpVersion data = true) "rtcp version is invalid"
  ensure (isRtcpPacket data = true) "packet is not rtcp"
  let padding := (byteAt data 0).testBit 5
  let length := readU16 data 2
  let packetSize := (length.toNat + 1) * 4
  ensure (packetSize ≤ data.length) "rtcp packet is truncated"
  ensure (padding = true → kRtcpCommonHeaderSize < packetSize)
    "rtcp padding packet is too short"
  let paddingSize := byteAt data (packetSize - 1)
  ensure (padding = true → paddingSize ≠ 0) "rtcp padding size is zero"
  ensure (padding = true → paddingSize ≤ packetSize - kRtcpCommonHeaderSize)
    "rtcp padding exceeds packet size"
  .ok
    { padding
      count := UInt8.ofNat (byteAt data 0 % 32)
      packetType := data.getD 1 0
      length
      packetSize
      hasSsrc := decide (8 ≤ packetSize)
      ssrc := if 8 ≤ packetSize then readU32 data 4 else 0 }

def rtcpPacketTypeToString (packetType : UInt8) : String :=
  if packetType = 192 then "fir"
  else if packetType = 193 then "nack"
  else if packetType = 200 then "sr"
  else if packetType = 201 then "rr"
  else if packetType = 202 then "sdes"
  else if packetType = 203 then "bye"
  else if packetType = 204 then "app"
  else if packetType = 205 then "rtpfb"
  else if packetType = 206 then "psfb"
  else if packetType = 207 then "xr"
  else "unknown"

/-- Where the payload of a block ends once its padding is taken off. -/
def rtcpPayloadEnd (header : RtcpPacketHeader) (data : List UInt8) (packetName : String) :
    Except String ℕ :=
  if data.length < header.packetSize then
    .error ("rtcp " ++ packetName ++ " packet exceeds buffer size")
  else if header.padding = false then .ok header.packetSize
  else if header.packetSize ≤ kRtcpCommonHeaderSize then
    .error ("rtcp " ++ packetName ++ " padding packet is too short")
  else
    let paddingSize := byteAt data (header.packetSize - 1)
    if paddingSize = 0 then .error ("rtcp " ++ packetName ++ " padding size is zero")
    else if paddingSize > header.packetSize - kRtcpCommonHeaderSize then
      .error ("rtcp " ++ packetName ++ " padding exceeds packet size")
    else .ok (header.packetSize - paddingSize)

def rtcpReportPayloadEnd (header : RtcpPacketHeader) (data : List UInt8) : Except String ℕ :=
  rtcpPayloadEnd header data "report"

structure RtcpSenderInfo where
  ntpTimestampMsw : UInt32
  ntpTimestampLsw : UInt32
  rtpTimestamp : UInt32
  senderPacketCount : UInt32
  senderOctetCount : UInt32
deriving Repr, DecidableEq

structure RtcpReportBlock where
  sourceSsrc : UInt32 := 0
  fractionLost : UInt8 := 0
  cumulativeLost : ℤ := 0
  extendedHighestSequenceNumber : UInt32 := 0
  jitter : UInt32 := 0
  lastSenderReport : UInt32 := 0
  delaySinceLastSenderReport : UInt32 := 0
deriving Repr, DecidableEq

structure RtcpReportPacket where
  packetType : UInt8
  senderSsrc : UInt32
  senderInfo : Option RtcpSenderInfo
  reportBlocks : List RtcpReportBlock
deriving Repr, DecidableEq

/-- Three bytes in two's complement. -/
def readI24 (data : List UInt8) (offset : ℕ) : ℤ :=
  let value := (readU24 data offset).toNat
  if value.testBit 23 then (value : ℤ) - 16777216 else value

def isReportPacketType (packetType : UInt8) : Bool :=
  packetType == kRtcpPacketTypeSenderReport || packetType == kRtcpPacketTypeReceiverReport

def parseSenderInfo (data : List UInt8) (offset : ℕ) : RtcpSenderInfo where
  ntpTimestampMsw := readU32 data offset
  ntpTimestampLsw := readU32 data (offset + 4)
  rtpTimestamp := readU32 data (offset + 8)
  senderPacketCount := readU32 data (offset + 12)
  senderOctetCount := readU32 data (offset + 16)

def parseReportBlock (data : List UInt8) (offset : ℕ) : RtcpReportBlock where
  sourceSsrc := readU32 data offset
  fractionLost := data.getD (offset + 4) 0
  cumulativeLost := readI24 data (offset + 5)
  extendedHighestSequenceNumber := readU32 data (offset + 8)
  jitter := readU32 data (offset + 12)
  lastSenderReport := readU32 data (offset + 16)
  delaySinceLastSenderReport := readU32 data (offset + 20)

def isRtcpReportPacket (data : List UInt8) : Bool :=
  match parseRtcpPacketHeader data with
  | .error _ => false
  | .ok header => isReportPacketType header.packetType

def parseRtcpReportPacket (data : List UInt8) : Except String RtcpReportPacket := do
  let header ← parseRtcpPacketHeader data
  ensure (isReportPacketType header.packetType = true) "rtcp packet is not report"
  let payloadEnd ← rtcpReportPayloadEnd header data
  ensure (kRtcpCommonHeaderSize + kRtcpSenderSsrcSize ≤ payloadEnd)
    "rtcp report packet is too short"
  let senderInfoOffset := kRtcpCommonHeaderSize + kRtcpSenderSsrcSize
  let hasSenderInfo := header.packetType == kRtcpPacketTypeSenderReport
  ensure (hasSenderInfo = true → senderInfoOffset + kRtcpSenderInfoSize ≤ payloadEnd)
    "rtcp sender report sender info is truncated"
  let reportBlockOffset :=
    if hasSenderInfo then senderInfoOffset + kRtcpSenderInfoSize else senderInfoOffset
  let reportCount := header.count.toNat
  let reportBlockEnd := reportBlockOffset + reportCount * kRtcpReportBlockSize
  ensure (reportBlockEnd ≤ payloadEnd) "rtcp report block list is truncated"
  ensure (reportBlockEnd = payloadEnd) "rtcp report packet has trailing payload bytes"
  .ok
    { packetType := header.packetType
      senderSsrc := readU32 data kRtcpCommonHeaderSize
      senderInfo := if hasSenderInfo then some (parseSenderInfo data senderInfoOffset) else none
      reportBlocks := (List.range reportCount).map fun i =>
        parseReportBlock data (reportBlockOffset + i * kRtcpReportBlockSize) }

end SimpleWebrtc.RtcpReport
