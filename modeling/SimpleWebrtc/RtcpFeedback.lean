import SimpleWebrtc.RtcpReport
import SimpleWebrtc.TransportFeedbackCodec

/-!
# RTCP feedback packets

Transport feedback (generic NACK and transport-wide congestion control) and
payload feedback (PLI, FIR and REMB). A format without a parser is accepted
with its two source identifiers.
-/
namespace SimpleWebrtc.RtcpFeedback
open Library Library.Bytes RtcpReport TransportFeedbackCodec

def kRtcpPacketTypeTransportFeedback : UInt8 := 205
def kRtcpPacketTypePayloadFeedback : UInt8 := 206

def kRtcpTransportFeedbackGenericNack : UInt8 := 1
def kRtcpTransportFeedbackTmmbr : UInt8 := 3
def kRtcpTransportFeedbackTmmbn : UInt8 := 4
def kRtcpTransportFeedbackTransportCc : UInt8 := 15

def kRtcpPayloadFeedbackPli : UInt8 := 1
def kRtcpPayloadFeedbackSli : UInt8 := 2
def kRtcpPayloadFeedbackRpsi : UInt8 := 3
def kRtcpPayloadFeedbackFir : UInt8 := 4
def kRtcpPayloadFeedbackAfb : UInt8 := 15

def kRtcpFeedbackHeaderSize : ℕ := 12

structure RtcpNackEntry where
  packetId : UInt16
  bitmask : UInt16
deriving Repr, DecidableEq

structure RtcpFirEntry where
  mediaSsrc : UInt32
  sequenceNumber : UInt8
deriving Repr, DecidableEq

structure RtcpFeedbackPacket where
  format : UInt8 := 0
  packetType : UInt8 := 0
  senderSsrc : UInt32 := 0
  mediaSsrc : UInt32 := 0
  nackCount : ℕ := 0
  firCount : ℕ := 0
  hasGenericNack : Bool := false
  hasKeyframeRequest : Bool := false
  transportFeedback : Option ParsedRtcpTransportFeedback := none
  nackEntries : List RtcpNackEntry := []
  nackSequenceNumbers : List UInt16 := []
  keyframeRequestMediaSsrcs : List UInt32 := []
  firEntries : List RtcpFirEntry := []
  rembBitrateBps : Option ℕ := none

/-- Feedback ends like any other block, but not inside its own header. -/
def rtcpFeedbackPayloadEnd (header : RtcpPacketHeader) (data : List UInt8) : Except String ℕ := do
  let payloadEnd ← rtcpPayloadEnd header data "feedback"
  ensure (header.padding = true → kRtcpFeedbackHeaderSize ≤ payloadEnd)
    "rtcp feedback payload is shorter than feedback header"
  .ok payloadEnd

def isFeedbackPacketType (packetType : UInt8) : Bool :=
  packetType == kRtcpPacketTypeTransportFeedback || packetType == kRtcpPacketTypePayloadFeedback

def isRembFci (data : List UInt8) (offset stop : ℕ) : Bool :=
  decide (offset + 4 ≤ stop) && (data.drop offset).take 4 == ascii "REMB"

/-- The packets one NACK entry asks for. -/
def nackSequenceNumbers (entry : RtcpNackEntry) : List UInt16 :=
  entry.packetId :: ((List.range 16).filter entry.bitmask.toNat.testBit).map
    fun bit => entry.packetId + UInt16.ofNat (bit + 1)

def parseGenericNack (data : List UInt8) (offset stop : ℕ) (packet : RtcpFeedbackPacket) :
    Except String RtcpFeedbackPacket := do
  let fciSize := stop - offset
  ensure (fciSize % 4 = 0) "rtcp nack fci size is invalid"
  let entries := (List.range (fciSize / 4)).map fun i =>
    (⟨readU16 data (offset + i * 4), readU16 data (offset + i * 4 + 2)⟩ : RtcpNackEntry)
  .ok
    { packet with
      hasGenericNack := true
      nackCount := fciSize / 4
      nackEntries := entries
      nackSequenceNumbers := entries.flatMap nackSequenceNumbers }

def parsePli (offset stop : ℕ) (packet : RtcpFeedbackPacket) : Except String RtcpFeedbackPacket := do
  ensure (offset = stop) "rtcp pli fci must be empty"
  .ok
    { packet with
      hasKeyframeRequest := true
      keyframeRequestMediaSsrcs := if packet.mediaSsrc ≠ 0 then [packet.mediaSsrc] else [] }

def parseFir (data : List UInt8) (offset stop : ℕ) (packet : RtcpFeedbackPacket) :
    Except String RtcpFeedbackPacket := do
  let fciSize := stop - offset
  ensure (fciSize % 8 = 0) "rtcp fir fci size is invalid"
  let entries := (List.range (fciSize / 8)).map fun i =>
    (⟨readU32 data (offset + i * 8), data.getD (offset + i * 8 + 4) 0⟩ : RtcpFirEntry)
  .ok
    { packet with
      hasKeyframeRequest := true
      firCount := fciSize / 8
      firEntries := entries
      keyframeRequestMediaSsrcs := (entries.map RtcpFirEntry.mediaSsrc).filter (· != 0) }

/-- An application layer block which is no REMB is left alone. -/
def parseRemb (data : List UInt8) (offset stop : ℕ) (packet : RtcpFeedbackPacket) :
    Except String RtcpFeedbackPacket :=
  if isRembFci data offset stop = false then .ok packet
  else do
    ensure (offset + 8 ≤ stop) "rtcp remb fci is truncated"
    let ssrcCount := byteAt data (offset + 4)
    let bitrateExponent := byteAt data (offset + 5) / 4
    let bitrateMantissa := byteAt data (offset + 5) % 4 * 65536 + byteAt data (offset + 6) * 256 +
      byteAt data (offset + 7)
    ensure (offset + 8 + ssrcCount * 4 ≤ stop) "rtcp remb ssrc list is truncated"
    .ok { packet with rembBitrateBps := some ((bitrateMantissa <<< bitrateExponent) % 18446744073709551616) }

def parseTransportFeedback (data : List UInt8) (offset stop : ℕ) (packet : RtcpFeedbackPacket) :
    Except String RtcpFeedbackPacket :=
  if packet.format = kRtcpTransportFeedbackGenericNack then
    parseGenericNack data offset stop packet
  else if packet.format = kRtcpTransportFeedbackTransportCc then do
    let feedback ← parseRtcpTransportFeedback data
    .ok { packet with transportFeedback := some feedback }
  else .ok packet

def parsePayloadFeedback (data : List UInt8) (offset stop : ℕ) (packet : RtcpFeedbackPacket) :
    Except String RtcpFeedbackPacket :=
  if packet.format = kRtcpPayloadFeedbackPli then parsePli offset stop packet
  else if packet.format = kRtcpPayloadFeedbackFir then parseFir data offset stop packet
  else if packet.format = kRtcpPayloadFeedbackAfb then parseRemb data offset stop packet
  else .ok packet

def isRtcpFeedbackPacket (data : List UInt8) : Bool :=
  match parseRtcpPacketHeader data with
  | .error _ => false
  | .ok header => isFeedbackPacketType header.packetType

def parseRtcpFeedbackPacket (data : List UInt8) : Except String RtcpFeedbackPacket := do
  let header ← parseRtcpPacketHeader data
  ensure (isFeedbackPacketType header.packetType = true) "rtcp packet is not feedback"
  ensure (kRtcpFeedbackHeaderSize ≤ header.packetSize)
    "rtcp feedback packet is shorter than feedback header"
  let payloadEnd ← rtcpFeedbackPayloadEnd header data
  let packet : RtcpFeedbackPacket :=
    { format := header.count
      packetType := header.packetType
      senderSsrc := readU32 data 4
      mediaSsrc := readU32 data 8 }
  if header.packetType = kRtcpPacketTypeTransportFeedback then
    parseTransportFeedback data kRtcpFeedbackHeaderSize payloadEnd packet
  else parsePayloadFeedback data kRtcpFeedbackHeaderSize payloadEnd packet

def rtcpFeedbackFormatToString (packetType format : UInt8) : String :=
  if packetType = kRtcpPacketTypeTransportFeedback then
    if format = kRtcpTransportFeedbackGenericNack then "generic_nack"
    else if format = kRtcpTransportFeedbackTmmbr then "tmmbr"
    else if format = kRtcpTransportFeedbackTmmbn then "tmmbn"
    else if format = kRtcpTransportFeedbackTransportCc then "transport_cc"
    else "transport_feedback_unknown"
  else if packetType = kRtcpPacketTypePayloadFeedback then
    if format = kRtcpPayloadFeedbackPli then "pli"
    else if format = kRtcpPayloadFeedbackSli then "sli"
    else if format = kRtcpPayloadFeedbackRpsi then "rpsi"
    else if format = kRtcpPayloadFeedbackFir then "fir"
    else if format = kRtcpPayloadFeedbackAfb then "afb"
    else "payload_feedback_unknown"
  else "unknown"

end SimpleWebrtc.RtcpFeedback
