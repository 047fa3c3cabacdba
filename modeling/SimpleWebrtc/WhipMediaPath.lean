import SimpleWebrtc.MediaSystem
import SimpleWebrtc.RtpReceiveStatistics
import SimpleWebrtc.TransportFeedbackGenerator
import SimpleWebrtc.WhipPublisher

/-!
# The packet path of a WHIP session

What a publisher's transport does with a packet it has unprotected. The sources
it keeps receive statistics of are tracked in a table of limited size, which a
packet of a source and a sender report of it both fill; a BYE takes its sources
out of the table, and the router is told of those which were in it.
-/
namespace SimpleWebrtc.WhipMedia
open Library Library.Bytes Library.Text RtpHeaderExtension RtpPacket RtcpReport RtcpCompoundPacket
  RtpReceiveStatistics TransportFeedbackGenerator WhipPublisher WhepMedia

def kMaximumRtpSources : ℕ := 64

/-- The part of a receiver's state that arriving packets set. -/
structure InboundRtcpReceiverState where
  kind : Text := []
  clockRate : UInt32 := 0
  rtcpRsize : Bool := false
  receiveStatistics : ReceiveStatistics := {}
  senderReportCount : ℕ := 0
  lastSenderReport : UInt32 := 0
  lastSenderReportReceivedAt : Option ℤ := none
deriving DecidableEq

structure WhipSessionTransport where
  streamId : Text
  sessionId : Text
  publisherSourceGeneration : ℕ
  inboundPayloadTypes : AssocMap UInt8 InboundPayloadTypeContext
  transportFeedbackGenerator : Generator := {}
  inboundRtcpReceivers : AssocMap UInt32 InboundRtcpReceiverState := AssocMap.empty

def makeCompactNtp (ntpTimestamp : UInt64) : UInt32 := (ntpTimestamp >>> 16).toUInt32

structure EndedSource where
  sourceSsrc : UInt32
  reason : Text

namespace WhipSessionTransport
variable (t : WhipSessionTransport)

/-- The transport-wide number of a packet, where the payload type's section carries one. -/
def observeTransportSequence (context : InboundPayloadTypeContext) (sourceSsrc : UInt32)
    (arrivalTime : ℤ) (plainPacket : List UInt8) : WhipSessionTransport :=
  if context.transportCcEnabled = false then t
  else
    match findRtpHeaderExtension plainPacket context.transportCcExtensionId with
    | .error _ => t
    | .ok none => t
    | .ok (some span) =>
        if span.size ≠ 2 then t
        else
          { t with
            transportFeedbackGenerator := (t.transportFeedbackGenerator.observe
              (readU16 plainPacket span.offset) arrivalTime sourceSsrc).1 }

/-- The state a receiver is known under, or a new one while there is room. -/
def receiverFor (sourceSsrc : UInt32) (fresh : InboundRtcpReceiverState) :
    Option InboundRtcpReceiverState :=
  match t.inboundRtcpReceivers.find? sourceSsrc with
  | some receiver => some receiver
  | none =>
      if kMaximumRtpSources ≤ t.inboundRtcpReceivers.size then none else some fresh

def keepReceiver (sourceSsrc : UInt32) (receiver : InboundRtcpReceiverState) :
    WhipSessionTransport :=
  { t with inboundRtcpReceivers := t.inboundRtcpReceivers.insertOrAssign sourceSsrc receiver }

def recordInboundRtp (header : RtpPacketHeader) (arrivalTime : ℤ) (plainPacket : List UInt8) :
    WhipSessionTransport :=
  match t.inboundPayloadTypes.find? header.payloadType with
  | none => t
  | some context =>
      let t := t.observeTransportSequence context header.ssrc arrivalTime plainPacket
      let fresh : InboundRtcpReceiverState :=
        { kind := context.kind, clockRate := context.clockRate, rtcpRsize := context.rtcpRsize }
      match t.receiverFor header.ssrc fresh with
      | none => t
      | some receiver =>
          if receiver.kind ≠ [] ∧ receiver.kind ≠ context.kind then
            t.keepReceiver header.ssrc receiver
          else
            t.keepReceiver header.ssrc
              { receiver with
                kind := context.kind
                clockRate := context.clockRate
                rtcpRsize := context.rtcpRsize
                receiveStatistics :=
                  (receiver.receiveStatistics.observe header.sequenceNumber context.clockRate).2 }

def updateReceiverSenderReport (sourceSsrc : UInt32) (ntpTimestamp : UInt64) (receivedAt : ℤ) :
    WhipSessionTransport :=
  match t.receiverFor sourceSsrc {} with
  | none => t
  | some receiver =>
      t.keepReceiver sourceSsrc
        { receiver with
          senderReportCount := receiver.senderReportCount + 1
          lastSenderReport := makeCompactNtp ntpTimestamp
          lastSenderReportReceivedAt := some receivedAt }

/-- Takes a source out of the table; the flag says whether it was in it. -/
def endSource (sourceSsrc : UInt32) : WhipSessionTransport × Bool :=
  if sourceSsrc ≠ 0 ∧ (t.inboundRtcpReceivers.find? sourceSsrc).isSome = true then
    ({ t with inboundRtcpReceivers := t.inboundRtcpReceivers.erase sourceSsrc }, true)
  else (t, false)

/-- The sources named by BYE packets leave the table one after the other. -/
def endSources (t : WhipSessionTransport) :
    List EndedSource → WhipSessionTransport × List EndedSource
  | [] => (t, [])
  | source :: sources =>
      let (t, tracked) := t.endSource source.sourceSsrc
      let (t, ended) := endSources t sources
      (t, if tracked then source :: ended else ended)

end WhipSessionTransport

def namedSources (byePackets : List RtcpByePacket) : List EndedSource :=
  byePackets.flatMap fun bye => bye.ssrcs.map fun sourceSsrc => ⟨sourceSsrc, bye.reason⟩

def makeNtpTimestamp (senderInfo : RtcpSenderInfo) : UInt64 :=
  (senderInfo.ntpTimestampMsw.toUInt64 <<< 32) ||| senderInfo.ntpTimestampLsw.toUInt64

/-- A publisher's session with the router and the subscribers. -/
structure PublishedStream where
  publisher : WhipSessionTransport
  media : MediaSystem

namespace PublishedStream
variable (w : PublishedStream)

/-- An RTP packet is published whether or not its source is tracked. -/
def handleInboundRtp (delivery : Delivery) (plainPacket : List UInt8) : PublishedStream :=
  match parseRtpPacketHeader plainPacket with
  | .error _ => w
  | .ok header =>
      let publisher := w.publisher.recordInboundRtp header delivery.now plainPacket
      if carriesMedia plainPacket then
        { publisher
          media := w.media.publishRtp delivery publisher.streamId publisher.sessionId plainPacket }
      else { w with publisher }

/-- The sender's part of one report, if it has one. -/
def handleReport (delivery : Delivery) (w : PublishedStream) (report : RtcpReportPacket) :
    PublishedStream :=
  match report.senderInfo with
  | none => w
  | some senderInfo =>
      let ntpTimestamp := makeNtpTimestamp senderInfo
      { publisher :=
          w.publisher.updateReceiverSenderReport report.senderSsrc ntpTimestamp delivery.now
        media := w.media.publishSenderTiming delivery.order w.publisher.streamId
          w.publisher.sessionId w.publisher.publisherSourceGeneration report.senderSsrc ntpTimestamp
          senderInfo.rtpTimestamp senderInfo.senderPacketCount senderInfo.senderOctetCount }

def publishBye (delivery : Delivery) (w : PublishedStream) (source : EndedSource) :
    PublishedStream :=
  { w with
    media := w.media.publishSourceBye delivery.order w.publisher.streamId w.publisher.sessionId
      w.publisher.publisherSourceGeneration source.sourceSsrc source.reason }

def handleInboundByes (delivery : Delivery) (byePackets : List RtcpByePacket) : PublishedStream :=
  let (publisher, ended) := w.publisher.endSources (namedSources byePackets)
  ended.foldl (publishBye delivery) { w with publisher }

/-- All sender reports of a compound come before its BYEs. -/
def handleInboundRtcp (delivery : Delivery) (plainRtcp : List UInt8) : PublishedStream :=
  match parseRtcpCompoundPacket plainRtcp with
  | .error _ => w
  | .ok compound =>
      (compound.reportPackets.foldl (handleReport delivery) w).handleInboundByes delivery
        compound.byePackets

end PublishedStream
end SimpleWebrtc.WhipMedia
