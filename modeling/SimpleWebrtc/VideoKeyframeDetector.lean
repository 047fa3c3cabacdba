import SimpleWebrtc.Library.AssocMap
import SimpleWebrtc.RtpHeaderExtension

/-!
# VP8 keyframes on the wire

The keyframe detector reads the payload of a packet with a walk of its own and
the start of a keyframe from the VP8 payload descriptor. Its tracker follows,
for each source, the one keyframe that is arriving packet after packet.
-/
namespace SimpleWebrtc.VideoKeyframeDetector
open Library Library.Bytes Library.Text RtpHeaderExtension

structure RtpPayloadView where
  marker : Bool
  sequenceNumber : UInt16
  timestamp : UInt32
  ssrc : UInt32
  payload : List UInt8
deriving Repr, DecidableEq

/-- The offset behind the extension block which a set extension bit announces. -/
def payloadOffsetAfterExtension (packet : List UInt8) (payloadOffset : ℕ) : Except Text ℕ :=
  if hasExtension packet = false then .ok payloadOffset
  else if packet.length < payloadOffset + kRtpExtensionHeaderSize then
    .error (ascii "rtp extension header is truncated")
  else
    let extensionLengthWords := (readU16 packet (payloadOffset + 2)).toNat
    let extensionSize := kRtpExtensionHeaderSize + extensionLengthWords * 4
    if packet.length < payloadOffset + extensionSize then
      .error (ascii "rtp extension payload is truncated")
    else .ok (payloadOffset + extensionSize)

/-- The end of the payload without the padding which a set padding bit announces. -/
def payloadEndBeforePadding (packet : List UInt8) (payloadOffset : ℕ) : Except Text ℕ :=
  let payloadEnd := packet.length
  if hasPadding packet = false then .ok payloadEnd
  else if payloadEnd ≤ payloadOffset then .error (ascii "rtp padding packet has no payload")
  else
    let paddingSize := byteAt packet (payloadEnd - 1)
    if paddingSize = 0 ∨ payloadEnd - payloadOffset < paddingSize then
      .error (ascii "rtp padding size is invalid")
    else .ok (payloadEnd - paddingSize)

def parseRtpPayloadView (packet : List UInt8) : Except Text RtpPayloadView :=
  if packet.length < kRtpFixedHeaderSize then
    .error (ascii "rtp packet is shorter than fixed header")
  else if byteAt packet 0 >>> 6 ≠ 2 then .error (ascii "rtp version is invalid")
  else
    let csrcEnd := kRtpFixedHeaderSize + csrcCount packet * kRtpCsrcSize
    if packet.length < csrcEnd then .error (ascii "rtp csrc list is truncated")
    else
      match payloadOffsetAfterExtension packet csrcEnd with
      | .error e => .error e
      | .ok payloadOffset =>
          match payloadEndBeforePadding packet payloadOffset with
          | .error e => .error e
          | .ok payloadEnd =>
              if payloadEnd ≤ payloadOffset then .error (ascii "rtp payload is empty")
              else
                .ok
                  { marker := decide (byteAt packet 1 &&& 0x80 ≠ 0)
                    sequenceNumber := readU16 packet 2
                    timestamp := readU32 packet 4
                    ssrc := readU32 packet 8
                    payload := (packet.drop payloadOffset).take (payloadEnd - payloadOffset) }

/-- A flag of a byte. -/
def flag (byte mask : ℕ) : Bool := decide (byte &&& mask ≠ 0)

/-- The offset behind the picture id of a VP8 descriptor. -/
def skipVp8PictureId (payload : List UInt8) (offset : ℕ) : Except Text ℕ :=
  if payload.length ≤ offset then .error (ascii "vp8 picture id is truncated")
  else
    let next := if flag (byteAt payload offset) 0x80 then offset + 2 else offset + 1
    if payload.length < next then .error (ascii "vp8 extended picture id is truncated")
    else .ok next

/-- The offset behind the extension bits of a VP8 descriptor and all they announce. -/
def skipVp8Extension (payload : List UInt8) (offset : ℕ) : Except Text ℕ :=
  if payload.length ≤ offset then .error (ascii "vp8 extension bits are truncated")
  else
    let extensionBits := byteAt payload offset
    let pictureIdEnd :=
      if flag extensionBits 0x80 then skipVp8PictureId payload (offset + 1) else .ok (offset + 1)
    match pictureIdEnd with
    | .error e => .error e
    | .ok offset =>
        let offset := if flag extensionBits 0x40 then offset + 1 else offset
        let offset := if flag extensionBits 0x20 || flag extensionBits 0x10 then offset + 1 else offset
        if payload.length < offset then
          .error (ascii "vp8 payload descriptor extension is truncated")
        else .ok offset

def isVp8KeyframeStart (payload : List UInt8) : Except Text Bool :=
  if payload = [] then .error (ascii "vp8 payload descriptor is empty")
  else
    let descriptor := byteAt payload 0
    let startOfPartition := flag descriptor 0x10
    let partitionId := descriptor &&& 0x0F
    let descriptorEnd := if flag descriptor 0x80 then skipVp8Extension payload 1 else .ok 1
    match descriptorEnd with
    | .error e => .error e
    | .ok offset =>
        if payload.length ≤ offset then .error (ascii "vp8 frame payload is empty")
        else
          let interFrame := flag (byteAt payload offset) 0x01
          .ok (startOfPartition && decide (partitionId = 0) && !interFrame)

inductive VideoKeyframeObservationState where
  | none
  | started
  | completed
  | aborted
  | unsupportedCodec
deriving Repr, DecidableEq

structure VideoKeyframeObservation where
  state : VideoKeyframeObservationState := .none
  ssrc : UInt32
  timestamp : UInt32
  codec : Text
deriving Repr, DecidableEq

structure FrameState where
  timestamp : UInt32
  nextSequenceNumber : UInt16
deriving Repr, DecidableEq

structure VideoKeyframeTracker where
  activeFramesBySsrc : AssocMap UInt32 FrameState := .empty

namespace VideoKeyframeTracker

/-- The packet after which a keyframe may be arriving, when none is for its source. -/
def beginFrame (t : VideoKeyframeTracker) (view : RtpPayloadView) (keyframeStart : Bool)
    (observation : VideoKeyframeObservation) : VideoKeyframeObservation × VideoKeyframeTracker :=
  if keyframeStart = false then (observation, t)
  else if view.marker then ({ observation with state := .completed }, t)
  else
    ({ observation with state := .started },
      ⟨t.activeFramesBySsrc.insertOrAssign view.ssrc
        ⟨view.timestamp, view.sequenceNumber + 1⟩⟩)

def observeVp8 (t : VideoKeyframeTracker) (view : RtpPayloadView) (keyframeStart : Bool)
    (observation : VideoKeyframeObservation) : VideoKeyframeObservation × VideoKeyframeTracker :=
  match t.activeFramesBySsrc.find? view.ssrc with
  | none => t.beginFrame view keyframeStart observation
  | some active =>
      if active.timestamp ≠ view.timestamp ∨ active.nextSequenceNumber ≠ view.sequenceNumber then
        beginFrame ⟨t.activeFramesBySsrc.erase view.ssrc⟩ view keyframeStart
          { observation with state := .aborted }
      else
        let continued := t.activeFramesBySsrc.insertOrAssign view.ssrc
          { active with nextSequenceNumber := view.sequenceNumber + 1 }
        if view.marker then
          ({ observation with state := .completed }, ⟨continued.erase view.ssrc⟩)
        else (observation, ⟨continued⟩)

def observe (t : VideoKeyframeTracker) (codec : Text) (rtpPacket : List UInt8) :
    Except Text VideoKeyframeObservation × VideoKeyframeTracker :=
  match parseRtpPayloadView rtpPacket with
  | .error e => (.error e, t)
  | .ok view =>
      let observation : VideoKeyframeObservation :=
        { ssrc := view.ssrc
          timestamp := view.timestamp
          codec }
      if iequals codec (ascii "VP8") = false then
        (.ok { observation with state := .unsupportedCodec },
          ⟨t.activeFramesBySsrc.erase view.ssrc⟩)
      else
        match isVp8KeyframeStart view.payload with
        | .error e => (.error e, t)
        | .ok keyframeStart =>
            let (observation, t') := t.observeVp8 view keyframeStart observation
            (.ok observation, t')

end VideoKeyframeTracker

end SimpleWebrtc.VideoKeyframeDetector
