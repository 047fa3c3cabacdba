import SimpleWebrtc.Library.Bytes
import SimpleWebrtc.Library.BitFields
import Mathlib.Data.List.TakeWhile

/-!
# Transport-wide feedback packets

The wire format of `rtcp_transport_feedback.cpp`: the status chunk encoder, the
packet writer and the parser. Symbols are delta sizes: zero for a packet which
was not received, one or two for the width of its receive delta. The mixed
encoder picks a run-length chunk, a one-bit chunk or a two-bit chunk at each
position, and the parser recovers the symbols whatever the choices were.
-/
namespace SimpleWebrtc.TransportFeedbackCodec
open Library.Bytes Library.BitFields

def rtcpVersion : ℕ := 2
def transportFeedbackFmt : ℕ := 15
def transportFeedbackPacketType : UInt8 := 205
def headerSize : ℕ := 20
def statusesPerTwoBitChunk : ℕ := 7
def maximumParsedStatusesPerFeedback : ℕ := 8192

structure RtcpTransportFeedbackStatus where
  sequenceNumber : UInt16
  received : Bool
  deltaTicks : Option ℤ
deriving Repr, DecidableEq

structure ParsedRtcpTransportFeedback where
  senderSsrc : UInt32
  mediaSsrc : UInt32
  baseSequenceNumber : UInt16
  packetStatusCount : UInt16
  referenceTime : UInt32
  feedbackPacketCount : UInt8
  statuses : List RtcpTransportFeedbackStatus
deriving Repr, DecidableEq

/-- How many statuses from here on repeat the symbol, up to the width of the field. -/
def runLength (symbol : ℕ) (rest : List ℕ) : ℕ :=
  min (1 + (rest.takeWhile (· == symbol)).length) 0x1FFF

/-- The chunk loop. Every chunk covers a status, so the list length bounds the passes. -/
def encodeStatusChunksFrom : ℕ → List ℕ → List UInt16
  | 0, _ => []
  | _ + 1, [] => []
  | fuel + 1, symbol :: rest =>
      let symbols := symbol :: rest
      let run := runLength symbol rest
      if run ≥ statusesPerTwoBitChunk then
        UInt16.ofNat (symbol <<< 13 ||| run) :: encodeStatusChunksFrom fuel (symbols.drop run)
      else if (symbols.take 14).all (· ≤ 1) then
        UInt16.ofNat (packFrom 1 14 0 (symbols.take 14) 0x8000) ::
          encodeStatusChunksFrom fuel (symbols.drop 14)
      else
        UInt16.ofNat (packFrom 2 statusesPerTwoBitChunk 0 (symbols.take statusesPerTwoBitChunk)
          0xC000) :: encodeStatusChunksFrom fuel (symbols.drop statusesPerTwoBitChunk)

def encodeStatusChunks (symbols : List ℕ) : List UInt16 :=
  encodeStatusChunksFrom symbols.length symbols

def unpaddedPacketSize (deltaSizes : List ℕ) : ℕ :=
  headerSize + (encodeStatusChunks deltaSizes).length * 2 + deltaSizes.sum

def encodedPacketSize (deltaSizes : List ℕ) : ℕ :=
  (unpaddedPacketSize deltaSizes + 3) / 4 * 4

/-- A receive delta of one unsigned byte is small, any other takes two bytes. -/
def deltaSizeOf (ticks : ℤ) : ℕ := if 0 ≤ ticks ∧ ticks ≤ 255 then 1 else 2

def statusDeltaSize : Option ℤ → ℕ
  | none => 0
  | some ticks => deltaSizeOf ticks

/-- A signed value as the sixteen-bit word which holds it. -/
def i16Word (value : ℤ) : UInt16 := UInt16.ofNat (value % 65536).toNat

def readI16 (data : List UInt8) (offset : ℕ) : ℤ :=
  let word := (readU16 data offset).toNat
  if word < 32768 then word else (word : ℤ) - 65536

/-- Receive deltas in status order; statuses without a delta take no bytes. -/
def deltaBytes : List ℕ → List ℤ → List UInt8
  | [], _ => []
  | size :: sizes, deltas =>
      if size = 0 then deltaBytes sizes deltas
      else if size = 1 then
        UInt8.ofNat ((deltas.headD 0) % 256).toNat :: deltaBytes sizes deltas.tail
      else u16Bytes (i16Word (deltas.headD 0)) ++ deltaBytes sizes deltas.tail

/-- Padding ends with its own length. -/
def paddingBytes (size : ℕ) : List UInt8 :=
  if size = 0 then [] else List.replicate (size - 1) 0 ++ [UInt8.ofNat size]

def transportFeedbackHeader (packetSize paddingSize : ℕ) (senderSsrc mediaSsrc : UInt32)
    (baseSequence : UInt16) (statusCount : ℕ) (referenceTime : UInt32)
    (feedbackPacketCount : UInt8) : List UInt8 :=
  UInt8.ofNat (rtcpVersion * 64 + (if paddingSize ≠ 0 then 0x20 else 0) + transportFeedbackFmt) ::
    transportFeedbackPacketType ::
    (u16Bytes (UInt16.ofNat (packetSize / 4 - 1)) ++ (u32Bytes senderSsrc ++
      (u32Bytes mediaSsrc ++ (u16Bytes baseSequence ++
        (u16Bytes (UInt16.ofNat statusCount) ++
          (u24Bytes referenceTime ++ [feedbackPacketCount]))))))

def encodeTransportFeedbackPacket (senderSsrc mediaSsrc : UInt32) (baseSequence : UInt16)
    (referenceTime : UInt32) (feedbackPacketCount : UInt8) (deltaSizes : List ℕ)
    (deltas : List ℤ) : List UInt8 :=
  let packetSize := encodedPacketSize deltaSizes
  let paddingSize := packetSize - unpaddedPacketSize deltaSizes
  transportFeedbackHeader packetSize paddingSize senderSsrc mediaSsrc baseSequence
      deltaSizes.length (referenceTime &&& 0x00FFFFFF) feedbackPacketCount ++
    ((encodeStatusChunks deltaSizes).flatMap u16Bytes ++
      (deltaBytes deltaSizes deltas ++ paddingBytes paddingSize))

/-- The symbols of one chunk, cut at the number of statuses still expected. -/
def decodeStatusChunk (chunk remaining : ℕ) : Except String (List ℕ) :=
  if chunk.testBit 15 = false then
    let symbol := chunk / 8192 % 4
    let run := chunk % 8192
    if run = 0 ∨ symbol = 3 then
      .error "rtcp transport feedback run-length chunk is invalid"
    else .ok (List.replicate (min run remaining) symbol)
  else if chunk.testBit 14 = false then
    .ok ((List.range (min 14 remaining)).map (field 1 14 chunk))
  else
    let symbols := (List.range (min statusesPerTwoBitChunk remaining)).map
      (field 2 statusesPerTwoBitChunk chunk)
    if symbols.any (· == 3) then
      .error "rtcp transport feedback status symbol is reserved"
    else .ok symbols

/-- A decoded chunk is never empty, so the status count bounds the passes. -/
def decodeStatusChunks (data : List UInt8) (effectiveSize statusCount : ℕ) :
    ℕ → ℕ → List ℕ → Except String (ℕ × List ℕ)
  | 0, offset, deltaSizes => .ok (offset, deltaSizes)
  | fuel + 1, offset, deltaSizes =>
      if deltaSizes.length < statusCount then
        if offset + 2 > effectiveSize then
          .error "rtcp transport feedback status chunk is truncated"
        else do
          let symbols ← decodeStatusChunk (readU16 data offset).toNat
            (statusCount - deltaSizes.length)
          decodeStatusChunks data effectiveSize statusCount fuel (offset + 2)
            (deltaSizes ++ symbols)
      else .ok (offset, deltaSizes)

def readStatuses (data : List UInt8) (effectiveSize : ℕ) :
    List ℕ → UInt16 → ℕ → Except String (List RtcpTransportFeedbackStatus × ℕ)
  | [], _, offset => .ok ([], offset)
  | size :: sizes, sequence, offset =>
      if size = 1 then
        if offset + 1 > effectiveSize then
          .error "rtcp transport feedback small delta is truncated"
        else do
          let (statuses, stop) ← readStatuses data effectiveSize sizes (sequence + 1) (offset + 1)
          .ok (⟨sequence, true, some (byteAt data offset)⟩ :: statuses, stop)
      else if size = 2 then
        if offset + 2 > effectiveSize then
          .error "rtcp transport feedback large delta is truncated"
        else do
          let (statuses, stop) ← readStatuses data effectiveSize sizes (sequence + 1) (offset + 2)
          .ok (⟨sequence, true, some (readI16 data offset)⟩ :: statuses, stop)
      else do
        let (statuses, stop) ← readStatuses data effectiveSize sizes (sequence + 1) offset
        .ok (⟨sequence, decide (size ≠ 0), none⟩ :: statuses, stop)

def trailingBytesAreZero (data : List UInt8) (offset stop : ℕ) : Bool :=
  offset ≤ stop && stop - offset ≤ 3 && ((data.drop offset).take (stop - offset)).all (· == 0)

/-- Where the content of the packet ends once its padding is removed. -/
def effectivePacketSize (data : List UInt8) : Except String ℕ :=
  if (byteAt data 0).testBit 5 then
    let paddingSize := byteAt data (data.length - 1)
    if paddingSize = 0 ∨ paddingSize > data.length - headerSize then
      .error "rtcp transport feedback padding is invalid"
    else .ok (data.length - paddingSize)
  else .ok data.length

def parseRtcpTransportFeedback (data : List UInt8) : Except String ParsedRtcpTransportFeedback :=
  if data.length < headerSize ∨ data.length % 4 ≠ 0 then
    .error "rtcp transport feedback packet size is invalid"
  else if byteAt data 0 / 64 ≠ rtcpVersion ∨ byteAt data 0 % 32 ≠ transportFeedbackFmt ∨
      byteAt data 1 ≠ transportFeedbackPacketType.toNat then
    .error "rtcp transport feedback header is invalid"
  else if ((readU16 data 2).toNat + 1) * 4 ≠ data.length then
    .error "rtcp transport feedback declared size does not match buffer"
  else do
    let effectiveSize ← effectivePacketSize data
    let packetStatusCount := readU16 data 14
    if packetStatusCount.toNat > maximumParsedStatusesPerFeedback then
      .error "rtcp transport feedback packet status count exceeds limit"
    else do
      let (offset, deltaSizes) ← decodeStatusChunks data effectiveSize packetStatusCount.toNat
        packetStatusCount.toNat headerSize []
      let (statuses, stop) ← readStatuses data effectiveSize deltaSizes (readU16 data 12) offset
      if trailingBytesAreZero data stop effectiveSize then
        .ok
          { senderSsrc := readU32 data 4
            mediaSsrc := readU32 data 8
            baseSequenceNumber := readU16 data 12
            packetStatusCount
            referenceTime := readU24 data 16
            feedbackPacketCount := data.getD 19 0
            statuses }
      else .error "rtcp transport feedback packet has trailing data"

end SimpleWebrtc.TransportFeedbackCodec
