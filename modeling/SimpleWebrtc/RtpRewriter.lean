import SimpleWebrtc.Library.AssocMap
import SimpleWebrtc.RewrittenExtensions

/-!
# The WHEP RTP rewriter

The rewriter turns the publisher's RTP stream into the subscriber's: one
runtime state per media section holds what is known of the source and where
the output stream stands, and a table binds source SSRCs to sections. A call
which mutates the state before it fails leaves the mutation behind, so every
operation returns the state next to its result, success or not.
-/
namespace SimpleWebrtc.RtpRewriter
open Library Library.Bytes RtpHeaderExtension RtpPacket RewrittenExtensions

def kRtxOriginalSequenceSize : ℕ := 2
def kSequenceCacheLimit : ℕ := 4096

structure RewriterConfig where
  sourceSessionId : Text
  media : List MediaMapping
deriving Repr, DecidableEq

def makeInitialSequenceNumber (targetSsrc : UInt32) : UInt16 :=
  ((targetSsrc ^^^ (targetSsrc >>> 16)) &&& 0xFFFF).toUInt16

def makeInitialTimestampOffset (targetSsrc : UInt32) : UInt32 := targetSsrc * 0x9E3779B1

def timestampIsNewer (value reference : UInt32) : Bool :=
  decide (0 < (value - reference).toInt32)

/-- The source numbers of the packets sent, with the numbers they were given. -/
structure SequenceNumberCache where
  values : AssocMap UInt16 UInt16 := AssocMap.empty
  order : List (UInt16 × UInt16) := []
deriving DecidableEq

namespace SequenceNumberCache

/-- Drops the oldest entries while the cache is over its limit. -/
def evict (values : AssocMap UInt16 UInt16) : List (UInt16 × UInt16) → SequenceNumberCache
  | [] => ⟨values, []⟩
  | oldest :: order =>
      if kSequenceCacheLimit < order.length + 1 then
        let values :=
          if values.find? oldest.1 = some oldest.2 then values.erase oldest.1 else values
        evict values order
      else ⟨values, oldest :: order⟩

def remember (cache : SequenceNumberCache) (source target : UInt16) : SequenceNumberCache :=
  evict (cache.values.insertOrAssign source target) (cache.order ++ [(source, target)])

def find (cache : SequenceNumberCache) (source : UInt16) : Option UInt16 :=
  cache.values.find? source

end SequenceNumberCache

structure MediaRuntimeState where
  mapping : MediaMapping
  sourcePrimarySsrc : Option UInt32 := none
  sourceRtxSsrc : Option UInt32 := none
  sourcePrimaryPayloadType : Option UInt8 := none
  sourceClockRate : UInt32 := 0
  primarySequenceInitialized : Bool := false
  rtxSequenceInitialized : Bool := false
  nextPrimarySequenceNumber : UInt16 := 0
  nextRtxSequenceNumber : UInt16 := 0
  timestampInitialized : Bool := false
  lastTargetTimestamp : UInt32 := 0
  sourceTimestampAnchor : Option UInt32 := none
  targetTimestampAnchor : UInt32 := 0
  primarySequenceNumbers : SequenceNumberCache := {}
deriving DecidableEq

namespace MediaRuntimeState

def clearSourceState (current : MediaRuntimeState) : MediaRuntimeState :=
  { current with
    sourcePrimarySsrc := none
    sourceRtxSsrc := none
    sourcePrimaryPayloadType := none
    sourceClockRate := 0
    sourceTimestampAnchor := none
    targetTimestampAnchor := 0
    primarySequenceNumbers := {} }

def timestampStep (clockRate : UInt32) : UInt32 := max 1 (clockRate / 100)

/-- Where the target timeline continues when a new source begins. -/
def beginTimestamp (current : MediaRuntimeState) (sourceTimestamp clockRate : UInt32) : UInt32 :=
  if current.timestampInitialized then current.lastTargetTimestamp + timestampStep clockRate
  else sourceTimestamp + makeInitialTimestampOffset current.mapping.targetSsrc

def beginPrimarySource (current : MediaRuntimeState) (sourceSsrc : UInt32)
    (sourcePayloadType : UInt8) (sourceTimestamp clockRate : UInt32) : MediaRuntimeState :=
  { current with
    sourcePrimarySsrc := some sourceSsrc
    sourceRtxSsrc := none
    sourcePrimaryPayloadType := some sourcePayloadType
    sourceClockRate := clockRate
    primarySequenceNumbers := {}
    sourceTimestampAnchor := some sourceTimestamp
    targetTimestampAnchor := current.beginTimestamp sourceTimestamp clockRate
    timestampInitialized := true
    lastTargetTimestamp := current.beginTimestamp sourceTimestamp clockRate }

/-- The next number of the RTX space or of the primary space, initialized on first use. -/
def sequenceNumber (current : MediaRuntimeState) : Bool → UInt16
  | true =>
      if current.rtxSequenceInitialized then current.nextRtxSequenceNumber
      else makeInitialSequenceNumber current.mapping.targetRtxSsrc
  | false =>
      if current.primarySequenceInitialized then current.nextPrimarySequenceNumber
      else makeInitialSequenceNumber current.mapping.targetSsrc

def allocateSequenceNumber (current : MediaRuntimeState) (rtx : Bool) :
    UInt16 × MediaRuntimeState :=
  let value := current.sequenceNumber rtx
  match rtx with
  | true => (value,
      { current with rtxSequenceInitialized := true, nextRtxSequenceNumber := value + 1 })
  | false => (value,
      { current with primarySequenceInitialized := true, nextPrimarySequenceNumber := value + 1 })

/-- The state with a timestamp anchor, begun here when there is none. -/
def anchored (current : MediaRuntimeState) (sourceTimestamp : UInt32) : MediaRuntimeState :=
  if current.sourceTimestampAnchor.isSome then current
  else current.beginPrimarySource (current.sourcePrimarySsrc.getD 0)
    (current.sourcePrimaryPayloadType.getD 0) sourceTimestamp (max 1 current.sourceClockRate)

def translateTimestamp (current : MediaRuntimeState) (sourceTimestamp : UInt32) :
    UInt32 × MediaRuntimeState :=
  let current := current.anchored sourceTimestamp
  let target := current.targetTimestampAnchor +
    (sourceTimestamp - current.sourceTimestampAnchor.getD 0)
  if timestampIsNewer target current.lastTargetTimestamp then
    (target, { current with lastTargetTimestamp := target })
  else (target, current)

end MediaRuntimeState

structure SourceSsrcBinding where
  mediaIndex : ℕ
  rtx : Bool
deriving Repr, DecidableEq

structure Impl where
  media : List MediaRuntimeState := []
  bindings : AssocMap UInt32 SourceSsrcBinding := AssocMap.empty
  sourceSessionId : Text := []
  sourceAvailable : Bool := false
deriving DecidableEq

inductive RewriteState where
  | rewritten
  | dropped
deriving Repr, DecidableEq

structure RewriteResult where
  state : RewriteState := .dropped
  packet : List UInt8 := []
  reason : Text := []
  kind : Text := []
  codecName : Text := []
  rtx : Bool := false
  keyframeRequestNeeded : Bool := false
  sourceSsrc : UInt32 := 0
  targetSsrc : UInt32 := 0
  sourcePayloadType : UInt8 := 0
  targetPayloadType : UInt8 := 0
  sourceSequenceNumber : UInt16 := 0
  targetSequenceNumber : UInt16 := 0
  sourceTimestamp : UInt32 := 0
  targetTimestamp : UInt32 := 0
  payloadSize : ℕ := 0
  transportSequenceNumber : Option UInt16 := none
deriving Repr, DecidableEq

structure RetransmissionResult where
  packet : List UInt8 := []
  kind : Text := []
  codecName : Text := []
  rtx : Bool := false
  originalTargetSsrc : UInt32 := 0
  targetSsrc : UInt32 := 0
  originalTargetPayloadType : UInt8 := 0
  targetPayloadType : UInt8 := 0
  originalTargetSequenceNumber : UInt16 := 0
  targetSequenceNumber : UInt16 := 0
  targetTimestamp : UInt32 := 0
  payloadSize : ℕ := 0
  transportSequenceNumber : Option UInt16 := none
deriving Repr, DecidableEq

/-- A section a packet belongs to: its index, its state and the payload type mapping. -/
structure ResolvedMedia where
  mediaIndex : ℕ
  current : MediaRuntimeState
  payloadType : PayloadTypeMapping
deriving DecidableEq

def makeDropResult (parsed : ParsedRtpPacket) (reason : Text) : RewriteResult :=
  { reason
    sourceSsrc := parsed.header.ssrc
    sourcePayloadType := parsed.header.payloadType
    sourceSequenceNumber := parsed.header.sequenceNumber
    sourceTimestamp := parsed.header.timestamp }

def findParsedHeaderExtension (parsed : ParsedRtpPacket) (id : UInt8) :
    Option ParsedHeaderExtension :=
  parsed.headerExtensions.find? fun e => decide (e.id = id)

/-- The only section a partial match selects, from the left; a second one makes it ambiguous. -/
def resolveOnly (select : MediaRuntimeState → Option PayloadTypeMapping) (index : ℕ)
    (resolved : Option ResolvedMedia) : List MediaRuntimeState → Option ResolvedMedia
  | [] => resolved
  | current :: media =>
      match select current with
      | none => resolveOnly select (index + 1) resolved media
      | some payloadType =>
          if resolved.isSome then none
          else resolveOnly select (index + 1) (some ⟨index, current, payloadType⟩) media

def resolveMediaByMid (media : List MediaRuntimeState) (parsed : ParsedRtpPacket) :
    Option ResolvedMedia :=
  resolveOnly (fun current =>
    match current.mapping.findPayloadTypeMapping parsed.header.payloadType,
        current.mapping.findMidExtensionMapping with
    | some payloadType, some midMapping =>
        match findParsedHeaderExtension parsed midMapping.sourceId with
        | none => none
        | some midExtension =>
            if midExtension.value = current.mapping.sourceMid then some payloadType else none
    | _, _ => none) 0 none media

def resolveMediaByPayloadType (media : List MediaRuntimeState) (sourcePayloadType : UInt8) :
    Option ResolvedMedia :=
  resolveOnly (fun current => current.mapping.findPayloadTypeMapping sourcePayloadType) 0 none media

def writeTransportSequenceNumber (packet : List UInt8) (extensionId : UInt8)
    (sequenceNumber : UInt16) : Except Text (List UInt8) :=
  match findRtpHeaderExtension packet extensionId with
  | .error e => .error e
  | .ok none => .error (ascii "whep transport-wide sequence extension is missing or invalid")
  | .ok (some span) =>
      if span.size ≠ 2 then
        .error (ascii "whep transport-wide sequence extension is missing or invalid")
      else .ok (writeU16 packet span.offset sequenceNumber)

namespace MediaRuntimeState

/-- What is left of a runtime state whose containers and strings were moved out. -/
def movedFrom (current : MediaRuntimeState) : MediaRuntimeState :=
  { current with
    mapping := { current.mapping with
      kind := [], sourceMid := [], targetMid := [], payloadTypes := [], headerExtensions := [] }
    primarySequenceNumbers := {} }

/-- The state of a section which keeps its output stream under a new mapping. -/
def adopt (previous : MediaRuntimeState) (sameSource : Bool) (mapping : MediaMapping) :
    MediaRuntimeState :=
  let next := { previous with mapping := mapping }
  let next :=
    if previous.mapping.targetRtxSsrc ≠ mapping.targetRtxSsrc then
      { next with rtxSequenceInitialized := false, nextRtxSequenceNumber := 0 }
    else next
  if sameSource = false ∨ previous.mapping.sourceMid ≠ mapping.sourceMid then
    next.clearSourceState
  else next

def continues (mapping : MediaMapping) (current : MediaRuntimeState) : Bool :=
  decide (current.mapping.kind = mapping.kind) &&
    decide (current.mapping.targetSsrc = mapping.targetSsrc)

/-- The runtime states of a new configuration, taken over from the previous ones. -/
def nextMedia (sameSource : Bool) (previous : List MediaRuntimeState) :
    List MediaMapping → List MediaRuntimeState
  | [] => []
  | mapping :: mappings =>
      match previous.find? (continues mapping) with
      | some found =>
          found.adopt sameSource mapping ::
            nextMedia sameSource
              (previous.modify (previous.findIdx (continues mapping)) movedFrom) mappings
      | none => { mapping } :: nextMedia sameSource previous mappings

end MediaRuntimeState

namespace Impl

/-- The bindings of every section's known sources, later sections over earlier ones. -/
def rebuildBindings : ℕ → List MediaRuntimeState → AssocMap UInt32 SourceSsrcBinding →
    AssocMap UInt32 SourceSsrcBinding
  | _, [], bindings => bindings
  | index, current :: media, bindings =>
      let bindings := match current.sourcePrimarySsrc with
        | some ssrc => bindings.insertOrAssign ssrc ⟨index, false⟩
        | none => bindings
      let bindings := match current.sourceRtxSsrc with
        | some ssrc => bindings.insertOrAssign ssrc ⟨index, true⟩
        | none => bindings
      rebuildBindings (index + 1) media bindings

def setConfig (s : Impl) (config : RewriterConfig) : Impl :=
  let sameSource := s.sourceAvailable && decide (s.sourceSessionId = config.sourceSessionId)
  let media := MediaRuntimeState.nextMedia sameSource s.media config.media
  { media
    sourceSessionId := config.sourceSessionId
    sourceAvailable := true
    bindings := rebuildBindings 0 media AssocMap.empty }

def clearSource (s : Impl) : Impl :=
  { media := s.media.map MediaRuntimeState.clearSourceState
    bindings := AssocMap.empty
    sourceSessionId := []
    sourceAvailable := false }

def eraseBindingsForMedia (bindings : AssocMap UInt32 SourceSsrcBinding) (mediaIndex : ℕ) :
    AssocMap UInt32 SourceSsrcBinding :=
  bindings.filter fun _ binding => decide (binding.mediaIndex ≠ mediaIndex)

/-- The section a source SSRC is bound to, where the payload type agrees with the binding. -/
def resolveBinding (s : Impl) (parsed : ParsedRtpPacket) : Option ResolvedMedia :=
  match s.bindings.find? parsed.header.ssrc with
  | none => none
  | some binding =>
      match s.media[binding.mediaIndex]? with
      | none => none
      | some current =>
          match current.mapping.findPayloadTypeMapping parsed.header.payloadType with
          | none => none
          | some payloadType =>
              if payloadType.rtx = binding.rtx then some ⟨binding.mediaIndex, current, payloadType⟩
              else none

def resolve (s : Impl) (parsed : ParsedRtpPacket) : Option ResolvedMedia :=
  ((s.resolveBinding parsed).or (resolveMediaByMid s.media parsed)).or
    (resolveMediaByPayloadType s.media parsed.header.payloadType)

end Impl

/-- A section once the source of a packet is bound to it. -/
structure BoundSource where
  current : MediaRuntimeState
  bindings : AssocMap UInt32 SourceSsrcBinding
  keyframeRequestNeeded : Bool := false
deriving DecidableEq

/-- Binds an RTX source; nothing when no primary source is known yet. -/
def bindRtx (bindings : AssocMap UInt32 SourceSsrcBinding) (parsed : ParsedRtpPacket)
    (resolved : ResolvedMedia) : Option BoundSource :=
  let current := resolved.current
  if current.sourcePrimarySsrc = none then none
  else if current.sourceRtxSsrc = some parsed.header.ssrc then some { current, bindings }
  else
    let bindings := match current.sourceRtxSsrc with
      | some ssrc => bindings.erase ssrc
      | none => bindings
    some
      { current := { current with sourceRtxSsrc := some parsed.header.ssrc }
        bindings := bindings.insertOrAssign parsed.header.ssrc ⟨resolved.mediaIndex, true⟩ }

def sourceChanged (parsed : ParsedRtpPacket) (resolved : ResolvedMedia) : Bool :=
  decide (resolved.current.sourcePrimarySsrc ≠ some parsed.header.ssrc) ||
    decide (resolved.current.sourcePrimaryPayloadType ≠ some parsed.header.payloadType) ||
    decide (resolved.current.sourceClockRate ≠ resolved.payloadType.clockRate)

def bindPrimary (bindings : AssocMap UInt32 SourceSsrcBinding) (parsed : ParsedRtpPacket)
    (resolved : ResolvedMedia) : BoundSource :=
  let current := resolved.current
  let begun := current.beginPrimarySource parsed.header.ssrc parsed.header.payloadType
    parsed.header.timestamp resolved.payloadType.clockRate
  if sourceChanged parsed resolved then
    { current := begun
      bindings := (Impl.eraseBindingsForMedia bindings resolved.mediaIndex).insertOrAssign
        parsed.header.ssrc ⟨resolved.mediaIndex, false⟩
      keyframeRequestNeeded := decide (current.mapping.kind = ascii "video") }
  else if current.sourceTimestampAnchor.isNone then { current := begun, bindings }
  else { current, bindings }

def bindSource (bindings : AssocMap UInt32 SourceSsrcBinding) (parsed : ParsedRtpPacket)
    (resolved : ResolvedMedia) : Option BoundSource :=
  if resolved.payloadType.rtx then bindRtx bindings parsed resolved
  else some (bindPrimary bindings parsed resolved)

def targetSsrcOf (mapping : MediaMapping) (rtx : Bool) : UInt32 :=
  if rtx then mapping.targetRtxSsrc else mapping.targetSsrc

/-- The target number of the packet an RTX packet repeats, or why it is unknown. -/
def rtxOriginal (current : MediaRuntimeState) (packet : List UInt8) (parsed : ParsedRtpPacket) :
    Except Text UInt16 :=
  if parsed.payloadDataSize < kRtxOriginalSequenceSize then
    .error (ascii "source rtx payload is shorter than original sequence number")
  else
    match current.primarySequenceNumbers.find (readU16 packet parsed.payloadOffset) with
    | none => .error (ascii "source rtx original sequence number is not cached")
    | some target => .ok target

/-- The header extension block a rewritten packet gets. -/
def extensionBlockFor (parsed : ParsedRtpPacket) (mapping : MediaMapping)
    (transportSequenceNumber : UInt16) : Except Text (List UInt8) :=
  match rewriteHeaderExtensions parsed mapping transportSequenceNumber with
  | .error e => .error e
  | .ok extensions => buildHeaderExtensionBlock extensions mapping.targetExtmapAllowMixed

/-- The bytes of the rewritten packet. -/
def assemblePacket (packet : List UInt8) (parsed : ParsedRtpPacket) (block : List UInt8)
    (targetPayloadType : UInt8) (sequenceNumber : UInt16) (timestamp ssrc : UInt32)
    (original : Option UInt16) : List UInt8 :=
  let base := packet.take parsed.baseHeaderSize
  let b₀ := UInt8.ofNat (byteAt base 0)
  let withBlock :=
    if block.isEmpty then base.set 0 (b₀ &&& ~~~0x10) else base.set 0 (b₀ ||| 0x10) ++ block
  let rewritten := withBlock ++ packet.drop parsed.payloadOffset
  let rewritten :=
    rewritten.set 1 ((UInt8.ofNat (byteAt rewritten 1) &&& 0x80) ||| targetPayloadType)
  let rewritten := writeU16 rewritten 2 sequenceNumber
  let rewritten := writeU32 rewritten 4 timestamp
  let rewritten := writeU32 rewritten 8 ssrc
  match original with
  | some number => writeU16 rewritten (parsed.baseHeaderSize + block.length) number
  | none => rewritten

/-- The result which carries the rewritten packet. -/
def rewrittenResult (bound : BoundSource) (packet : List UInt8) (parsed : ParsedRtpPacket)
    (payloadType : PayloadTypeMapping) (transportSequenceNumber : UInt16)
    (original : Option UInt16) (block : List UInt8) (targetSequenceNumber : UInt16)
    (targetTimestamp : UInt32) : RewriteResult where
  state := .rewritten
  packet := assemblePacket packet parsed block payloadType.targetPayloadType
    targetSequenceNumber targetTimestamp (targetSsrcOf bound.current.mapping payloadType.rtx)
    original
  kind := bound.current.mapping.kind
  codecName := payloadType.codecName
  rtx := payloadType.rtx
  keyframeRequestNeeded := bound.keyframeRequestNeeded
  sourceSsrc := parsed.header.ssrc
  targetSsrc := targetSsrcOf bound.current.mapping payloadType.rtx
  sourcePayloadType := parsed.header.payloadType
  targetPayloadType := payloadType.targetPayloadType
  sourceSequenceNumber := parsed.header.sequenceNumber
  targetSequenceNumber := targetSequenceNumber
  sourceTimestamp := parsed.header.timestamp
  targetTimestamp := targetTimestamp
  payloadSize := parsed.payloadDataSize
  transportSequenceNumber :=
    if bound.current.mapping.targetTransportCcExtensionId ≠ 0 then some transportSequenceNumber
    else none

/-- The part of a rewrite behind the last check which drops a packet. -/
def emit (bound : BoundSource) (packet : List UInt8) (parsed : ParsedRtpPacket)
    (payloadType : PayloadTypeMapping) (transportSequenceNumber : UInt16)
    (original : Option UInt16) : MediaRuntimeState × Except Text RewriteResult :=
  let (targetSequenceNumber, current) := bound.current.allocateSequenceNumber payloadType.rtx
  let (targetTimestamp, current) := current.translateTimestamp parsed.header.timestamp
  match extensionBlockFor parsed bound.current.mapping transportSequenceNumber with
  | .error e => (current, .error e)
  | .ok block =>
      let current := match original with
        | some _ => current
        | none => { current with
            primarySequenceNumbers := current.primarySequenceNumbers.remember
              parsed.header.sequenceNumber targetSequenceNumber }
      (current, .ok (rewrittenResult bound packet parsed payloadType transportSequenceNumber
        original block targetSequenceNumber targetTimestamp))

/-- The part of a rewrite which concerns the bound section only. -/
def rewriteBound (bound : BoundSource) (packet : List UInt8) (parsed : ParsedRtpPacket)
    (payloadType : PayloadTypeMapping) (transportSequenceNumber : UInt16) :
    MediaRuntimeState × Except Text RewriteResult :=
  if targetSsrcOf bound.current.mapping payloadType.rtx = 0 then
    (bound.current, .ok (makeDropResult parsed (ascii "target ssrc is missing")))
  else if payloadType.rtx then
    match rtxOriginal bound.current packet parsed with
    | .error reason => (bound.current, .ok (makeDropResult parsed reason))
    | .ok original => emit bound packet parsed payloadType transportSequenceNumber (some original)
  else emit bound packet parsed payloadType transportSequenceNumber none

namespace Impl

def rewriteResolved (s : Impl) (packet : List UInt8) (parsed : ParsedRtpPacket)
    (resolved : ResolvedMedia) (transportSequenceNumber : UInt16) :
    Impl × Except Text RewriteResult :=
  match bindSource s.bindings parsed resolved with
  | none =>
      (s, .ok (makeDropResult parsed (ascii "source rtx arrived before primary media")))
  | some bound =>
      let (current, result) :=
        rewriteBound bound packet parsed resolved.payloadType transportSequenceNumber
      ({ s with media := s.media.set resolved.mediaIndex current, bindings := bound.bindings },
        result)

def rewrite (s : Impl) (packet : List UInt8) (transportSequenceNumber : UInt16) :
    Impl × Except Text RewriteResult :=
  match parseRewriteableRtpPacket packet with
  | .error e => (s, .error e)
  | .ok parsed =>
      if s.sourceAvailable = false ∨ s.media = [] then
        (s, .ok (makeDropResult parsed (ascii "publisher source is unavailable")))
      else
        match s.resolve parsed with
        | none =>
            (s, .ok (makeDropResult parsed (ascii "source media mapping is ambiguous or missing")))
        | some resolved => s.rewriteResolved packet parsed resolved transportSequenceNumber

end Impl

/-- The primary and the RTX payload type mapping of a target payload type. -/
def findPrimaryMapping (mapping : MediaMapping) (targetPayloadType : UInt8) :
    Option PayloadTypeMapping :=
  mapping.payloadTypes.find? fun p => !p.rtx && decide (p.targetPayloadType = targetPayloadType)

def findRtxMapping (mapping : MediaMapping) (targetPayloadType : UInt8) :
    Option PayloadTypeMapping :=
  mapping.payloadTypes.find? fun p =>
    p.rtx && decide (p.targetAssociatedPayloadType = targetPayloadType)

/-- Writes the transport-wide number where the section negotiated it. -/
def stampTransportCc (mapping : MediaMapping) (transportSequenceNumber : UInt16)
    (result : RetransmissionResult) : Except Text RetransmissionResult :=
  if mapping.targetTransportCcExtensionId = 0 then .ok result
  else
    match writeTransportSequenceNumber result.packet mapping.targetTransportCcExtensionId
        transportSequenceNumber with
    | .error e => .error e
    | .ok packet =>
        .ok { result with packet, transportSequenceNumber := some transportSequenceNumber }

/-- The bytes of an RTX packet which repeats a primary packet. -/
def assembleRetransmission (packet : List UInt8) (parsed : ParsedRtpPacket)
    (targetPayloadType : UInt8) (sequenceNumber : UInt16) (ssrc : UInt32) : List UInt8 :=
  let rtxPacket := packet.take parsed.payloadOffset ++ u16Bytes parsed.header.sequenceNumber ++
    packet.drop parsed.payloadOffset
  let rtxPacket :=
    rtxPacket.set 1 ((UInt8.ofNat (byteAt rtxPacket 1) &&& 0x80) ||| targetPayloadType)
  writeU32 (writeU16 rtxPacket 2 sequenceNumber) 8 ssrc

/-- The packet itself, for a subscriber without RTX. -/
def originalResult (mapping : MediaMapping) (primary : PayloadTypeMapping) (packet : List UInt8)
    (parsed : ParsedRtpPacket) : RetransmissionResult where
  packet := packet
  kind := mapping.kind
  codecName := primary.codecName
  rtx := false
  originalTargetSsrc := parsed.header.ssrc
  targetSsrc := parsed.header.ssrc
  originalTargetPayloadType := parsed.header.payloadType
  targetPayloadType := parsed.header.payloadType
  originalTargetSequenceNumber := parsed.header.sequenceNumber
  targetSequenceNumber := parsed.header.sequenceNumber
  targetTimestamp := parsed.header.timestamp
  payloadSize := parsed.payloadDataSize

def rtxResult (mapping : MediaMapping) (primary rtx : PayloadTypeMapping) (packet : List UInt8)
    (parsed : ParsedRtpPacket) (sequenceNumber : UInt16) : RetransmissionResult where
  packet := assembleRetransmission packet parsed rtx.targetPayloadType sequenceNumber
    mapping.targetRtxSsrc
  kind := mapping.kind
  codecName := primary.codecName
  rtx := true
  originalTargetSsrc := parsed.header.ssrc
  targetSsrc := mapping.targetRtxSsrc
  originalTargetPayloadType := parsed.header.payloadType
  targetPayloadType := rtx.targetPayloadType
  originalTargetSequenceNumber := parsed.header.sequenceNumber
  targetSequenceNumber := sequenceNumber
  targetTimestamp := parsed.header.timestamp
  payloadSize := parsed.payloadDataSize + kRtxOriginalSequenceSize

/-- The retransmission of a primary packet by its section. -/
def retransmit (current : MediaRuntimeState) (packet : List UInt8) (parsed : ParsedRtpPacket)
    (transportSequenceNumber : UInt16) : MediaRuntimeState × Except Text RetransmissionResult :=
  let mapping := current.mapping
  match findPrimaryMapping mapping parsed.header.payloadType with
  | none =>
      (current, .error (ascii "whep retransmission target payload type has no generic nack"))
  | some primary =>
      if primary.nack = false then
        (current, .error (ascii "whep retransmission target payload type has no generic nack"))
      else
        match (findRtxMapping mapping parsed.header.payloadType).filter fun _ =>
            decide (mapping.targetRtxSsrc ≠ 0) with
        | none =>
            (current, stampTransportCc mapping transportSequenceNumber
              (originalResult mapping primary packet parsed))
        | some rtx =>
            let (sequenceNumber, next) := current.allocateSequenceNumber true
            (next, stampTransportCc mapping transportSequenceNumber
              (rtxResult mapping primary rtx packet parsed sequenceNumber))

namespace Impl

/-- The first section with a target SSRC, and its index. -/
def findTarget (s : Impl) (targetSsrc : UInt32) : Option (ℕ × MediaRuntimeState) :=
  let isTarget (current : MediaRuntimeState) : Bool :=
    decide (current.mapping.targetSsrc = targetSsrc)
  (s.media.find? isTarget).map fun current => (s.media.findIdx isTarget, current)

def buildRetransmission (s : Impl) (packet : List UInt8)
    (transportSequenceNumber : UInt16) : Impl × Except Text RetransmissionResult :=
  match parseRewriteableRtpPacket packet with
  | .error e => (s, .error e)
  | .ok parsed =>
      match s.findTarget parsed.header.ssrc with
      | none => (s, .error (ascii "whep retransmission target ssrc is unknown"))
      | some (index, current) =>
          let (next, result) := retransmit current packet parsed transportSequenceNumber
          ({ s with media := s.media.set index next }, result)

end Impl

end SimpleWebrtc.RtpRewriter
