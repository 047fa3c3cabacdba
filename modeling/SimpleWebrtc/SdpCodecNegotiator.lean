import SimpleWebrtc.SdpSummary
import SimpleWebrtc.H264Fmtp
import Mathlib.Data.List.Sort

/-!
# Codec negotiation

The codecs an answer takes from an offered section, alone or against the
publisher's section it forwards, and the payload types of the two sides that
carry the same codec. Retransmission codecs follow the primary codecs they
repair.
-/
namespace SimpleWebrtc.SdpCodecNegotiator
open Library Library.Text SdpSummary H264Fmtp

def kLocalH264Fmtp : Text :=
  ascii "level-asymmetry-allowed=1;packetization-mode=1;profile-level-id=42e01f"

def makeMediaError (media : MediaSummary) (message : Text) : Text :=
  ascii "media mid " ++ media.mid ++ ascii " " ++ message

def isOpusCodec (codec : CodecInfo) : Bool :=
  iequals codec.name (ascii "opus") && decide (codec.clockRate = 48000) &&
    (codec.encodingParameters.isEmpty || decide (codec.encodingParameters = ascii "2"))

def isVp8Codec (codec : CodecInfo) : Bool :=
  iequals codec.name (ascii "VP8") && decide (codec.clockRate = 90000)

def isRtxCodec (codec : CodecInfo) : Bool :=
  iequals codec.name (ascii "rtx") && decide (codec.clockRate = 90000)

def parsePayloadTypeText (value : Text) : Option UInt16 :=
  match readUInt32 (trim isBlank value) with
  | some payloadType => if payloadType ≤ 127 then some payloadType.toUInt16 else none
  | none => none

/-- The trimmed key and value of one `key=value` item. -/
def keyValue (part : Text) : Option (Text × Text) :=
  (cut (fun c => decide (c = 61)) (trim isBlank part)).map fun (key, value) =>
    (trim isBlank key, trim isBlank value)

def findFmtpParameter (fmtp key : Text) : Option Text :=
  (splitOnByte 59 fmtp).findSome? fun part =>
    match keyValue part with
    | some (itemKey, itemValue) => if iequals itemKey key then some itemValue else none
    | none => none

def findCodecAptPayloadType (codec : CodecInfo) : Option UInt16 :=
  (findFmtpParameter codec.fmtp (ascii "apt")).bind parsePayloadTypeText

def normalizeH264AnswerFmtp (offerFmtp : Text) : Option Text :=
  (negotiateH264FmtpForAnswer offerFmtp kLocalH264Fmtp).toOption

def isH264Codec (codec : CodecInfo) : Bool :=
  iequals codec.name (ascii "H264") && decide (codec.clockRate = 90000) &&
    (normalizeH264AnswerFmtp codec.fmtp).isSome

def isSupportedAudioCodec (codec : CodecInfo) : Bool := isOpusCodec codec

def isSupportedVideoCodec (codec : CodecInfo) : Bool := isVp8Codec codec || isH264Codec codec

def isSupportedCodec (media : MediaSummary) (codec : CodecInfo) : Bool :=
  if media.kind = kAudio then isSupportedAudioCodec codec
  else if media.kind = kVideo then isSupportedVideoCodec codec
  else false

def parseOpusFmtpU32 (value key : Text) : Except Text UInt32 :=
  let value := trim isBlank value
  if value = [] then .error (ascii "opus fmtp " ++ key ++ ascii " is empty")
  else orError (ascii "opus fmtp " ++ key ++ ascii " is invalid") (readUInt32 value)

def parseOpusFmtpParameter (item : Text) : Except Text (Text × Text) := do
  let (key, value) ←
    orError (ascii "opus fmtp parameter is missing value") (keyValue item)
  ensure (key ≠ []) (ascii "opus fmtp parameter key is empty")
  ensure (value ≠ []) (ascii "opus fmtp parameter value is empty")
  return (toLower key, value)

def parseOpusFmtpParameters (fmtp : Text) : Except Text (List (Text × Text)) :=
  let items := (splitOnByte 59 fmtp).filter fun part => !(trim isBlank part).isEmpty
  items.mapM parseOpusFmtpParameter

def findUniqueOpusFmtpParameter (parameters : List (Text × Text)) (key : Text) :
    Except Text (Option Text) :=
  match parameters.filter fun p => iequals p.1 key with
  | [] => .ok none
  | [p] => .ok (some p.2)
  | _ => .error (ascii "opus fmtp parameter duplicated: " ++ key)

def appendNormalizedOpusFmtpParameter (result key value : Text) : Text :=
  (if result = [] then [] else result ++ ascii ";") ++ key ++ ascii "=" ++ value

def appendBooleanOpusFmtpParameter (parameters : List (Text × Text)) (key result : Text) :
    Except Text Text := do
  match ← findUniqueOpusFmtpParameter parameters key with
  | none => return result
  | some value =>
      ensure (value = ascii "0" ∨ value = ascii "1")
        (ascii "opus fmtp " ++ key ++ ascii " must be 0 or 1")
      return appendNormalizedOpusFmtpParameter result key value

def appendU32OpusFmtpParameter (parameters : List (Text × Text)) (key : Text)
    (minimum maximum : UInt32) (result : Text) : Except Text Text := do
  match ← findUniqueOpusFmtpParameter parameters key with
  | none => return result
  | some value =>
      let parsed ← parseOpusFmtpU32 value key
      ensure (minimum ≤ parsed ∧ parsed ≤ maximum)
        (ascii "opus fmtp " ++ key ++ ascii " is out of range")
      return appendNormalizedOpusFmtpParameter result key (decimal parsed.toNat)

def normalizeOpusFmtp (fmtp : Text) : Except Text Text := do
  if fmtp = [] then return []
  else
    let parameters ← parseOpusFmtpParameters fmtp
    let normalized ← appendU32OpusFmtpParameter parameters (ascii "minptime") 3 120 []
    let normalized ← appendBooleanOpusFmtpParameter parameters (ascii "useinbandfec") normalized
    let normalized ← appendBooleanOpusFmtpParameter parameters (ascii "usedtx") normalized
    let normalized ← appendBooleanOpusFmtpParameter parameters (ascii "stereo") normalized
    let normalized ← appendBooleanOpusFmtpParameter parameters (ascii "sprop-stereo") normalized
    let normalized ←
      appendU32OpusFmtpParameter parameters (ascii "maxplaybackrate") 8000 48000 normalized
    let normalized ←
      appendU32OpusFmtpParameter parameters (ascii "sprop-maxcapturerate") 8000 48000 normalized
    let normalized ←
      appendU32OpusFmtpParameter parameters (ascii "maxaveragebitrate") 6000 510000 normalized
    appendBooleanOpusFmtpParameter parameters (ascii "cbr") normalized

def CodecInfo.withFmtp (codec : CodecInfo) (fmtp : Text) : CodecInfo := { codec with fmtp := fmtp }

/-- The codec as an answer gives it back. An audio codec that is supported is
Opus, and a video codec keeps its parameters unless it is H264. -/
def normalizeSupportedCodec (media : MediaSummary) (codec : CodecInfo) : Option CodecInfo :=
  if isSupportedCodec media codec = false then none
  else if media.kind = kAudio ∧ isOpusCodec codec = true then
    (normalizeOpusFmtp codec.fmtp).toOption.map (CodecInfo.withFmtp codec)
  else if media.kind = kVideo ∧ isH264Codec codec = true then
    (normalizeH264AnswerFmtp codec.fmtp).map (CodecInfo.withFmtp codec)
  else some codec

def codecAnswerPreferenceRank (media : MediaSummary) (codec : CodecInfo) : ℕ :=
  if media.kind = kAudio then if isOpusCodec codec then 0 else 100
  else if media.kind = kVideo then
    if isVp8Codec codec then 0 else if isH264Codec codec then 10 else 100
  else 100

def sortPrimaryCodecsByAnswerPreference (media : MediaSummary) (codecs : List CodecInfo) :
    List CodecInfo :=
  codecs.insertionSort fun left right =>
    codecAnswerPreferenceRank media left ≤ codecAnswerPreferenceRank media right

def mediaCanSend (media : MediaSummary) : Bool :=
  decide (media.direction = .sendOnly) || decide (media.direction = .sendRecv)

def mediaCanReceive (media : MediaSummary) : Bool :=
  decide (media.direction = .recvOnly) || decide (media.direction = .sendRecv)

def codecEncodingParametersAreCompatible (publisher subscriber : Text) : Bool :=
  publisher.isEmpty || subscriber.isEmpty || decide (publisher = subscriber)

def h264CodecsAreCompatible (publisher subscriber : CodecInfo) : Bool :=
  (checkH264FmtpRelayCompatibility publisher.fmtp subscriber.fmtp).toOption.getD false

def codecsAreCompatible (publisher subscriber : CodecInfo) : Bool :=
  iequals publisher.name subscriber.name && decide (publisher.clockRate = subscriber.clockRate) &&
    codecEncodingParametersAreCompatible publisher.encodingParameters
      subscriber.encodingParameters &&
    (!isH264Codec publisher || h264CodecsAreCompatible publisher subscriber)

/-- Whether a codec of the publisher is one the section lists, supports and
can be forwarded as the subscriber's codec. -/
def publisherCodecMatches (publisherMedia : MediaSummary) (subscriberCodec : CodecInfo)
    (publisherCodec : CodecInfo) : Bool :=
  decide (publisherCodec.payloadType ∈ publisherMedia.payloadTypes) &&
    match normalizeSupportedCodec publisherMedia publisherCodec with
    | none => false
    | some normalized => codecsAreCompatible normalized subscriberCodec

def hasCompatiblePublisherCodec (publisherMedia : MediaSummary) (subscriberCodec : CodecInfo) :
    Bool :=
  publisherMedia.codecs.any (publisherCodecMatches publisherMedia subscriberCodec)

def findSelectedCodecByPayloadType (codecs : List CodecInfo) (payloadType : UInt16) :
    Option CodecInfo :=
  codecs.find? fun codec => decide (codec.payloadType = payloadType)

def findCompatiblePublisherPrimaryCodec (publisherMedia : MediaSummary)
    (subscriberCodec : CodecInfo) : Option CodecInfo :=
  publisherMedia.codecs.find? fun codec =>
    !isRtxCodec codec && publisherCodecMatches publisherMedia subscriberCodec codec

def findRtxCodecForApt (media : MediaSummary) (aptPayloadType : UInt16) : Option CodecInfo :=
  media.codecs.find? fun codec =>
    decide (codec.payloadType ∈ media.payloadTypes) && isRtxCodec codec &&
      decide (findCodecAptPayloadType codec = some aptPayloadType)

def mediaHasRtxCodecForApt (media : MediaSummary) (aptPayloadType : UInt16) : Bool :=
  (findRtxCodecForApt media aptPayloadType).isSome

/-- The selected codec an offered retransmission codec repairs. -/
def rtxPrimary (media : MediaSummary) (rtxCodec : CodecInfo) (selected : List CodecInfo) :
    Option CodecInfo :=
  if media.kind = kVideo ∧ isRtxCodec rtxCodec = true ∧ rtxCodec.payloadType ∈ media.payloadTypes
  then (findCodecAptPayloadType rtxCodec).bind (findSelectedCodecByPayloadType selected)
  else none

def rtxCodecIsAnswerable (subscriberMedia publisherMedia : MediaSummary)
    (selected : List CodecInfo) (rtxCodec : CodecInfo) : Bool :=
  decide (publisherMedia.kind = kVideo) &&
    match (rtxPrimary subscriberMedia rtxCodec selected).bind
        (findCompatiblePublisherPrimaryCodec publisherMedia) with
    | none => false
    | some publisherPrimary => mediaHasRtxCodecForApt publisherMedia publisherPrimary.payloadType

def rtxCodecIsAnswerableForOffer (offerMedia : MediaSummary) (selected : List CodecInfo)
    (rtxCodec : CodecInfo) : Bool :=
  match rtxPrimary offerMedia rtxCodec selected with
  | none => false
  | some primary => !isRtxCodec primary

/-- Appends the offered codecs that are answerable beside those selected so far. -/
def appendAnswerable (answerable : List CodecInfo → CodecInfo → Bool) (selected : List CodecInfo)
    (offered : List CodecInfo) : List CodecInfo :=
  offered.foldl (fun selected codec =>
    if answerable selected codec then selected ++ [codec] else selected) selected

def validateOfferMedia (media : MediaSummary) : Except Text Unit := do
  ensure (media.kind = kAudio ∨ media.kind = kVideo)
    (makeMediaError media (ascii "has unsupported kind"))
  ensure (media.mid ≠ []) (ascii "media mid is empty")
  ensure (media.payloadTypes ≠ []) (makeMediaError media (ascii "has no payload types"))
  ensure (media.codecs ≠ []) (makeMediaError media (ascii "has no codecs"))

def normalizeListedCodec (media : MediaSummary) (codec : CodecInfo) : Option CodecInfo :=
  if codec.payloadType ∈ media.payloadTypes then normalizeSupportedCodec media codec else none

/-- What an answer takes from an offered section by itself. -/
def negotiateOfferCodecs (offerMedia : MediaSummary) : Except Text (List CodecInfo) := do
  validateOfferMedia offerMedia
  let selected := offerMedia.codecs.filterMap (normalizeListedCodec offerMedia)
  ensure (selected ≠ []) (makeMediaError offerMedia (ascii "has no supported codecs"))
  return appendAnswerable (rtxCodecIsAnswerableForOffer offerMedia)
    (sortPrimaryCodecsByAnswerPreference offerMedia selected) offerMedia.codecs

/-- What an answer takes from a subscriber's section that forwards a publisher's. -/
def negotiateCodecs (subscriberMedia publisherMedia : MediaSummary) :
    Except Text (List CodecInfo) := do
  validateOfferMedia subscriberMedia
  validateOfferMedia publisherMedia
  ensure (subscriberMedia.kind = publisherMedia.kind)
    (makeMediaError subscriberMedia (ascii "publisher media kind does not match"))
  ensure (mediaCanSend publisherMedia = true)
    (makeMediaError subscriberMedia (ascii "publisher media is not send-capable"))
  let selected := (subscriberMedia.codecs.filterMap (normalizeListedCodec subscriberMedia)).filter
    (hasCompatiblePublisherCodec publisherMedia)
  ensure (selected ≠ [])
    (makeMediaError subscriberMedia (ascii "has no publisher-compatible codecs"))
  return appendAnswerable (rtxCodecIsAnswerable subscriberMedia publisherMedia)
    (sortPrimaryCodecsByAnswerPreference subscriberMedia selected) subscriberMedia.codecs

structure CodecPayloadTypeMapping where
  publisherPayloadType : UInt16 := 0
  subscriberPayloadType : UInt16 := 0
  publisherAssociatedPayloadType : Option UInt16 := none
  subscriberAssociatedPayloadType : Option UInt16 := none
deriving Repr, DecidableEq

def primaryPayloadTypeMapping (subscriberMedia publisherMedia : MediaSummary)
    (subscriberCodec : CodecInfo) : Except Text CodecPayloadTypeMapping := do
  let publisherCodec ← orError
    (makeMediaError subscriberMedia
      (ascii "selected codec has no publisher payload type mapping"))
    (findCompatiblePublisherPrimaryCodec publisherMedia subscriberCodec)
  return {
    publisherPayloadType := publisherCodec.payloadType
    subscriberPayloadType := subscriberCodec.payloadType }

/-- Adds the mapping of a retransmission codec, which repairs a payload type
mapped before. -/
def addRtxPayloadTypeMapping (subscriberMedia publisherMedia : MediaSummary)
    (mappings : List CodecPayloadTypeMapping) (subscriberCodec : CodecInfo) :
    Except Text (List CodecPayloadTypeMapping) := do
  let apt ← orError (makeMediaError subscriberMedia (ascii "selected rtx codec has no apt"))
    (findCodecAptPayloadType subscriberCodec)
  let primary ← orError
    (makeMediaError subscriberMedia (ascii "selected rtx codec primary mapping is missing"))
    (mappings.find? fun m => decide (m.subscriberPayloadType = apt) &&
      m.subscriberAssociatedPayloadType.isNone)
  let publisherRtx ← orError
    (makeMediaError subscriberMedia
      (ascii "selected rtx codec has no publisher payload type mapping"))
    (findRtxCodecForApt publisherMedia primary.publisherPayloadType)
  return mappings ++ [{
    publisherPayloadType := publisherRtx.payloadType
    subscriberPayloadType := subscriberCodec.payloadType
    publisherAssociatedPayloadType := some primary.publisherPayloadType
    subscriberAssociatedPayloadType := some primary.subscriberPayloadType }]

def negotiateCodecPayloadTypeMappings (subscriberMedia publisherMedia : MediaSummary) :
    Except Text (List CodecPayloadTypeMapping) := do
  let selected ← negotiateCodecs subscriberMedia publisherMedia
  let primary ← (selected.filter fun codec => !isRtxCodec codec).mapM
    (primaryPayloadTypeMapping subscriberMedia publisherMedia)
  (selected.filter isRtxCodec).foldlM
    (addRtxPayloadTypeMapping subscriberMedia publisherMedia) primary

end SimpleWebrtc.SdpCodecNegotiator
