import SimpleWebrtc.SdpAnswer
import SimpleWebrtc.RtpRewriter

/-!
# Configuration of the RTP rewriter

The configuration is recomputed from the publisher's offer and from what the
subscriber was answered. It fails where a section that was accepted has nothing
to forward in the new offer.
-/
namespace SimpleWebrtc.RewriterConfig
open Library Library.Text SdpSummary SdpCodecNegotiator SdpAnswer RewrittenExtensions RtpRewriter

structure WhepRtpRewriterTarget where
  subscriberOffer : WebrtcOfferSummary
  acceptedMlineIndexes : List Int := []
  acceptedMediaSources : List SdpAnswerMediaSource := []
deriving Repr, DecidableEq

def codecSupportsGenericNack (codec : CodecInfo) : Bool :=
  codec.rtcpFeedback.any fun feedback => iequals (trim isBlank feedback) (ascii "nack")

def findHeaderExtension (media : MediaSummary) (uri : Text) : Option RtpHeaderExtension :=
  media.headerExtensions.find? fun e => decide (0 < e.id ∧ e.id ≤ 255) && decide (e.uri = uri)

/-- The publisher's and the subscriber's payload types a retransmission codec
repairs. A primary codec has none. -/
def associatedPayloadTypes (subscriberMid : Text) (mapping : CodecPayloadTypeMapping) :
    Except Text (Option (UInt16 × UInt16)) :=
  match mapping.publisherAssociatedPayloadType with
  | none => .ok none
  | some publisher => do
      let subscriber ← orError
        (RewrittenExtensions.makeMediaError subscriberMid
          (ascii "rtx associated payload type mapping is incomplete"))
        mapping.subscriberAssociatedPayloadType
      ensure (publisher ≤ 127 ∧ subscriber ≤ 127)
        (RewrittenExtensions.makeMediaError subscriberMid
          (ascii "rtx associated payload type exceeds RTP range"))
      return some (publisher, subscriber)

/-- The runtime mapping of a negotiated one. A retransmission codec without a
repair SSRC is left out. -/
def makePayloadTypeMapping (subscriberMedia : MediaSummary) (targetRtxSsrc : UInt32)
    (mapping : CodecPayloadTypeMapping) : Except Text (Option PayloadTypeMapping) := do
  let makeError := RewrittenExtensions.makeMediaError subscriberMedia.mid
  ensure (mapping.publisherPayloadType ≤ 127 ∧ mapping.subscriberPayloadType ≤ 127)
    (makeError (ascii "payload type exceeds RTP range"))
  let rtx := mapping.publisherAssociatedPayloadType.isSome
  if rtx = true ∧ targetRtxSsrc = 0 then return none
  else
    let associated ← associatedPayloadTypes subscriberMedia.mid mapping
    let clockRatePayloadType := (associated.map Prod.snd).getD mapping.subscriberPayloadType
    let targetCodec ← orError (makeError (ascii "codec clock rate mapping is missing"))
      ((findSelectedCodecByPayloadType subscriberMedia.codecs clockRatePayloadType).filter
        fun codec => codec.clockRate != 0)
    return some {
      sourcePayloadType := mapping.publisherPayloadType.toUInt8
      targetPayloadType := mapping.subscriberPayloadType.toUInt8
      clockRate := targetCodec.clockRate
      codecName := targetCodec.name
      rtx := rtx
      nack := !rtx && codecSupportsGenericNack targetCodec
      sourceAssociatedPayloadType := ((associated.map Prod.fst).getD 0).toUInt8
      targetAssociatedPayloadType := ((associated.map Prod.snd).getD 0).toUInt8 }

def addHeaderExtensionMapping (publisherMedia : MediaSummary) (mapping : MediaMapping)
    (target : RtpHeaderExtension) : Except Text MediaMapping :=
  if target.uri = RewrittenExtensions.kTransportWideCcExtensionUri then
    .ok { mapping with targetTransportCcExtensionId := UInt8.ofNat target.id.toNat }
  else match findHeaderExtension publisherMedia target.uri with
    | none => .error (RewrittenExtensions.makeMediaError mapping.targetMid
        (ascii "publisher header extension mapping is missing"))
    | some source =>
        .ok { mapping with
          headerExtensions := mapping.headerExtensions ++
            [⟨UInt8.ofNat source.id.toNat, UInt8.ofNat target.id.toNat, target.uri⟩] }

def subscriberMediaAt (offer : WebrtcOfferSummary) (mlineIndex : Int) : Option MediaSummary :=
  if mlineIndex < 0 then none else offer.media[mlineIndex.toNat]?

def makeMediaMapping (publisherOffer subscriberOffer : WebrtcOfferSummary)
    (accepted : Int × SdpAnswerMediaSource) : Except Text MediaMapping := do
  let (mlineIndex, mediaSource) := accepted
  let subscriberMedia ← orError (ascii "whep rtp accepted media mline index is invalid")
    (subscriberMediaAt subscriberOffer mlineIndex)
  let makeError := RewrittenExtensions.makeMediaError subscriberMedia.mid
  ensure (mediaSource.ssrc ≠ 0) (makeError (ascii "target ssrc is zero"))
  ensure (mediaSource.mid = subscriberMedia.mid ∧ mediaSource.kind = subscriberMedia.kind)
    (makeError (ascii "answer media source does not match subscriber media"))
  let publisherMedia ← orError (makeError (ascii "publisher media mapping is missing"))
    (findWhepForwardedPublisherMedia subscriberMedia mlineIndex.toNat subscriberOffer
      publisherOffer)
  let codecMappings ←
    (negotiateCodecPayloadTypeMappings subscriberMedia publisherMedia).mapError makeError
  let payloadTypes ←
    codecMappings.mapM (makePayloadTypeMapping subscriberMedia mediaSource.rtxRepairSsrc)
  let payloadTypes := payloadTypes.filterMap id
  ensure ((payloadTypes.any fun p => !p.rtx) = true)
    (makeError (ascii "primary payload type mapping is missing"))
  (selectWhepAnswerHeaderExtensions subscriberMedia publisherMedia).foldlM
    (addHeaderExtensionMapping publisherMedia)
    { kind := subscriberMedia.kind
      sourceMid := publisherMedia.mid
      targetMid := subscriberMedia.mid
      targetSsrc := mediaSource.ssrc
      targetRtxSsrc := mediaSource.rtxRepairSsrc
      targetExtmapAllowMixed := subscriberMedia.extmapAllowMixed
      payloadTypes := payloadTypes }

def makeWhepRtpRewriterConfig (publisherSessionId : Text) (publisherOffer : WebrtcOfferSummary)
    (target : WhepRtpRewriterTarget) : Except Text RtpRewriter.RewriterConfig := do
  ensure (publisherSessionId ≠ []) (ascii "whep rtp publisher session id is empty")
  ensure (target.acceptedMlineIndexes.length = target.acceptedMediaSources.length)
    (ascii "whep rtp accepted media indexes and sources size mismatch")
  let media ← (target.acceptedMlineIndexes.zip target.acceptedMediaSources).mapM
    (makeMediaMapping publisherOffer target.subscriberOffer)
  ensure (media ≠ []) (ascii "whep rtp rewriter has no accepted media")
  return ⟨publisherSessionId, media⟩

end SimpleWebrtc.RewriterConfig
