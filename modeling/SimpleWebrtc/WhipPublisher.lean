import SimpleWebrtc.Library.AgreementMap
import SimpleWebrtc.SdpOfferValidator
import SimpleWebrtc.SdpAnswer

/-!
# Publishers

What a publisher's transport is configured with: for every payload type the
codec context its packets are taken to have, and whether RTCP may be sent. The
offer that is handed to the transport has the accepted sections only, while the
indexes beside it count the sections of the original offer.
-/
namespace SimpleWebrtc.WhipPublisher
open Library Library.Text SdpSummary SdpOfferValidator SdpAnswer

structure InboundPayloadTypeContext where
  kind : Text
  clockRate : UInt32 := 0
  rtcpRsize : Bool := false
  transportCcEnabled : Bool := false
  transportCcExtensionId : UInt8 := 0
deriving Repr, DecidableEq

/-- The part of the transport's state that the remote media sets. -/
structure RemoteMedia where
  inboundPayloadTypes : AssocMap UInt8 InboundPayloadTypeContext
  transportFeedbackEnabled : Bool
  rtcpMuxEnabled : Bool
deriving DecidableEq

def findTransportCcExtensionId (media : MediaSummary) : Option UInt8 :=
  (media.headerExtensions.find? fun e =>
    decide (0 < e.id ∧ e.id ≤ 255) && directionMatches true e.direction &&
      decide (e.uri = kTransportWideCcExtensionUri)).map fun e => UInt8.ofNat e.id.toNat

def codecOffersTransportCc (codec : CodecInfo) : Bool :=
  codec.rtcpFeedback.any fun feedback => iequals (trim isSpace feedback) (ascii "transport-cc")

def makeInboundContext (media : MediaSummary) (codec : CodecInfo) : InboundPayloadTypeContext :=
  let extensionId := findTransportCcExtensionId media
  let transportCcEnabled := extensionId.isSome && codecOffersTransportCc codec
  { kind := media.kind
    clockRate := codec.clockRate
    rtcpRsize := media.rtcpRsize
    transportCcEnabled := transportCcEnabled
    transportCcExtensionId := if transportCcEnabled then extensionId.getD 0 else 0 }

/-- The contexts a section gives to its payload types. -/
def inboundContexts (media : MediaSummary) : List (UInt8 × InboundPayloadTypeContext) :=
  (media.codecs.filter fun codec =>
    decide (codec.payloadType ≤ 127) && decide (codec.clockRate ≠ 0)).map fun codec =>
      (codec.payloadType.toUInt8, makeInboundContext media codec)

/-- The sections at the accepted indexes. An index with no section, or one
whose section has no codec, is skipped. -/
def configuredMedia (remoteOffer : WebrtcOfferSummary) (acceptedMlineIndexes : List ℕ) :
    List MediaSummary :=
  (acceptedMlineIndexes.filterMap fun index => remoteOffer.media[index]?).filter fun media =>
    !media.codecs.isEmpty

/-- A payload type that two codecs give different contexts is left out. -/
def configureRemoteMedia (remoteOffer : WebrtcOfferSummary) (acceptedMlineIndexes : List ℕ) :
    RemoteMedia :=
  let media := configuredMedia remoteOffer acceptedMlineIndexes
  let payloadTypes := (AgreementMap.ofEntries (media.flatMap inboundContexts)).values
  { inboundPayloadTypes := payloadTypes
    transportFeedbackEnabled := payloadTypes.entries.any fun e => e.2.transportCcEnabled
    rtcpMuxEnabled := !media.isEmpty && media.all MediaSummary.rtcpMux }

structure CreatedPublisher where
  offer : WebrtcOfferSummary
  answer : BuiltSdpAnswer
  runtimeOffer : WebrtcOfferSummary
  remoteMedia : RemoteMedia
deriving DecidableEq

/-- The session keeps the filtered offer and configures its transport from it. -/
def completeInitialSetup (runtimeOffer : WebrtcOfferSummary) (acceptedMlineIndexes : List ℕ) :
    RemoteMedia :=
  configureRemoteMedia runtimeOffer acceptedMlineIndexes

def createPublisher (description : SessionDescription) (options : SdpAnswerOptions) :
    Except Text CreatedPublisher := do
  let offer ← extractWebrtcOfferSummary description
  validateWhipOffer offer
  let answer ← buildWhipAnswer offer options
  let runtimeOffer ← makeOfferSummary offer answer.acceptedMlineIndexes
  return {
    offer
    answer
    runtimeOffer
    remoteMedia := completeInitialSetup runtimeOffer answer.acceptedMlineIndexes }

end SimpleWebrtc.WhipPublisher
