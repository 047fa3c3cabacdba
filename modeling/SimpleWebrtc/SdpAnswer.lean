import SimpleWebrtc.SdpCodecNegotiator

/-!
# Answers

The answer to an offer: one section for every audio or video section, rejected
or with the codecs, header extensions and feedback it accepts. A subscriber's
section is matched to the publisher's section it forwards by its position among
the sections of its kind.
-/
namespace SimpleWebrtc.SdpAnswer
open Library Library.Text SdpSummary SdpCodecNegotiator

def kRtpMidExtensionUri : Text := ascii "urn:ietf:params:rtp-hdrext:sdes:mid"
def kTransportWideCcExtensionUri : Text :=
  ascii "http://www.ietf.org/id/draft-holmer-rmcat-transport-wide-cc-extensions-01"
def kAudioLevelExtensionUri : Text := ascii "urn:ietf:params:rtp-hdrext:ssrc-audio-level"

structure SdpAnswerMediaSource where
  mid : Text := []
  kind : Text := []
  ssrc : UInt32 := 0
  rtxRepairSsrc : UInt32 := 0
  cname : Text := []
deriving Repr, DecidableEq

structure SdpAnswerOptions where
  sessionId : UInt64 := 1
  sessionVersion : UInt64 := 1
  localIceUfrag : Text := []
  localIcePwd : Text := []
  localFingerprint : FingerprintInfo := {}
  localCandidateAddresses : List Text := []
  localCandidatePort : UInt16 := 0
  localStreamId : Text := ascii "-"
  mediaSources : List SdpAnswerMediaSource := []
deriving Repr, DecidableEq

structure BuiltSdpAnswer where
  description : SessionDescription
  acceptedMlineIndexes : List ℕ
deriving Repr, DecidableEq

def containsWhitespace (value : Text) : Bool :=
  value.any fun c => decide (c = 32) || decide (c = 9) || decide (c = 13) || decide (c = 10)

def validateToken (value name : Text) : Except Text Unit := do
  ensure (value ≠ []) (name ++ ascii " is empty")
  ensure (containsWhitespace value = false) (name ++ ascii " contains whitespace")

def validateCandidateAddresses (index : ℕ) : List Text → Except Text Unit
  | [] => .ok ()
  | address :: rest => do
      validateToken address (ascii "local candidate " ++ decimal index ++ ascii " address")
      validateCandidateAddresses (index + 1) rest

def validateCandidateOptions (options : SdpAnswerOptions) : Except Text Unit := do
  ensure (options.localCandidateAddresses ≠ []) (ascii "local candidate address list is empty")
  ensure (options.localCandidatePort ≠ 0) (ascii "local candidate port is zero")
  validateCandidateAddresses 0 options.localCandidateAddresses

def validateOptions (options : SdpAnswerOptions) : Except Text Unit := do
  validateToken options.localIceUfrag (ascii "local ice-ufrag")
  validateToken options.localIcePwd (ascii "local ice-pwd")
  validateToken options.localFingerprint.algorithm (ascii "local fingerprint algorithm")
  validateToken options.localFingerprint.value (ascii "local fingerprint value")
  validateToken options.localStreamId (ascii "local stream id")
  validateCandidateOptions options

def makeBundleGroupValue (offer : WebrtcOfferSummary) (acceptedMlineIndexes : List ℕ) : Text :=
  ascii "BUNDLE" ++ acceptedMlineIndexes.flatMap fun index =>
    ascii " " ++ ((offer.media[index]?).map MediaSummary.mid).getD []

def isAnswerMediaRejected (media : MediaDescription) : Bool := decide (media.mediaName.port = 0)

def makeAnswerDirection (isWhep : Bool) (media : MediaSummary) : MediaDirection :=
  if media.direction = .inactive then .inactive
  else if isWhep then .sendOnly else .recvOnly

def sendCapableMediaByKind (offer : WebrtcOfferSummary) (kind : Text) : List MediaSummary :=
  offer.media.filter fun media => decide (media.kind = kind) && mediaCanSend media

def receiveCapableMediaByKind (offer : WebrtcOfferSummary) (kind : Text) : List MediaSummary :=
  offer.media.filter fun media => decide (media.kind = kind) && mediaCanReceive media

/-- The position of the section at an index among those of a kind that can
receive. -/
def receiveCapableOrdinal (kind : Text) : List MediaSummary → ℕ → ℕ → Option ℕ
  | [], _, _ => none
  | media :: _, 0, ordinal =>
      if media.kind = kind ∧ mediaCanReceive media = true then some ordinal else none
  | media :: rest, index + 1, ordinal =>
      receiveCapableOrdinal kind rest index
        (if media.kind = kind ∧ mediaCanReceive media = true then ordinal + 1 else ordinal)

/-- The publisher's section that the subscriber's section at an index forwards. -/
def findWhepForwardedPublisherMedia (subscriberMedia : MediaSummary) (subscriberIndex : ℕ)
    (subscriberOffer publisherOffer : WebrtcOfferSummary) : Option MediaSummary := do
  guard (mediaCanReceive subscriberMedia = true)
  let ordinal ← receiveCapableOrdinal subscriberMedia.kind subscriberOffer.media subscriberIndex 0
  let subscriberCount := (receiveCapableMediaByKind subscriberOffer subscriberMedia.kind).length
  let publisherMedia := sendCapableMediaByKind publisherOffer subscriberMedia.kind
  guard (subscriberCount ≠ 0 ∧ subscriberCount = publisherMedia.length)
  publisherMedia[ordinal]?

def mediaHasAnswerableRid (direction : Text) (media : MediaSummary) (rid : Text) : Bool :=
  !rid.isEmpty &&
    match media.rids.find? fun current => decide (current.id = rid) with
    | none => false
    | some current =>
        decide (current.direction = direction) || decide (current.direction = ascii "sendrecv")

def mediaHasAnswerableSendRid : MediaSummary → Text → Bool := mediaHasAnswerableRid (ascii "send")
def mediaHasAnswerableRecvRid : MediaSummary → Text → Bool := mediaHasAnswerableRid (ascii "recv")

def makeFingerprintValue (fingerprint : FingerprintInfo) : Text :=
  fingerprint.algorithm ++ ascii " " ++ fingerprint.value

def payloadTypeText (payloadType : UInt16) : Text := decimal payloadType.toNat

def makeRtpMapValue (codec : CodecInfo) : Text :=
  payloadTypeText codec.payloadType ++ ascii " " ++ codec.name ++ ascii "/" ++
    decimal codec.clockRate.toNat ++
    if codec.encodingParameters = [] then [] else ascii "/" ++ codec.encodingParameters

def makeFmtpValue (codec : CodecInfo) : Text :=
  payloadTypeText codec.payloadType ++ ascii " " ++ codec.fmtp

def makeRtcpFeedbackValue (codec : CodecInfo) (feedback : Text) : Text :=
  payloadTypeText codec.payloadType ++ ascii " " ++ feedback

def normalizeRtcpFeedbackValue (feedback : Text) : Text :=
  join (ascii " ") ((fields isSpace feedback).map toLower)

def rtcpFeedbackIsSupportedForAnswerMedia (mediaKind feedback : Text)
    (genericNackEnabled transportCcEnabled : Bool) : Bool :=
  let normalized := normalizeRtcpFeedbackValue feedback
  if transportCcEnabled = true ∧ normalized = ascii "transport-cc" then
    decide (mediaKind = kAudio) || decide (mediaKind = kVideo)
  else if mediaKind ≠ kVideo then false
  else (genericNackEnabled && decide (normalized = ascii "nack")) ||
    decide (normalized = ascii "nack pli") || decide (normalized = ascii "ccm fir")

def isSupportedAnswerHeaderExtensionUri (kind uri : Text) (transportCcEnabled : Bool) : Bool :=
  if transportCcEnabled = true ∧ uri = kTransportWideCcExtensionUri then
    decide (kind = kAudio) || decide (kind = kVideo)
  else if uri = kRtpMidExtensionUri then decide (kind = kAudio) || decide (kind = kVideo)
  else if uri = kRtpStreamIdExtensionUri then decide (kind = kVideo)
  else if uri = kAudioLevelExtensionUri then decide (kind = kAudio)
  else false

def makeExtmapValue (e : RtpHeaderExtension) : Text :=
  decimal e.id.toNat ++ ascii " " ++ e.uri

def idRequiresTwoByte (id : Int) : Bool := decide (15 ≤ id ∧ id ≤ 255)

def answersHeaderExtension (media : MediaSummary) (forwarded : Option MediaSummary)
    (transportCcEnabled : Bool) (e : RtpHeaderExtension) : Bool :=
  decide (0 < e.id ∧ e.id ≤ 255) && !e.uri.isEmpty &&
    isSupportedAnswerHeaderExtensionUri media.kind e.uri transportCcEnabled &&
    forwarded.all (fun publisher => decide (e.uri = kTransportWideCcExtensionUri) ||
      mediaHasHeaderExtensionUri publisher e.uri) &&
    (!idRequiresTwoByte e.id || media.extmapAllowMixed)

def selectAnswerHeaderExtensions (media : MediaSummary) (forwarded : Option MediaSummary)
    (transportCcEnabled : Bool) : List RtpHeaderExtension :=
  media.headerExtensions.filter (answersHeaderExtension media forwarded transportCcEnabled)

def headerExtensionAttributes (media : MediaSummary) (forwarded : Option MediaSummary)
    (transportCcEnabled : Bool) : List SdpAttribute :=
  let selected := selectAnswerHeaderExtensions media forwarded transportCcEnabled
  selected.map (fun e => ⟨ascii "extmap", makeExtmapValue e⟩) ++
    if selected.any fun e => idRequiresTwoByte e.id then [{ key := ascii "extmap-allow-mixed" }]
    else []

/-- The rids of a list that pass, without repetitions. -/
def collectRids (answerable : Text → Bool) (rids : List Text) : List Text :=
  rids.foldl (fun collected rid =>
    if answerable rid && !decide (rid ∈ collected) then collected ++ [rid] else collected) []

def simulcastAttributes (direction : Text) (rids : List Text) : List SdpAttribute :=
  if rids = [] then []
  else rids.map (fun rid => ⟨ascii "rid", rid ++ ascii " " ++ direction⟩) ++
    [⟨ascii "simulcast", direction ++ ascii " " ++ join (ascii ";") rids⟩]

def collectAnswerableWhepSimulcastRids (subscriberMedia publisherMedia : MediaSummary) :
    List Text :=
  match subscriberMedia.simulcast, publisherMedia.simulcast with
  | some subscriber, some publisher =>
      if subscriberMedia.kind = kVideo ∧ publisherMedia.kind = kVideo ∧
          mediaHasHeaderExtensionUri subscriberMedia kRtpStreamIdExtensionUri = true ∧
          mediaHasHeaderExtensionUri publisherMedia kRtpStreamIdExtensionUri = true then
        collectRids (fun rid => mediaHasAnswerableRecvRid subscriberMedia rid &&
          mediaHasAnswerableSendRid publisherMedia rid && decide (rid ∈ publisher.sendRids))
          subscriber.recvRids
      else []
  | _, _ => []

def collectAnswerableWhipSimulcastRids (media : MediaSummary) : List Text :=
  match media.simulcast with
  | none => []
  | some simulcast =>
      if media.kind = kVideo ∧ mediaHasHeaderExtensionUri media kRtpStreamIdExtensionUri = true then
        collectRids (mediaHasAnswerableSendRid media) simulcast.sendRids
      else []

def makeMsidValue (options : SdpAnswerOptions) (media : MediaSummary) : Text :=
  options.localStreamId ++ ascii " " ++ media.kind ++ ascii "-" ++ media.mid

def answerMediaSourceMatchesMedia (media : MediaSummary) (source : SdpAnswerMediaSource) : Bool :=
  decide (source.ssrc ≠ 0) && decide (source.mid = media.mid) && decide (source.kind = media.kind)

def findUniqueAnswerMediaSourceByKind (options : SdpAnswerOptions) (kind : Text) :
    Option SdpAnswerMediaSource :=
  match options.mediaSources.filter fun s => decide (s.ssrc ≠ 0) && decide (s.kind = kind) with
  | [source] => some source
  | _ => none

def findAnswerMediaSource (options : SdpAnswerOptions) (media forwarded : MediaSummary) :
    Option SdpAnswerMediaSource :=
  ((options.mediaSources.find? (answerMediaSourceMatchesMedia media)).orElse fun _ =>
    options.mediaSources.find? (answerMediaSourceMatchesMedia forwarded)).orElse fun _ =>
      findUniqueAnswerMediaSourceByKind options media.kind

def ssrcAttributes (ssrc : UInt32) (cname msid : Text) : List SdpAttribute :=
  [⟨ascii "ssrc", decimal ssrc.toNat ++ ascii " cname:" ++ cname⟩,
    ⟨ascii "ssrc", decimal ssrc.toNat ++ ascii " msid:" ++ msid⟩]

def mediaSourceAttributes (source : SdpAnswerMediaSource) (msid : Text)
    (includeRtxRepairSource : Bool) : List SdpAttribute :=
  ssrcAttributes source.ssrc source.cname msid ++
    if includeRtxRepairSource = false ∨ source.rtxRepairSsrc = 0 then []
    else ⟨ascii "ssrc-group", ascii "FID " ++ decimal source.ssrc.toNat ++ ascii " " ++
        decimal source.rtxRepairSsrc.toNat⟩ ::
      ssrcAttributes source.rtxRepairSsrc source.cname msid

def isRtxName (codec : CodecInfo) : Bool := iequals codec.name (ascii "rtx")

def removeUnimplementedAnswerCodecs (codecs : List CodecInfo) : List CodecInfo :=
  codecs.filter fun codec => !isRtxName codec

/-- Digits only; leading zeros do not count. -/
def parseFmtpPayloadType (value : Text) : Option UInt16 :=
  let value := trim isBlank value
  if value ≠ [] ∧ value.all isDigit = true ∧ decimalValue value ≤ 127 then
    some (UInt16.ofNat (decimalValue value))
  else none

def findRtxAptPayloadType (codec : CodecInfo) : Option UInt16 :=
  (findFmtpParameter codec.fmtp (ascii "apt")).bind parseFmtpPayloadType

def answerPrimaryPayloadTypeExists (codecs : List CodecInfo) (payloadType : UInt16) : Bool :=
  codecs.any fun codec => decide (codec.payloadType = payloadType) && !isRtxName codec

def answerCodecsIncludeUsableRtx (codecs : List CodecInfo) : Bool :=
  codecs.any fun codec => isRtxName codec && decide (codec.clockRate = 90000) &&
    match findRtxAptPayloadType codec with
    | none => false
    | some apt => answerPrimaryPayloadTypeExists codecs apt

def makeCandidateValue (address : Text) (port : UInt16) (index : ℕ) : Text :=
  decimal (index + 1) ++ ascii " 1 udp " ++
    decimal (2130706431 - UInt32.ofNat index).toNat ++ ascii " " ++ address ++ ascii " " ++
    decimal port.toNat ++ ascii " typ host"

/-- The feedback values one codec is answered with, without repetitions. The
values seen so far are those of its payload type. -/
def answeredFeedback (supported : Text → Bool) : List Text → List Text → List Text
  | _, [] => []
  | seen, feedback :: rest =>
      let normalized := normalizeRtcpFeedbackValue feedback
      if supported feedback = true ∧ normalized ∉ seen then
        normalized :: answeredFeedback supported (seen ++ [normalized]) rest
      else answeredFeedback supported seen rest

/-- The feedback of a payload type among attributes emitted before. -/
def emittedFeedback (emitted : List (UInt16 × Text)) (payloadType : UInt16) : List Text :=
  (emitted.filter fun e => decide (e.1 = payloadType)).map Prod.snd

def codecAttributesFrom (supported : Text → Bool) :
    List (UInt16 × Text) → List CodecInfo → List SdpAttribute
  | _, [] => []
  | emitted, codec :: rest =>
      let feedback := answeredFeedback supported (emittedFeedback emitted codec.payloadType)
        codec.rtcpFeedback
      ⟨ascii "rtpmap", makeRtpMapValue codec⟩ ::
        ((if codec.fmtp = [] then [] else [⟨ascii "fmtp", makeFmtpValue codec⟩]) ++
          feedback.map (fun f => ⟨ascii "rtcp-fb", makeRtcpFeedbackValue codec f⟩) ++
          codecAttributesFrom supported
            (emitted ++ feedback.map fun f => (codec.payloadType, f)) rest)

def codecAttributes (mediaKind : Text) (codecs : List CodecInfo)
    (genericNackEnabled transportCcEnabled : Bool) : List SdpAttribute :=
  codecAttributesFrom
    (fun feedback => rtcpFeedbackIsSupportedForAnswerMedia mediaKind feedback genericNackEnabled
      transportCcEnabled) [] codecs

def timeAttribute (key : Text) : Option UInt32 → List SdpAttribute
  | none => []
  | some time => [⟨key, decimal time.toNat⟩]

def mediaTimingAttributes (media : MediaSummary) : List SdpAttribute :=
  if media.kind ≠ kAudio then []
  else timeAttribute (ascii "ptime") media.ptime ++ timeAttribute (ascii "maxptime") media.maxptime

def iceCandidateAttributes (options : SdpAnswerOptions) : List SdpAttribute :=
  options.localCandidateAddresses.mapIdx (fun index address =>
    ⟨ascii "candidate", makeCandidateValue address options.localCandidatePort index⟩) ++
    [{ key := ascii "end-of-candidates" }]

def propertyIf (condition : Bool) (key : Text) : List SdpAttribute :=
  if condition then [{ key := key }] else []

def makeRejectedAnswerMedia (media : MediaSummary) : MediaDescription where
  mediaName :=
    { media := media.kind
      port := 0
      formats := if media.payloadTypes = [] then [ascii "0"]
        else media.payloadTypes.map payloadTypeText }
  connectionAddress := ascii "0.0.0.0"
  attributes := [⟨ascii "mid", media.mid⟩, { key := MediaDirection.inactive.toText }] ++
    propertyIf media.rtcpMux (ascii "rtcp-mux") ++ propertyIf media.rtcpRsize (ascii "rtcp-rsize")

/-- Whether an `extmap` direction lets the remote side use the extension. -/
def directionMatches (remoteSendsRtp : Bool) (direction : MediaDirection) : Bool :=
  decide (direction = .unknown) || decide (direction = .sendRecv) ||
    decide (direction = if remoteSendsRtp then .sendOnly else .recvOnly)

def mediaOffersTransportCc (media : MediaSummary) (codecs : List CodecInfo)
    (remoteSendsRtp : Bool) : Bool :=
  (media.headerExtensions.any fun e =>
    directionMatches remoteSendsRtp e.direction && decide (e.uri = kTransportWideCcExtensionUri)) &&
    codecs.any fun codec => codec.rtcpFeedback.any fun feedback =>
      decide (normalizeRtcpFeedbackValue feedback = ascii "transport-cc")

/-- The msid and ssrc attributes of a section that sends. -/
def sendingAttributes (options : SdpAnswerOptions) (media forwarded : MediaSummary)
    (codecs : List CodecInfo) : List SdpAttribute :=
  let msid := makeMsidValue options forwarded
  ⟨ascii "msid", msid⟩ ::
    match findAnswerMediaSource options media forwarded with
    | none => []
    | some source => mediaSourceAttributes source msid (answerCodecsIncludeUsableRtx codecs)

/-- A section that is accepted with the given codecs. `forwarded` is the
publisher's section it forwards; a section that receives has none. -/
def makeAcceptedAnswerMedia (options : SdpAnswerOptions) (media : MediaSummary)
    (forwarded : Option MediaSummary) (codecs : List CodecInfo) : MediaDescription :=
  let isWhep := forwarded.isSome
  let transportCcEnabled := mediaOffersTransportCc media codecs !isWhep
  { mediaName :=
      { media := media.kind
        port := 9
        formats := codecs.map fun codec => payloadTypeText codec.payloadType }
    connectionAddress := options.localCandidateAddresses.headD []
    attributes :=
      [⟨ascii "mid", media.mid⟩, { key := (makeAnswerDirection isWhep media).toText },
        { key := ascii "rtcp-mux" }] ++
      propertyIf media.rtcpRsize (ascii "rtcp-rsize") ++
      headerExtensionAttributes media forwarded transportCcEnabled ++
      (match forwarded with
        | none => simulcastAttributes (ascii "recv") (collectAnswerableWhipSimulcastRids media)
        | some publisher =>
            simulcastAttributes (ascii "send")
              (collectAnswerableWhepSimulcastRids media publisher)) ++
      codecAttributes media.kind codecs isWhep transportCcEnabled ++
      mediaTimingAttributes media ++ iceCandidateAttributes options ++
      (match forwarded with
        | none => []
        | some publisher => sendingAttributes options media publisher codecs) }

/-- The codecs an answered section has, with the publisher's section it
forwards. Nothing is answered where negotiation fails or leaves no codec. -/
def answeredCodecs (media : MediaSummary) (index : ℕ) (offer : WebrtcOfferSummary)
    (whepPublisherOffer : Option WebrtcOfferSummary) :
    Option (Option MediaSummary × List CodecInfo) := do
  let (forwarded, codecs) ←
    match whepPublisherOffer with
    | none => do
        let codecs ← (negotiateOfferCodecs media).toOption
        pure (none, removeUnimplementedAnswerCodecs codecs)
    | some publisherOffer => do
        let publisher ← findWhepForwardedPublisherMedia media index offer publisherOffer
        let codecs ← (negotiateCodecs media publisher).toOption
        pure (some publisher, codecs)
  guard (codecs ≠ [])
  return (forwarded, codecs)

def makeAnswerMedia (options : SdpAnswerOptions) (media : MediaSummary) (index : ℕ)
    (offer : WebrtcOfferSummary) (whepPublisherOffer : Option WebrtcOfferSummary) :
    MediaDescription :=
  if makeAnswerDirection whepPublisherOffer.isSome media = .inactive then
    makeRejectedAnswerMedia media
  else match answeredCodecs media index offer whepPublisherOffer with
    | none => makeRejectedAnswerMedia media
    | some (forwarded, codecs) => makeAcceptedAnswerMedia options media forwarded codecs

def answerMediaDescriptions (options : SdpAnswerOptions) (offer : WebrtcOfferSummary)
    (whepPublisherOffer : Option WebrtcOfferSummary) : List MediaDescription :=
  offer.media.mapIdx fun index media =>
    makeAnswerMedia options media index offer whepPublisherOffer

/-- The positions of the sections that are not rejected. -/
def acceptedIndexes (answer : List MediaDescription) : List ℕ :=
  (List.range answer.length).filter fun index =>
    (answer[index]?).any fun media => !isAnswerMediaRejected media

def noAcceptedMediaError (whepPublisherOffer : Option WebrtcOfferSummary) : Text :=
  match whepPublisherOffer with
  | none => ascii "whip answer has no supported publisher media"
  | some _ => ascii "whep answer has no compatible publisher media"

def indexesFit (accepted : List Nat) : Bool := accepted.all fun index => decide (index < 2 ^ 31)

def buildAnswer (offer : WebrtcOfferSummary) (options : SdpAnswerOptions)
    (whepPublisherOffer : Option WebrtcOfferSummary) : Except Text BuiltSdpAnswer := do
  validateOptions options
  let media := answerMediaDescriptions options offer whepPublisherOffer
  let accepted := acceptedIndexes media
  ensure (indexesFit accepted = true)
    (ascii "accepted offer media mline index is too large")
  ensure (accepted ≠ []) (noAcceptedMediaError whepPublisherOffer)
  return {
    description := {
      sessionId := options.sessionId
      sessionVersion := options.sessionVersion
      attributes :=
        [⟨ascii "group", makeBundleGroupValue offer accepted⟩, { key := ascii "ice-lite" },
          ⟨ascii "ice-options", ascii "trickle"⟩, ⟨ascii "ice-ufrag", options.localIceUfrag⟩,
          ⟨ascii "ice-pwd", options.localIcePwd⟩,
          ⟨ascii "fingerprint", makeFingerprintValue options.localFingerprint⟩,
          ⟨ascii "setup", ascii "passive"⟩, ⟨ascii "msid-semantic", ascii "WMS *"⟩]
      mediaDescriptions := media }
    acceptedMlineIndexes := accepted }

def buildWhipAnswer (offer : WebrtcOfferSummary) (options : SdpAnswerOptions) :
    Except Text BuiltSdpAnswer :=
  buildAnswer offer options none

def buildWhepAnswer (subscriberOffer publisherOffer : WebrtcOfferSummary)
    (options : SdpAnswerOptions) : Except Text BuiltSdpAnswer :=
  buildAnswer subscriberOffer options (some publisherOffer)

def selectWhepAnswerHeaderExtensions (subscriberMedia publisherMedia : MediaSummary) :
    List RtpHeaderExtension :=
  match negotiateCodecs subscriberMedia publisherMedia with
  | .error _ => []
  | .ok codecs =>
      selectAnswerHeaderExtensions subscriberMedia (some publisherMedia)
        (mediaOffersTransportCc subscriberMedia codecs false)

end SimpleWebrtc.SdpAnswer
