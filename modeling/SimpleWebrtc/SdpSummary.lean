import SimpleWebrtc.Library.Text
import SimpleWebrtc.Library.Fallible

/-!
# Offer summaries

A parsed session description, and the summary of its audio and video sections
that every later stage works on. Sections of other kinds are left out here, so
that section numbers count the audio and video sections only.
-/
namespace SimpleWebrtc.SdpSummary
open Library Library.Text

structure SdpAttribute where
  key : Text
  value : Text := []
deriving Repr, DecidableEq

structure MediaNameLine where
  media : Text
  port : Int := 0
  formats : List Text := []
deriving Repr, DecidableEq

structure MediaDescription where
  mediaName : MediaNameLine
  connectionAddress : Text := []
  attributes : List SdpAttribute := []
deriving Repr, DecidableEq

structure SessionDescription where
  sessionId : UInt64 := 0
  sessionVersion : UInt64 := 0
  attributes : List SdpAttribute := []
  mediaDescriptions : List MediaDescription := []
deriving Repr, DecidableEq

inductive MediaDirection where
  | unknown | sendRecv | sendOnly | recvOnly | inactive
deriving Repr, DecidableEq

def MediaDirection.toText : MediaDirection → Text
  | .sendRecv => ascii "sendrecv"
  | .sendOnly => ascii "sendonly"
  | .recvOnly => ascii "recvonly"
  | .inactive => ascii "inactive"
  | .unknown => []

inductive DtlsConnectionRole where
  | unknown | active | passive | actpass | holdconn
deriving Repr, DecidableEq

structure RtpHeaderExtension where
  id : Int := 0
  direction : MediaDirection := .unknown
  uri : Text := []
  extensionAttributes : Option Text := none
deriving Repr, DecidableEq

structure FingerprintInfo where
  algorithm : Text := []
  value : Text := []
deriving Repr, DecidableEq

structure CodecInfo where
  payloadType : UInt16 := 0
  name : Text := []
  clockRate : UInt32 := 0
  encodingParameters : Text := []
  fmtp : Text := []
  rtcpFeedback : List Text := []
deriving Repr, DecidableEq

structure SsrcGroupSummary where
  semantics : Text
  ssrcs : List UInt32 := []
deriving Repr, DecidableEq

structure RidSummary where
  id : Text
  direction : Text
deriving Repr, DecidableEq

structure SimulcastSummary where
  sendRids : List Text := []
  recvRids : List Text := []
deriving Repr, DecidableEq

structure MsidSummary where
  streamId : Text
  trackId : Text := []
deriving Repr, DecidableEq

structure MediaSummary where
  kind : Text := []
  mid : Text := []
  direction : MediaDirection := .unknown
  rtcpMux : Bool := false
  rtcpRsize : Bool := false
  extmapAllowMixed : Bool := false
  ptime : Option UInt32 := none
  maxptime : Option UInt32 := none
  payloadTypes : List UInt16 := []
  codecs : List CodecInfo := []
  headerExtensions : List RtpHeaderExtension := []
  ssrcGroups : List SsrcGroupSummary := []
  rids : List RidSummary := []
  simulcast : Option SimulcastSummary := none
  msids : List MsidSummary := []
deriving Repr, DecidableEq

structure WebrtcOfferSummary where
  iceUfrag : Text := []
  icePwd : Text := []
  fingerprint : FingerprintInfo := {}
  setup : DtlsConnectionRole := .unknown
  bundleMids : List Text := []
  media : List MediaSummary := []
deriving Repr, DecidableEq

def kAudio : Text := ascii "audio"
def kVideo : Text := ascii "video"
def kRtpStreamIdExtensionUri : Text := ascii "urn:ietf:params:rtp-hdrext:sdes:rtp-stream-id"
def kRepairedRtpStreamIdExtensionUri : Text :=
  ascii "urn:ietf:params:rtp-hdrext:sdes:repaired-rtp-stream-id"

def findAttributes (attributes : List SdpAttribute) (key : Text) : List SdpAttribute :=
  attributes.filter fun a => decide (a.key = key)

def findAttributeValue (attributes : List SdpAttribute) (key : Text) : Option Text :=
  (attributes.find? fun a => decide (a.key = key)).map SdpAttribute.value

def parseMediaDirection (value : Text) : Option MediaDirection :=
  if value = ascii "sendrecv" then some .sendRecv
  else if value = ascii "sendonly" then some .sendOnly
  else if value = ascii "recvonly" then some .recvOnly
  else if value = ascii "inactive" then some .inactive
  else none

def parseDtlsConnectionRole (value : Text) : Option DtlsConnectionRole :=
  if value = ascii "active" then some .active
  else if value = ascii "passive" then some .passive
  else if value = ascii "actpass" then some .actpass
  else if value = ascii "holdconn" then some .holdconn
  else none

/-- The id at the start of an `extmap` value. Text after its digits is not
looked at. -/
def parseExtensionId (idText : Text) : Option Int :=
  match fromChars (2 ^ 31) idText with
  | some (value, _) => if 1 ≤ value ∧ value ≤ 246 then some value else none
  | none => none

def parseExtensionDirection : Option Text → Option MediaDirection
  | none => some .unknown
  | some text => parseMediaDirection text

/-- The URI of an `extmap` value and the attributes after it. -/
def parseExtensionUri (id : Int) (direction : MediaDirection) (rest : Text) : RtpHeaderExtension :=
  match cut isBlank rest with
  | none => ⟨id, direction, rest, none⟩
  | some (uri, attributesText) =>
      let attributes := trim isBlank attributesText
      ⟨id, direction, uri, if attributes = [] then none else some attributes⟩

def RtpHeaderExtension.parseAttributeValue (value : Text) : Option RtpHeaderExtension := do
  let (idAndDirection, tail) ← cut isBlank (trim isBlank value)
  let rest := trim isBlank tail
  guard (rest ≠ [])
  let (idText, directionText) :=
    match cut (fun c => decide (c = 47)) idAndDirection with
    | none => (idAndDirection, none)
    | some (idText, directionText) => (idText, some directionText)
  let id ← parseExtensionId idText
  let direction ← parseExtensionDirection directionText
  return parseExtensionUri id direction rest

def parsePayloadType (value : Text) : Except Text UInt16 :=
  let value := trim isBlank value
  if value = [] then .error (ascii "empty payload type")
  else match readUInt32 value with
    | none => .error (ascii "invalid payload type")
    | some payloadType =>
        if 127 < payloadType then .error (ascii "payload type out of range")
        else .ok payloadType.toUInt16

def parseClockRate (value : Text) : Except Text UInt32 :=
  let value := trim isBlank value
  if value = [] then .error (ascii "empty codec clock rate")
  else orError (ascii "invalid codec clock rate") (readUInt32 value)

def parseU32Text (value : Text) : Option UInt32 := readUInt32 (trim isBlank value)

/-- Whether a property attribute is present. One that has a value does not count. -/
def mediaHasAttribute (media : MediaDescription) (key : Text) : Bool :=
  media.attributes.any fun a => decide (a.key = key) && a.value.isEmpty

def nonEmptyValue (value : Option Text) : Option Text := value.filter fun v => !v.isEmpty

def findEffectiveAttributeValue (description : SessionDescription) (media : MediaDescription)
    (key : Text) : Option Text :=
  (nonEmptyValue (findAttributeValue media.attributes key)).orElse fun _ =>
    findAttributeValue description.attributes key

def effectivePropertyAttributeExists (description : SessionDescription) (media : MediaDescription)
    (key : Text) : Bool :=
  mediaHasAttribute media key || !(findAttributes description.attributes key).isEmpty

def findFirstAttributeValue (description : SessionDescription) (key : Text) : Option Text :=
  (nonEmptyValue (findAttributeValue description.attributes key)).orElse fun _ =>
    description.mediaDescriptions.findSome? fun media =>
      nonEmptyValue (findAttributeValue media.attributes key)

def bundleMidsOf (value : Text) : List Text :=
  match fields isBlank value with
  | [] => []
  | semantics :: mids => if semantics = ascii "BUNDLE" then mids else []

def parseBundleMids (description : SessionDescription) : List Text :=
  (findAttributes description.attributes (ascii "group")).flatMap fun a => bundleMidsOf a.value

def parseFingerprint (value : Text) : Except Text FingerprintInfo :=
  match fields isBlank value with
  | [algorithm, fingerprint] => .ok ⟨algorithm, fingerprint⟩
  | _ => .error (ascii "invalid fingerprint attribute")

def parseSetup (value : Text) : Except Text DtlsConnectionRole :=
  orError (ascii "invalid setup attribute") (parseDtlsConnectionRole (trim isBlank value))

/-- The direction attributes a section has, in the order they are looked for. -/
def directionAttributes (media : MediaDescription) : List MediaDirection :=
  [.sendRecv, .sendOnly, .recvOnly, .inactive].filter fun direction =>
    mediaHasAttribute media direction.toText

def parseMediaDirectionFromAttributes (media : MediaDescription) : Except Text MediaDirection :=
  match directionAttributes media with
  | [] => .ok .sendRecv
  | [direction] => .ok direction
  | _ => .error (ascii "media has multiple direction attributes")

/-- The third part of a codec description, if there is one. -/
def encodingParametersOf : List Text → Text
  | parameters :: _ => parameters
  | [] => []

def parseRtpMapAttribute (value : Text) : Except Text CodecInfo :=
  match fields isBlank value with
  | [payloadTypeText, description] => do
      let payloadType ← parsePayloadType payloadTypeText
      match splitOnByte 47 description with
      | name :: rate :: rest => do
          ensure (name ≠ [] ∧ rate ≠ []) (ascii "invalid rtpmap codec description")
          let clockRate ← parseClockRate rate
          return { payloadType, name, clockRate, encodingParameters := encodingParametersOf rest }
      | _ => throw (ascii "invalid rtpmap codec description")
  | _ => .error (ascii "invalid rtpmap attribute")

/-- Changes the first codec that has the payload type. -/
def updateCodec (f : CodecInfo → CodecInfo) (payloadType : UInt16) : List CodecInfo → List CodecInfo
  | [] => []
  | codec :: codecs =>
      if codec.payloadType = payloadType then f codec :: codecs
      else codec :: updateCodec f payloadType codecs

/-- The text after the first blank of an attribute value. -/
def parametersOf (value : Text) : Text :=
  match cut isBlank value with
  | none => []
  | some (_, rest) => trim isBlank rest

def applyFmtp (codecs : List CodecInfo) (a : SdpAttribute) :
    Except Text (List CodecInfo) :=
  match fields isBlank a.value with
  | payloadTypeText :: _ :: _ => do
      let payloadType ← parsePayloadType payloadTypeText
      return updateCodec
        (fun codec => { codec with fmtp := parametersOf a.value }) payloadType codecs
  | _ => .error (ascii "invalid fmtp attribute")

def CodecInfo.addFeedback (feedback : Text) (codec : CodecInfo) : CodecInfo :=
  { codec with rtcpFeedback := codec.rtcpFeedback ++ [feedback] }

def applyRtcpFeedback (codecs : List CodecInfo) (a : SdpAttribute) :
    Except Text (List CodecInfo) :=
  match fields isBlank a.value with
  | payloadTypeText :: _ :: _ =>
      let addFeedback := CodecInfo.addFeedback (parametersOf a.value)
      if payloadTypeText = ascii "*" then .ok (codecs.map addFeedback)
      else do
        let payloadType ← parsePayloadType payloadTypeText
        return updateCodec addFeedback payloadType codecs
  | _ => .error (ascii "invalid rtcp-fb attribute")

def parsePayloadTypes (media : MediaDescription) : Except Text (List UInt16) := do
  let payloadTypes ← media.mediaName.formats.mapM parsePayloadType
  ensure (payloadTypes ≠ []) (ascii "media has no payload types")
  return payloadTypes

/-- The `rtpmap` entries for payload types of the section, with the parameters
and the feedback that later attributes give to the first entry of a payload
type. -/
def parseCodecs (payloadTypes : List UInt16) (media : MediaDescription) :
    Except Text (List CodecInfo) := do
  let rtpMaps ← (findAttributes media.attributes (ascii "rtpmap")).mapM fun a =>
    parseRtpMapAttribute a.value
  let codecs := rtpMaps.filter fun codec => decide (codec.payloadType ∈ payloadTypes)
  let codecs ← (findAttributes media.attributes (ascii "fmtp")).foldlM applyFmtp codecs
  let codecs ← (findAttributes media.attributes (ascii "rtcp-fb")).foldlM applyRtcpFeedback codecs
  ensure (codecs ≠ []) (ascii "media has no rtpmap codecs")
  return codecs

def parseHeaderExtensions (media : MediaDescription) : Except Text (List RtpHeaderExtension) :=
  (findAttributes media.attributes (ascii "extmap")).mapM fun a =>
    orError (ascii "invalid extmap attribute") (RtpHeaderExtension.parseAttributeValue a.value)

/-- A `ptime` or `maxptime` attribute. -/
def parseMediaTime (media : MediaDescription) (key : Text) : Except Text (Option UInt32) :=
  match findAttributes media.attributes key with
  | [] => .ok none
  | [a] =>
      match parseU32Text a.value with
      | none => .error (ascii "media " ++ key ++ ascii " is invalid")
      | some time =>
          if time = 0 ∨ 1000 < time then .error (ascii "media " ++ key ++ ascii " is invalid")
          else .ok (some time)
  | _ => .error (ascii "media has multiple " ++ key ++ ascii " attributes")

def timesInOrder (ptime maxptime : Option UInt32) : Prop :=
  ∀ p ∈ ptime, ∀ m ∈ maxptime, p ≤ m

instance : (ptime maxptime : Option UInt32) → Decidable (timesInOrder ptime maxptime)
  | none, _ => isTrue (by simp [timesInOrder])
  | some _, none => isTrue (by simp [timesInOrder])
  | some p, some m => decidable_of_iff (p ≤ m) (by simp [timesInOrder])

def parseMediaTimingAttributes (media : MediaDescription) :
    Except Text (Option UInt32 × Option UInt32) := do
  let ptime ← parseMediaTime media (ascii "ptime")
  let maxptime ← parseMediaTime media (ascii "maxptime")
  ensure (timesInOrder ptime maxptime) (ascii "media ptime is greater than maxptime")
  return (ptime, maxptime)

def parseGroupSsrc (value : Text) : Except Text UInt32 :=
  orError (ascii "invalid ssrc-group ssrc") ((parseU32Text value).filter fun ssrc => ssrc != 0)

def parseSsrcGroup (a : SdpAttribute) : Except Text (Option SsrcGroupSummary) :=
  match fields isBlank a.value with
  | semantics :: ssrc :: rest => do
      let ssrcs ← (ssrc :: rest).mapM parseGroupSsrc
      return some ⟨semantics, ssrcs⟩
  | _ => .ok none

def parseSsrcGroups (media : MediaDescription) : Except Text (List SsrcGroupSummary) := do
  let groups ← (findAttributes media.attributes (ascii "ssrc-group")).mapM parseSsrcGroup
  return groups.filterMap id

def parseRidSummary (value : Text) : Except Text RidSummary :=
  match fields isSpace value with
  | id :: direction :: _ =>
      let direction := toLower direction
      if direction ≠ ascii "send" ∧ direction ≠ ascii "recv" then
        .error (ascii "rid direction is invalid")
      else .ok ⟨id, direction⟩
  | _ => .error (ascii "rid attribute is incomplete")

def addRid (rids : List RidSummary) (a : SdpAttribute) : Except Text (List RidSummary) := do
  let rid ← parseRidSummary a.value
  ensure (rid.id ∉ rids.map RidSummary.id) (ascii "rid id is duplicated")
  return rids ++ [rid]

def parseRidSummaries (media : MediaDescription) : Except Text (List RidSummary) :=
  (findAttributes media.attributes (ascii "rid")).foldlM addRid []

def parseSimulcastRidList (value : Text) : List Text :=
  let isSeparator := fun c : UInt8 => decide (c = 59) || decide (c = 44)
  fields isSeparator (value.filter fun c => !decide (c = 126))

/-- Reads direction and list pairs. The number of tokens is even here. -/
def parseSimulcastTokens (summary : SimulcastSummary) : List Text → Except Text SimulcastSummary
  | direction :: ridList :: rest =>
      if toLower direction = ascii "send" then
        parseSimulcastTokens
          { summary with sendRids := summary.sendRids ++ parseSimulcastRidList ridList } rest
      else if toLower direction = ascii "recv" then
        parseSimulcastTokens
          { summary with recvRids := summary.recvRids ++ parseSimulcastRidList ridList } rest
      else .error (ascii "simulcast direction is invalid")
  | _ => .ok summary

def addSimulcast (result : Option SimulcastSummary) (a : SdpAttribute) :
    Except Text (Option SimulcastSummary) := do
  ensure (result = none) (ascii "simulcast attribute is duplicated")
  let tokens := fields isSpace a.value
  ensure (2 ≤ tokens.length ∧ tokens.length % 2 = 0) (ascii "simulcast attribute is invalid")
  let summary ← parseSimulcastTokens {} tokens
  return some summary

def parseSimulcastSummary (media : MediaDescription) : Except Text (Option SimulcastSummary) :=
  (findAttributes media.attributes (ascii "simulcast")).foldlM addSimulcast none

def parseMsidSummary (value : Text) : Except Text MsidSummary :=
  match fields isSpace value with
  | [] => .error (ascii "msid attribute is empty")
  | streamId :: rest =>
      if streamId = ascii "-" then .error (ascii "msid stream id is invalid")
      else .ok ⟨streamId, rest.headD []⟩

/-- The values seen so far are compared as they are written. -/
def addMsid (seen : List Text × List MsidSummary) (a : SdpAttribute) :
    Except Text (List Text × List MsidSummary) := do
  ensure (a.value ∉ seen.1) (ascii "msid attribute is duplicated")
  let msid ← parseMsidSummary a.value
  return (seen.1 ++ [a.value], seen.2 ++ [msid])

def parseMsidSummaries (media : MediaDescription) : Except Text (List MsidSummary) := do
  let seen ← (findAttributes media.attributes (ascii "msid")).foldlM addMsid ([], [])
  return seen.2

def mediaHasRtxCodec (media : MediaSummary) : Bool :=
  media.codecs.any fun codec => iequals codec.name (ascii "rtx")

def mediaHasHeaderExtensionUri (media : MediaSummary) (uri : Text) : Bool :=
  media.headerExtensions.any fun e => decide (e.uri = uri)

def mediaHasRid (media : MediaSummary) (rid : Text) : Bool :=
  !rid.isEmpty && media.rids.any fun current => decide (current.id = rid)

/-- Extension ids in range, then distinct ids, then distinct URIs, entry by
entry. -/
def validateExtensions (ids : List Int) (uris : List Text) :
    List RtpHeaderExtension → Except Text Unit
  | [] => .ok ()
  | e :: rest => do
      ensure (0 < e.id ∧ e.id ≤ 255) (ascii "media summary extmap id is out of range")
      ensure (e.id ∉ ids) (ascii "media summary extmap id is duplicated")
      ensure (e.uri ∉ uris) (ascii "media summary extmap uri is duplicated")
      validateExtensions (ids ++ [e.id]) (uris ++ [e.uri]) rest

def validateSimulcast (media : MediaSummary) (simulcast : SimulcastSummary) : Except Text Unit := do
  ensure (simulcast.sendRids.all (mediaHasRid media) = true)
    (ascii "media summary simulcast send references unknown rid")
  ensure (simulcast.recvRids.all (mediaHasRid media) = true)
    (ascii "media summary simulcast recv references unknown rid")

def msidKey (msid : MsidSummary) : Text := msid.streamId ++ [10] ++ msid.trackId

def validateMsids (seen : List Text) : List MsidSummary → Except Text Unit
  | [] => .ok ()
  | msid :: rest => do
      ensure (msid.streamId ≠ [] ∧ msid.streamId ≠ ascii "-")
        (ascii "media summary msid stream id is invalid")
      ensure (msidKey msid ∉ seen) (ascii "media summary msid is duplicated")
      validateMsids (seen ++ [msidKey msid]) rest

def validateMediaSummaryIdentity (media : MediaSummary) : Except Text Unit := do
  ensure (media.mid ≠ []) (ascii "media summary mid is empty")
  validateExtensions [] [] media.headerExtensions
  let hasRid := mediaHasHeaderExtensionUri media kRtpStreamIdExtensionUri
  let hasRepairedRid := mediaHasHeaderExtensionUri media kRepairedRtpStreamIdExtensionUri
  ensure (hasRepairedRid = true → hasRid = true)
    (ascii "media summary repaired-rid extmap requires rid extmap")
  ensure (hasRepairedRid = true → mediaHasRtxCodec media = true)
    (ascii "media summary repaired-rid extmap requires rtx codec")
  match media.simulcast with
  | none => pure ()
  | some simulcast => validateSimulcast media simulcast
  validateMsids [] media.msids

/-- A required attribute of the section, or of the session where the section
has none. -/
def requireEffectiveAttribute (description : SessionDescription) (media : MediaDescription)
    (key error : Text) : Except Text Text :=
  orError error (nonEmptyValue (findEffectiveAttributeValue description media key))

def parseMediaSummary (description : SessionDescription) (media : MediaDescription) :
    Except Text MediaSummary := do
  let kind := media.mediaName.media
  ensure (kind = kAudio ∨ kind = kVideo) (ascii "unsupported media type")
  let mid ← orError (ascii "media missing mid")
    (nonEmptyValue (findAttributeValue media.attributes (ascii "mid")))
  let direction ← parseMediaDirectionFromAttributes media
  let rtcpMux := mediaHasAttribute media (ascii "rtcp-mux")
  let rtcpRsize := mediaHasAttribute media (ascii "rtcp-rsize")
  let extmapAllowMixed :=
    effectivePropertyAttributeExists description media (ascii "extmap-allow-mixed")
  ensure (rtcpMux = true) (ascii "media missing rtcp-mux")
  let _ ← requireEffectiveAttribute description media (ascii "ice-ufrag")
    (ascii "media missing ice-ufrag")
  let _ ← requireEffectiveAttribute description media (ascii "ice-pwd")
    (ascii "media missing ice-pwd")
  let _ ← requireEffectiveAttribute description media (ascii "fingerprint")
    (ascii "media missing fingerprint")
  let _ ← requireEffectiveAttribute description media (ascii "setup")
    (ascii "media missing setup")
  let payloadTypes ← parsePayloadTypes media
  let codecs ← parseCodecs payloadTypes media
  let headerExtensions ← parseHeaderExtensions media
  let (ptime, maxptime) ← parseMediaTimingAttributes media
  let ssrcGroups ← parseSsrcGroups media
  let rids ← parseRidSummaries media
  let simulcast ← parseSimulcastSummary media
  let msids ← parseMsidSummaries media
  let summary : MediaSummary :=
    { kind, mid, direction, rtcpMux, rtcpRsize, extmapAllowMixed, ptime, maxptime, payloadTypes,
      codecs, headerExtensions, ssrcGroups, rids, simulcast, msids }
  validateMediaSummaryIdentity summary
  return summary

def validateBundleMids (summary : WebrtcOfferSummary) : Except Text Unit := do
  ensure (summary.bundleMids ≠ []) (ascii "missing BUNDLE group")
  ensure (∀ media ∈ summary.media, media.mid ∈ summary.bundleMids)
    (ascii "media mid not present in BUNDLE group")

def isAudioOrVideo (media : MediaDescription) : Bool :=
  decide (media.mediaName.media = kAudio) || decide (media.mediaName.media = kVideo)

def requireFirstAttribute (description : SessionDescription) (key error : Text) :
    Except Text Text :=
  orError error (findFirstAttributeValue description key)

def extractWebrtcOfferSummary (description : SessionDescription) :
    Except Text WebrtcOfferSummary := do
  let bundleMids := parseBundleMids description
  let iceUfrag ← requireFirstAttribute description (ascii "ice-ufrag") (ascii "missing ice-ufrag")
  let icePwd ← requireFirstAttribute description (ascii "ice-pwd") (ascii "missing ice-pwd")
  let fingerprintText ←
    requireFirstAttribute description (ascii "fingerprint") (ascii "missing fingerprint")
  let fingerprint ← parseFingerprint fingerprintText
  let setupText ← requireFirstAttribute description (ascii "setup") (ascii "missing setup")
  let setup ← parseSetup setupText
  let media ← (description.mediaDescriptions.filter isAudioOrVideo).mapM
    (parseMediaSummary description)
  ensure (media ≠ []) (ascii "missing audio or video media")
  let summary : WebrtcOfferSummary := { iceUfrag, icePwd, fingerprint, setup, bundleMids, media }
  validateBundleMids summary
  return summary

def bundleOrderError (expected actual : Text) : Text :=
  ascii "runtime offer filter bundle mid order mismatch expected=" ++ expected ++
    ascii " actual=" ++ actual

/-- Compares two lists of the same length entry by entry. -/
def checkBundleOrder : List Text → List Text → Except Text Unit
  | expected :: expectedRest, actual :: actualRest =>
      if actual ≠ expected then .error (bundleOrderError expected actual)
      else checkBundleOrder expectedRest actualRest
  | _, _ => .ok ()

/-- The offer with only its accepted sections. Every index is one of a section
of the offer. -/
def makeOfferSummary (originalOffer : WebrtcOfferSummary) (acceptedMlineIndexes : List ℕ) :
    Except Text WebrtcOfferSummary := do
  let media := acceptedMlineIndexes.filterMap fun index => originalOffer.media[index]?
  let bundleMids := originalOffer.bundleMids.filter fun mid =>
    decide (mid ∈ media.map MediaSummary.mid)
  ensure (bundleMids.length = media.length)
    (ascii "runtime offer filter bundle mids and accepted mids size mismatch")
  checkBundleOrder (media.map MediaSummary.mid) bundleMids
  return { originalOffer with bundleMids, media }

end SimpleWebrtc.SdpSummary
