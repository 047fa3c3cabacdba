import SimpleWebrtc.Library.Text
import SimpleWebrtc.Library.Fallible

/-!
# H264 format parameters

The `fmtp` text of an H264 codec, the parameters an answer gives to an offered
one, and whether a subscriber can decode what a publisher sends.
-/
namespace SimpleWebrtc.H264Fmtp
open Library Library.Text

inductive H264ProfileKind where
  | unknown | constrainedBaseline | baseline | main | constrainedHigh | high
deriving Repr, DecidableEq

structure H264ProfileLevelId where
  profileIdc : UInt8 := 0
  profileIop : UInt8 := 0
  levelIdc : UInt8 := 0
  profile : H264ProfileKind := .unknown
  normalizedValue : Text := []
deriving Repr, DecidableEq

/-- A parameter that is absent is `none`. -/
structure H264FmtpParameters where
  packetizationMode : Option UInt8 := none
  levelAsymmetryAllowed : Option Bool := none
  profileLevelId : Option H264ProfileLevelId := none
deriving Repr, DecidableEq

def parseU8Decimal (value : Text) : Except Text UInt8 :=
  let normalized := trim isSpace value
  if normalized = [] then .error (ascii "h264 fmtp integer is empty")
  else match readUInt32 normalized with
    | some parsed =>
        if parsed ≤ 255 then .ok parsed.toUInt8 else .error (ascii "h264 fmtp integer is invalid")
    | none => .error (ascii "h264 fmtp integer is invalid")

def parseBoolean01 (value : Text) : Except Text Bool :=
  let normalized := toLower (trim isSpace value)
  if normalized = ascii "1" ∨ normalized = ascii "true" ∨ normalized = ascii "yes" then .ok true
  else if normalized = ascii "0" ∨ normalized = ascii "false" ∨ normalized = ascii "no" then
    .ok false
  else .error (ascii "h264 fmtp boolean is invalid")

def hexValue (c : UInt8) : Option UInt8 :=
  if 48 ≤ c ∧ c ≤ 57 then some (c - 48)
  else if 97 ≤ c ∧ c ≤ 102 then some (c - 87)
  else if 65 ≤ c ∧ c ≤ 70 then some (c - 55)
  else none

def isHexDigit (c : UInt8) : Bool := (hexValue c).isSome

def parseHexByte (value : Text) : Except Text UInt8 :=
  match value with
  | [high, low] =>
      match hexValue high, hexValue low with
      | some h, some l => .ok (h * 16 + l)
      | _, _ => .error (ascii "h264 profile-level-id byte is invalid")
  | _ => .error (ascii "h264 profile-level-id byte length is invalid")

def classifyH264Profile (profileIdc profileIop : UInt8) : H264ProfileKind :=
  if profileIdc = 0x42 then
    if profileIop &&& 0x40 ≠ 0 then .constrainedBaseline else .baseline
  else if profileIdc = 0x4d then
    if profileIop &&& 0x80 ≠ 0 then .constrainedBaseline else .main
  else if profileIdc = 0x58 then
    if profileIop &&& 0xc0 = 0xc0 then .constrainedBaseline else .unknown
  else if profileIdc = 0x64 then
    if profileIop &&& 0x0c = 0x0c then .constrainedHigh else .high
  else .unknown

def parseProfileLevelId (value : Text) : Except Text H264ProfileLevelId := do
  let normalized := toLower (trim isSpace value)
  ensure (normalized.length = 6) (ascii "h264 profile-level-id length is invalid")
  ensure (normalized.all isHexDigit = true)
    (ascii "h264 profile-level-id contains non hex digit")
  let profileIdc ← parseHexByte (normalized.take 2)
  let profileIop ← parseHexByte ((normalized.drop 2).take 2)
  let levelIdc ← parseHexByte ((normalized.drop 4).take 2)
  let profile := classifyH264Profile profileIdc profileIop
  ensure (profile ≠ .unknown) (ascii "h264 profile-level-id profile is unsupported")
  return ⟨profileIdc, profileIop, levelIdc, profile, normalized⟩

namespace H264ProfileKind

def isBaselineFamily (profile : H264ProfileKind) : Bool :=
  decide (profile = .baseline) || decide (profile = .constrainedBaseline)

def isHighFamily (profile : H264ProfileKind) : Bool :=
  decide (profile = .high) || decide (profile = .constrainedHigh)

end H264ProfileKind

def profilesAreAnswerCompatible (offerProfile localProfile : H264ProfileKind) : Bool :=
  if offerProfile = .unknown ∨ localProfile = .unknown then false
  else if offerProfile = localProfile then true
  else if offerProfile.isBaselineFamily && localProfile.isBaselineFamily then true
  else offerProfile.isHighFamily && localProfile.isHighFamily

def publisherProfileIsDecodableBySubscriber
    (publisherProfile subscriberProfile : H264ProfileKind) : Bool :=
  if publisherProfile = .unknown ∨ subscriberProfile = .unknown then false
  else if publisherProfile = subscriberProfile then true
  else if publisherProfile = .constrainedBaseline ∧ subscriberProfile.isBaselineFamily = true then
    true
  else decide (publisherProfile = .constrainedHigh) && subscriberProfile.isHighFamily

/-- Level 1b is ranked below level 1.1, whose number it shares. -/
def levelRank (profileLevelId : H264ProfileLevelId) : UInt16 :=
  if profileLevelId.levelIdc = 0x0b ∧ profileLevelId.profileIop &&& 0x10 ≠ 0 then 9
  else profileLevelId.levelIdc.toUInt16

def hexDigit (value : UInt8) : UInt8 := if value < 10 then 48 + value else 87 + value

def hexByte (value : UInt8) : Text := [hexDigit ((value >>> 4) &&& 0x0f), hexDigit (value &&& 0x0f)]

/-- The local profile, lowered to the constrained one where either side has it. -/
def selectProfile (offer localId : H264ProfileLevelId) : H264ProfileLevelId :=
  if offer.profile.isBaselineFamily && localId.profile.isBaselineFamily &&
      (decide (offer.profile = .constrainedBaseline) ||
        decide (localId.profile = .constrainedBaseline)) then
    { localId with
      profile := .constrainedBaseline, profileIdc := 0x42, profileIop := 0xe0 }
  else if offer.profile.isHighFamily && localId.profile.isHighFamily &&
      (decide (offer.profile = .constrainedHigh) ||
        decide (localId.profile = .constrainedHigh)) then
    { localId with
      profile := .constrainedHigh, profileIdc := 0x64, profileIop := 0x0c }
  else localId

def selectAnswerProfileLevelId (offer localId : H264ProfileLevelId)
    (levelAsymmetryAllowed : Bool) : H264ProfileLevelId :=
  let selected := selectProfile offer localId
  let levelIdc :=
    if levelAsymmetryAllowed = false ∧ levelRank offer < levelRank localId then offer.levelIdc
    else selected.levelIdc
  { selected with
    levelIdc := levelIdc
    normalizedValue := hexByte selected.profileIdc ++ hexByte selected.profileIop ++
      hexByte levelIdc }

def makeDefaultConstrainedBaselineProfileLevelId : H264ProfileLevelId :=
  ⟨0x42, 0xe0, 0x1f, .constrainedBaseline, ascii "42e01f"⟩

def effectivePacketizationModeForAnswer (parameters : H264FmtpParameters) : Except Text UInt8 :=
  match parameters.packetizationMode with
  | none => .ok 1
  | some mode =>
      if mode = 1 then .ok 1 else .error (ascii "h264 packetization-mode is unsupported")

def effectivePacketizationModeForRelay (parameters : H264FmtpParameters) : Except Text UInt8 :=
  match parameters.packetizationMode with
  | none => .ok 1
  | some mode =>
      if mode = 1 then .ok 1 else .error (ascii "h264 relay packetization-mode is unsupported")

def makeAnswerFmtp (profileLevelId : H264ProfileLevelId) (packetizationMode : UInt8)
    (levelAsymmetryAllowed : Bool) : Text :=
  ascii "level-asymmetry-allowed=" ++ ascii (if levelAsymmetryAllowed then "1" else "0") ++
    ascii ";packetization-mode=" ++ decimal packetizationMode.toNat ++
    ascii ";profile-level-id=" ++ profileLevelId.normalizedValue

def levelAsymmetryAllowedEffectiveValue (parameters : H264FmtpParameters) : Bool :=
  parameters.levelAsymmetryAllowed.getD false

def parseH264Part (parameters : H264FmtpParameters) (rawPart : Text) :
    Except Text H264FmtpParameters :=
  match cut (fun c => decide (c = 61)) (trim isSpace rawPart) with
  | none => .ok parameters
  | some (rawKey, rawValue) => do
      let key := toLower (trim isSpace rawKey)
      let value := trim isSpace rawValue
      if key = ascii "packetization-mode" then
        let parsed ← parseU8Decimal value
        return { parameters with packetizationMode := some parsed }
      else if key = ascii "level-asymmetry-allowed" then
        let parsed ← parseBoolean01 value
        return { parameters with levelAsymmetryAllowed := some parsed }
      else if key = ascii "profile-level-id" then
        let parsed ← parseProfileLevelId value
        return { parameters with profileLevelId := some parsed }
      else return parameters

def parseH264Fmtp (fmtp : Text) : Except Text H264FmtpParameters :=
  (splitOnByte 59 fmtp).foldlM parseH264Part {}

def negotiateH264FmtpForAnswer (offerFmtp localFmtp : Text) : Except Text Text := do
  let offerParameters ← parseH264Fmtp offerFmtp
  let localParameters ← parseH264Fmtp localFmtp
  let offerPacketizationMode ← effectivePacketizationModeForAnswer offerParameters
  let localPacketizationMode ← effectivePacketizationModeForAnswer localParameters
  ensure (offerPacketizationMode = localPacketizationMode)
    (ascii "h264 packetization-mode is not compatible")
  let offerProfileLevelId :=
    offerParameters.profileLevelId.getD makeDefaultConstrainedBaselineProfileLevelId
  let localProfileLevelId :=
    localParameters.profileLevelId.getD makeDefaultConstrainedBaselineProfileLevelId
  ensure (profilesAreAnswerCompatible offerProfileLevelId.profile localProfileLevelId.profile = true)
    (ascii "h264 profile is not compatible")
  let levelAsymmetryAllowed :=
    levelAsymmetryAllowedEffectiveValue offerParameters &&
      levelAsymmetryAllowedEffectiveValue localParameters
  return makeAnswerFmtp
    (selectAnswerProfileLevelId offerProfileLevelId localProfileLevelId levelAsymmetryAllowed)
    offerPacketizationMode levelAsymmetryAllowed

/-- Whether both sides' packetization modes are supported and equal. -/
def relayPacketizationModesMatch (publisher subscriber : H264FmtpParameters) : Bool :=
  match effectivePacketizationModeForRelay publisher,
      effectivePacketizationModeForRelay subscriber with
  | .ok p, .ok s => decide (p = s)
  | _, _ => false

/-- A level is compared where both sides state one. -/
def relayProfilesMatch (publisher subscriber : H264FmtpParameters) : Bool :=
  match publisher.profileLevelId, subscriber.profileLevelId with
  | some p, some s =>
      publisherProfileIsDecodableBySubscriber p.profile s.profile &&
        !decide (levelRank s < levelRank p)
  | _, _ => true

def checkH264FmtpRelayCompatibility (publisherFmtp subscriberFmtp : Text) : Except Text Bool := do
  let publisherParameters ← parseH264Fmtp publisherFmtp
  let subscriberParameters ← parseH264Fmtp subscriberFmtp
  return relayPacketizationModesMatch publisherParameters subscriberParameters &&
    relayProfilesMatch publisherParameters subscriberParameters

end SimpleWebrtc.H264Fmtp
