import SimpleWebrtc.Library.Fallible
import SimpleWebrtc.Library.Text
import Mathlib.Data.Int.Notation

/-!
# Remote ICE candidates

`make_remote_ice_candidate` reads one candidate line. Whether a text is an IP
literal is decided by the address library, so the parser takes that test as its
parameter. An empty line stands for the end of the candidates.
-/
namespace SimpleWebrtc.IceCandidate
open Library Library.Text

structure RemoteIceCandidate where
  candidate : Text := []
  sdpMid : Text := []
  sdpMlineIndex : ℤ := -1
  address : Text := []
  port : UInt16 := 0
  addressIsHostname : Bool := false
  addressIsMdnsHostname : Bool := false
  endOfCandidates : Bool := false
deriving Repr, DecidableEq

inductive IceCandidateTransport
  | udp
  | tcp
deriving Repr, DecidableEq

def kMaxCandidateSize : ℕ := 4096
def kMaxCandidateTokenCount : ℕ := 64
def kMaxFoundationSize : ℕ := 32
def kMaxSdpMidSize : ℕ := 128
def kMaxCandidateAddressSize : ℕ := 253
def kMaxExtensionNameSize : ℕ := 64
def kMaxExtensionValueSize : ℕ := 512
def kMaxSdpMlineIndex : ℤ := 1024
def kMinComponentId : ℕ := 1
def kMaxComponentId : ℕ := 256
def kCandidatePrefix : Text := ascii "candidate:"

def fieldError (field message : Text) : Text := field ++ ascii " " ++ message

def startsWith (text start : Text) : Bool := start.isPrefixOf text

def endsWith (text ending : Text) : Bool := ending.isSuffixOf text

def isLineBreak (c : UInt8) : Bool := decide (c = 13) || decide (c = 10)

def containsLineBreak (value : Text) : Bool := value.any isLineBreak

def containsWhitespace (value : Text) : Bool := value.any fun c => isBlank c || isLineBreak c

/-- Control characters of the C locale. -/
def isControl (c : UInt8) : Bool := decide (c < 32) || decide (c = 127)

def containsControlCharacter (value : Text) : Bool := value.any isControl

/-- Letters and digits of the C locale. -/
def isAlnum (c : UInt8) : Bool :=
  isDigit c || (decide (65 ≤ c) && decide (c ≤ 90)) || (decide (97 ≤ c) && decide (c ≤ 122))

def isEndOfCandidatesText (candidate : Text) : Bool :=
  candidate.isEmpty || decide (candidate = ascii "end-of-candidates") ||
    decide (candidate = ascii "a=end-of-candidates")

def normalizeCandidateText (candidate : Text) : Except Text Text := do
  ensure (candidate.length ≤ kMaxCandidateSize) (ascii "ice candidate is too large")
  ensure (containsLineBreak candidate = false)
    (ascii "ice candidate must not contain line breaks")
  let candidate := trim isBlank candidate
  if isEndOfCandidatesText candidate then return []
  let candidate :=
    if startsWith candidate (ascii "a=candidate:") then candidate.drop 2 else candidate
  ensure (startsWith candidate kCandidatePrefix)
    (ascii "ice candidate must start with candidate:")
  return candidate

def normalizeSdpMid (sdpMid : Text) : Except Text Text := do
  ensure (sdpMid.length ≤ kMaxSdpMidSize) (ascii "sdpMid is too large")
  ensure (containsWhitespace sdpMid = false) (ascii "sdpMid must not contain whitespace")
  ensure (containsControlCharacter sdpMid = false) (ascii "sdpMid contains control characters")
  return sdpMid

def validateSdpMlineIndex (sdpMlineIndex : ℤ) : Except Text Unit := do
  ensure (-1 ≤ sdpMlineIndex) (ascii "sdpMLineIndex is invalid")
  ensure (sdpMlineIndex ≤ kMaxSdpMlineIndex) (ascii "sdpMLineIndex is too large")

def splitCandidateTokens (candidate : Text) : Except Text (List Text) := do
  let tokens := fields isBlank candidate
  ensure (tokens.length ≤ kMaxCandidateTokenCount) (ascii "ice candidate has too many tokens")
  return tokens

def parseUnsignedInteger (text : Text) (minimum maximum : ℕ) (fieldName : Text) :
    Except Text ℕ := do
  ensure (text ≠ []) (fieldError fieldName (ascii "is empty"))
  match fromChars (2 ^ 64) text with
  | some (value, []) =>
      ensure (minimum ≤ value ∧ value ≤ maximum) (fieldError fieldName (ascii "is out of range"))
      return value
  | _ => throw (fieldError fieldName (ascii "is invalid"))

def isValidFoundationCharacter (c : UInt8) : Bool :=
  isAlnum c || decide (c = 43) || decide (c = 47)

def validateFoundation (firstToken : Text) : Except Text Unit := do
  ensure (startsWith firstToken kCandidatePrefix)
    (ascii "ice candidate foundation prefix is invalid")
  let foundation := firstToken.drop kCandidatePrefix.length
  ensure (foundation ≠ []) (ascii "ice candidate foundation is empty")
  ensure (foundation.length ≤ kMaxFoundationSize) (ascii "ice candidate foundation is too large")
  ensure (foundation.all isValidFoundationCharacter)
    (ascii "ice candidate foundation contains invalid characters")

def parseTransport (value : Text) : Except Text IceCandidateTransport :=
  if iequals value (ascii "udp") then .ok .udp
  else if iequals value (ascii "tcp") then .ok .tcp
  else .error (ascii "ice candidate transport is unsupported")

def validateCandidateType (value : Text) : Except Text Unit :=
  ensure (iequals value (ascii "host") || iequals value (ascii "srflx") ||
      iequals value (ascii "prflx") || iequals value (ascii "relay"))
    (ascii "ice candidate type is unsupported")

def validateTcpCandidateType (value : Text) : Except Text Unit :=
  ensure (iequals value (ascii "active") || iequals value (ascii "passive") ||
      iequals value (ascii "so"))
    (ascii "ice candidate tcp type is unsupported")

def looksLikeIpv4Literal (value : Text) : Bool :=
  value.all (fun c => decide (c = 46) || isDigit c) && value.any fun c => decide (c = 46)

def isValidHostnameLabel (label : Text) : Bool :=
  !label.isEmpty && decide (label.length ≤ 63) && label.head?.any isAlnum &&
    label.getLast?.any isAlnum && label.all fun c => isAlnum c || decide (c = 45)

/-- The labels are read up to the end of the text, so nothing is read after a dot which ends it. -/
def labelsAreValid : List Text → Bool
  | [] => true
  | [last] => last.isEmpty || isValidHostnameLabel last
  | label :: rest => isValidHostnameLabel label && labelsAreValid rest

def isValidHostname (value : Text) : Bool :=
  if value.isEmpty || decide (value.length > kMaxCandidateAddressSize) then false
  else
    let value := if value.getLast? = some 46 then value.dropLast else value
    if value.isEmpty then false else labelsAreValid (splitOnByte 46 value)

section
variable (isIpLiteral : Text → Bool)

def isValidCandidateAddress (value : Text) : Bool :=
  if value.isEmpty || decide (value.length > kMaxCandidateAddressSize) then false
  else if containsWhitespace value || containsControlCharacter value then false
  else if isIpLiteral value then true
  else if looksLikeIpv4Literal value then false
  else isValidHostname value

def isMdnsHostname (value : Text) : Bool :=
  if value.isEmpty then false
  else
    let lowered := toLower value
    endsWith lowered (ascii ".local") || endsWith lowered (ascii ".local.")

def parseCandidateAddress (value fieldName : Text) : Except Text Text := do
  ensure (isValidCandidateAddress isIpLiteral value) (fieldError fieldName (ascii "is invalid"))
  return value

def validateExtensionToken (value fieldName : Text) (maximumSize : ℕ) : Except Text Unit := do
  ensure (value ≠ []) (fieldError fieldName (ascii "is empty"))
  ensure (value.length ≤ maximumSize) (fieldError fieldName (ascii "is too large"))
  ensure (containsWhitespace value = false ∧ containsControlCharacter value = false)
    (fieldError fieldName (ascii "contains invalid characters"))

/-- The extensions seen so far. -/
structure ExtensionsSeen where
  relatedAddress : Bool := false
  relatedPort : Bool := false
  tcpType : Bool := false
  generation : Bool := false
  networkId : Bool := false
  networkCost : Bool := false
deriving Repr, DecidableEq

def kMaxUInt32 : ℕ := 4294967295
def kMaxUInt16 : ℕ := 65535

def parseCandidateExtension (seen : ExtensionsSeen) (rawName rawValue : Text) :
    Except Text ExtensionsSeen := do
  validateExtensionToken rawName (ascii "ice candidate extension name") kMaxExtensionNameSize
  validateExtensionToken rawValue (ascii "ice candidate extension value") kMaxExtensionValueSize
  let name := toLower rawName
  if name = ascii "raddr" then
    ensure (seen.relatedAddress = false) (ascii "ice candidate related address is duplicated")
    let _ ← parseCandidateAddress isIpLiteral rawValue (ascii "ice candidate related address")
    return { seen with relatedAddress := true }
  else if name = ascii "rport" then
    ensure (seen.relatedPort = false) (ascii "ice candidate related port is duplicated")
    let _ ← parseUnsignedInteger rawValue 1 kMaxUInt16 (ascii "ice candidate related port")
    return { seen with relatedPort := true }
  else if name = ascii "tcptype" then
    ensure (seen.tcpType = false) (ascii "ice candidate tcp type is duplicated")
    validateTcpCandidateType rawValue
    return { seen with tcpType := true }
  else if name = ascii "generation" then
    ensure (seen.generation = false) (ascii "ice candidate generation is duplicated")
    let _ ← parseUnsignedInteger rawValue 0 kMaxUInt32 (ascii "ice candidate generation")
    return { seen with generation := true }
  else if name = ascii "network-id" then
    ensure (seen.networkId = false) (ascii "ice candidate network id is duplicated")
    let _ ← parseUnsignedInteger rawValue 0 kMaxUInt32 (ascii "ice candidate network id")
    return { seen with networkId := true }
  else if name = ascii "network-cost" then
    ensure (seen.networkCost = false) (ascii "ice candidate network cost is duplicated")
    let _ ← parseUnsignedInteger rawValue 0 kMaxUInt32 (ascii "ice candidate network cost")
    return { seen with networkCost := true }
  else return seen

/-- The name and value pairs after the mandatory fields, read in order. -/
def parseExtensionPairs (seen : ExtensionsSeen) : List Text → Except Text ExtensionsSeen
  | rawName :: rawValue :: rest => do
      parseExtensionPairs (← parseCandidateExtension isIpLiteral seen rawName rawValue) rest
  | _ => return seen

def parseCandidateExtensions (tokens : List Text) (transport : IceCandidateTransport) :
    Except Text Unit := do
  ensure ((tokens.length - 8) % 2 = 0) (ascii "ice candidate extension is missing a value")
  let seen ← parseExtensionPairs isIpLiteral {} (tokens.drop 8)
  ensure (seen.relatedAddress = seen.relatedPort)
    (ascii "ice candidate related address and port must be provided together")
  ensure (¬(transport = .tcp ∧ seen.tcpType = false)) (ascii "tcp ice candidate requires tcptype")
  ensure (¬(transport = .udp ∧ seen.tcpType = true))
    (ascii "udp ice candidate must not contain tcptype")

def parseCandidateFields (candidateText : Text) (candidate : RemoteIceCandidate) :
    Except Text RemoteIceCandidate := do
  let tokens ← splitCandidateTokens candidateText
  match tokens with
  | foundation :: component :: transport :: priority :: address :: port :: typ :: type :: _ =>
      validateFoundation foundation
      let _ ← parseUnsignedInteger component kMinComponentId kMaxComponentId
        (ascii "ice candidate component")
      let transport ← parseTransport transport
      let _ ← parseUnsignedInteger priority 1 kMaxUInt32 (ascii "ice candidate priority")
      let address ← parseCandidateAddress isIpLiteral address (ascii "ice candidate address")
      let port ← parseUnsignedInteger port 1 kMaxUInt16 (ascii "ice candidate port")
      ensure (iequals typ (ascii "typ")) (ascii "ice candidate typ field is missing")
      validateCandidateType type
      parseCandidateExtensions isIpLiteral tokens transport
      return { candidate with
        address
        port := UInt16.ofNat port
        addressIsHostname := !isIpLiteral address
        addressIsMdnsHostname := isMdnsHostname address }
  | _ => throw (ascii "ice candidate is missing mandatory fields")

def makeRemoteIceCandidate (candidate sdpMid : Text) (sdpMlineIndex : ℤ) :
    Except Text RemoteIceCandidate := do
  let candidate ← normalizeCandidateText candidate
  let sdpMid ← normalizeSdpMid sdpMid
  validateSdpMlineIndex sdpMlineIndex
  ensure (¬(sdpMid = [] ∧ sdpMlineIndex < 0)) (ascii "sdpMid or sdpMLineIndex is required")
  let value : RemoteIceCandidate :=
    { candidate, sdpMid, sdpMlineIndex, endOfCandidates := candidate.isEmpty }
  if value.endOfCandidates then return value
  parseCandidateFields isIpLiteral value.candidate value

end
end SimpleWebrtc.IceCandidate
