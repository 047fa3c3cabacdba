import SimpleWebrtc.Library.Fallible
import SimpleWebrtc.Library.Text
import SimpleWebrtc.Library.Tlv

/-!
# STUN messages

The STUN codec of the ICE-lite server: the parser of binding requests, the
writer of binding success responses, and the two verifiers. All readers walk the
same attribute area. HMAC-SHA1 and the conversion of address texts are functions
the codec is given.
-/
namespace SimpleWebrtc.Stun
open Library Library.Bytes Library.Tlv

/-- A block of bytes of a fixed size. -/
abbrev Block (size : ℕ) := { bytes : List UInt8 // bytes.length = size }

def kStunHeaderSize : ℕ := 20
def kStunTransactionIdSize : ℕ := 12
def kStunMessageIntegritySize : ℕ := 20
def kStunFingerprintSize : ℕ := 4
def kStunMagicCookie : UInt32 := 0x2112A442
def kStunAttributeMappedAddress : UInt16 := 0x0001
def kStunAttributeUsername : UInt16 := 0x0006
def kStunAttributeMessageIntegrity : UInt16 := 0x0008
def kStunAttributeXorMappedAddress : UInt16 := 0x0020
def kStunAttributePriority : UInt16 := 0x0024
def kStunAttributeUseCandidate : UInt16 := 0x0025
def kStunAttributeFingerprint : UInt16 := 0x8028
def kStunAttributeIceControlled : UInt16 := 0x8029
def kStunAttributeIceControlling : UInt16 := 0x802A
def kStunBindingMethod : UInt16 := 0x0001
def kStunFingerprintXorValue : UInt32 := 0x5354554E
def kStunMagicCookieBytes : List UInt8 := [0x21, 0x12, 0xA4, 0x42]

/-- The largest value of an `int`. -/
def kIntMax : ℕ := 2147483647

inductive StunMessageClass where
  | request
  | indication
  | successResponse
  | errorResponse
  | unknown
deriving Repr, DecidableEq

inductive StunMethod where
  | unknown
  | binding
deriving Repr, DecidableEq

structure StunMessage where
  method : StunMethod := .unknown
  messageClass : StunMessageClass := .unknown
  transactionId : Block kStunTransactionIdSize
  username : Option Text := none
  priority : Option UInt32 := none
  hasUseCandidate : Bool := false
  hasIceControlling : Bool := false
  hasIceControlled : Bool := false
  hasMessageIntegrity : Bool := false
  hasFingerprint : Bool := false
deriving Repr, DecidableEq

structure ParsedIpAddress where
  isIpv6 : Bool
  bytes : List UInt8
deriving Repr, DecidableEq

/-- The functions of other libraries the codec calls. -/
structure Primitives where
  hmacSha1 : Text → List UInt8 → Block kStunMessageIntegritySize
  inetPton4 : Text → Option (Block 4)
  inetPton6 : Text → Option (Block 16)

/-! ## The words of a message -/

def encodeMessageType (method : UInt16) (messageClass : StunMessageClass) : UInt16 :=
  let classValue : UInt16 :=
    match messageClass with
    | .request => 0
    | .indication => 1
    | .successResponse => 2
    | .errorResponse => 3
    | .unknown => 0
  let field (value mask shift : UInt16) : UInt16 := (value &&& mask) <<< shift
  field method 0x000F 0 ||| field method 0x0070 1 ||| field method 0x0F80 2 |||
    field classValue 0x0001 4 ||| field classValue 0x0002 7

def decodeMethod (rawType : UInt16) : UInt16 :=
  let field (mask shift : UInt16) : UInt16 := (rawType &&& mask) >>> shift
  field 0x000F 0 ||| field 0x00E0 1 ||| field 0x3E00 2

def makeStunMethod (rawMethod : UInt16) : StunMethod :=
  if rawMethod = kStunBindingMethod then .binding else .unknown

def decodeMessageClass (rawType : UInt16) : StunMessageClass :=
  let field (mask shift : UInt16) : UInt16 := (rawType &&& mask) >>> shift
  let value := field 0x0010 4 ||| field 0x0100 7
  if value = 0 then .request
  else if value = 1 then .indication
  else if value = 2 then .successResponse
  else if value = 3 then .errorResponse
  else .unknown

/-- One bit of the CRC-32 division. -/
def crcBit (crc : UInt32) : UInt32 :=
  if crc &&& 1 ≠ 0 then (crc >>> 1) ^^^ 0xEDB88320 else crc >>> 1

def calculateCrc32 (data : List UInt8) : UInt32 :=
  (data.foldl (fun crc byte => Nat.repeat crcBit 8 (crc ^^^ byte.toUInt32)) 0xFFFFFFFF) ^^^
    0xFFFFFFFF

def constantTimeEqual (left right : List UInt8) : Bool :=
  decide (left.length = right.length) &&
    decide ((List.zipWith (· ^^^ ·) left right).foldl (· ||| ·) 0 = 0)

def calculateHmacSha1 (primitives : Primitives) (data : List UInt8) (key : Text) :
    Except Text (Block kStunMessageIntegritySize) :=
  if key = [] then .error (ascii "stun message integrity key is empty")
  else if kIntMax < key.length then .error (ascii "stun message integrity key is too large")
  else .ok (primitives.hmacSha1 key data)

/-! ## Reading -/

def stunFaults : Faults Text :=
  ⟨ascii "stun attribute header is truncated", ascii "stun attribute value is truncated"⟩

/-- The end of a message by its length field. -/
def totalSize (data : List UInt8) : ℕ := kStunHeaderSize + (readU16 data 2).toNat

def isStunPacket (data : List UInt8) : Bool :=
  if data.length < kStunHeaderSize then false
  else if byteAt data 0 &&& 0xC0 ≠ 0 then false
  else if (readU16 data 2).toNat % 4 ≠ 0 then false
  else if readU32 data 4 ≠ kStunMagicCookie then false
  else decide (totalSize data ≤ data.length)

def validateStunHeader (data : List UInt8) : Except Text Unit :=
  if data.length < kStunHeaderSize then .error (ascii "stun packet is shorter than header")
  else if byteAt data 0 &&& 0xC0 ≠ 0 then
    .error (ascii "stun packet first two bits must be zero")
  else if (readU16 data 2).toNat % 4 ≠ 0 then
    .error (ascii "stun message length is not aligned")
  else if readU32 data 4 ≠ kStunMagicCookie then .error (ascii "stun magic cookie is invalid")
  else if data.length < totalSize data then .error (ascii "stun packet is truncated")
  else if data.length ≠ totalSize data then .error (ascii "stun packet has trailing bytes")
  else .ok ()

def validateAddressAttributeValue (value : List UInt8) : Except Text Unit :=
  if value.length < 4 then .error (ascii "stun address attribute is too short")
  else
    let family := byteAt value 1
    if family = 1 ∧ value.length ≠ 8 then
      .error (ascii "stun ipv4 address attribute has invalid size")
    else if family = 2 ∧ value.length ≠ 20 then
      .error (ascii "stun ipv6 address attribute has invalid size")
    else if family ≠ 1 ∧ family ≠ 2 then
      .error (ascii "stun address attribute has unsupported family")
    else .ok ()

def decodeKnownAttribute (message : StunMessage) (type : UInt16) (value : List UInt8) :
    Except Text StunMessage :=
  if type = kStunAttributeMappedAddress ∨ type = kStunAttributeXorMappedAddress then
    (validateAddressAttributeValue value).map fun _ => message
  else if type = kStunAttributeUsername then .ok { message with username := some value }
  else if type = kStunAttributePriority then
    if value.length ≠ 4 then .error (ascii "stun priority attribute has invalid size")
    else .ok { message with priority := some (readU32 value 0) }
  else if type = kStunAttributeUseCandidate then
    if value ≠ [] then .error (ascii "stun use-candidate attribute must be empty")
    else .ok { message with hasUseCandidate := true }
  else if type = kStunAttributeIceControlling then
    if value.length ≠ 8 then .error (ascii "stun ice-controlling attribute has invalid size")
    else .ok { message with hasIceControlling := true }
  else if type = kStunAttributeIceControlled then
    if value.length ≠ 8 then .error (ascii "stun ice-controlled attribute has invalid size")
    else .ok { message with hasIceControlled := true }
  else if type = kStunAttributeMessageIntegrity then
    if value.length ≠ kStunMessageIntegritySize then
      .error (ascii "stun message-integrity attribute has invalid size")
    else .ok { message with hasMessageIntegrity := true }
  else if type = kStunAttributeFingerprint then
    if value.length ≠ kStunFingerprintSize then
      .error (ascii "stun fingerprint attribute has invalid size")
    else .ok { message with hasFingerprint := true }
  else .ok message

def transactionIdOf (data : List UInt8) : Block kStunTransactionIdSize :=
  ⟨(List.range kStunTransactionIdSize).map fun i => data.getD (8 + i) 0, by simp⟩

/-- The message a parse starts with, from the header alone. -/
def headerMessage (data : List UInt8) : StunMessage where
  method := makeStunMethod (decodeMethod (readU16 data 0))
  messageClass := decodeMessageClass (readU16 data 0)
  transactionId := transactionIdOf data

/-- The visit of the parser's walk. -/
def parseAttribute (data : List UInt8) (message : StunMessage) (element : Element) :
    Except Text (Progress StunMessage Empty) :=
  (decodeKnownAttribute message element.kind (element.value data)).map .going

def parseStunMessage (data : List UInt8) : Except Text StunMessage := do
  validateStunHeader data
  match ← walk stunFaults data (totalSize data) (parseAttribute data) (totalSize data)
      kStunHeaderSize (headerMessage data) with
  | .going message => .ok message

structure FingerprintLocation where
  attributeOffset : ℕ
  valueOffset : ℕ
  expectedFingerprint : UInt32

def foundFingerprint (data : List UInt8) (element : Element) :
    Except Text FingerprintLocation :=
  if element.length.toNat ≠ kStunFingerprintSize then
    .error (ascii "stun fingerprint attribute has invalid size")
  else if element.paddedEnd ≠ totalSize data then
    .error (ascii "stun fingerprint attribute must be last")
  else
    .ok ⟨element.offset, element.valueOffset, readU32 data element.valueOffset⟩

def findFingerprintAttribute (data : List UInt8) : Except Text FingerprintLocation := do
  match ← walk stunFaults data (totalSize data)
      (seek kStunAttributeFingerprint (foundFingerprint data)) (totalSize data)
      kStunHeaderSize () with
  | .going _ => .error (ascii "stun fingerprint attribute not found")
  | .done location => .ok location

structure IntegrityLocation where
  attributeOffset : ℕ
  valueOffset : ℕ

def foundMessageIntegrity (element : Element) : Except Text IntegrityLocation :=
  if element.length.toNat ≠ kStunMessageIntegritySize then
    .error (ascii "stun message-integrity attribute has invalid size")
  else .ok ⟨element.offset, element.valueOffset⟩

def findMessageIntegrityAttribute (data : List UInt8) : Except Text IntegrityLocation := do
  match ← walk stunFaults data (totalSize data)
      (seek kStunAttributeMessageIntegrity foundMessageIntegrity) (totalSize data)
      kStunHeaderSize () with
  | .going _ => .error (ascii "stun message-integrity attribute not found")
  | .done location => .ok location

def verifyStunFingerprint (data : List UInt8) : Except Text Unit := do
  validateStunHeader data
  let location ← findFingerprintAttribute data
  let crc := calculateCrc32 (data.take location.attributeOffset)
  if crc ^^^ kStunFingerprintXorValue ≠ location.expectedFingerprint then
    .error (ascii "stun fingerprint mismatch")
  else .ok ()

def verifyStunMessageIntegrity (primitives : Primitives) (data : List UInt8) (key : Text) :
    Except Text Unit := do
  validateStunHeader data
  ensure (key ≠ []) (ascii "stun message integrity key is empty")
  let location ← findMessageIntegrityAttribute data
  let messageLength := location.valueOffset + kStunMessageIntegritySize - kStunHeaderSize
  ensure (messageLength ≤ 65535) (ascii "stun message-integrity input is too large")
  let hmacInput := writeU16 (data.take location.attributeOffset) 2 (UInt16.ofNat messageLength)
  let digest ← calculateHmacSha1 primitives hmacInput key
  let expected := (data.drop location.valueOffset).take kStunMessageIntegritySize
  if constantTimeEqual expected digest.1 = false then
    .error (ascii "stun message-integrity mismatch")
  else .ok ()

/-! ## Writing -/

def setStunMessageLength (packet : List UInt8) (messageLength : ℕ) : Except Text (List UInt8) :=
  if packet.length < kStunHeaderSize then .error (ascii "stun packet is shorter than header")
  else if 65535 < messageLength then .error (ascii "stun packet is too large")
  else if messageLength % 4 ≠ 0 then .error (ascii "stun message length is not aligned")
  else .ok (writeU16 packet 2 (UInt16.ofNat messageLength))

def makeStunHeader (rawType : UInt16) (transactionId : Block kStunTransactionIdSize) :
    List UInt8 :=
  u16Bytes rawType ++ u16Bytes 0 ++ u32Bytes kStunMagicCookie ++ transactionId.1

def appendAttribute (packet : List UInt8) (type : UInt16) (value : List UInt8) :
    Except Text (List UInt8) :=
  if 65535 < value.length then .error (ascii "stun attribute is too large")
  else .ok (packet ++ elementBytes type value)

/-- The address `inet_pton` makes of a text, which it sees up to the first zero byte. -/
def Primitives.inetPton (primitives : Primitives) (text : Text) : Option ParsedIpAddress :=
  let cString := text.takeWhile fun c => decide (c ≠ 0)
  match primitives.inetPton4 cString with
  | some ipv4 => some ⟨false, ipv4.1⟩
  | none => (primitives.inetPton6 cString).map fun ipv6 => ⟨true, ipv6.1⟩

def parseIpAddress (primitives : Primitives) (ip : Text) : Except Text ParsedIpAddress := do
  ensure (ip ≠ []) (ascii "stun mapped address ip is empty")
  orError (ascii "stun mapped address ip is invalid") (primitives.inetPton ip)

def makeXorMappedAddressValue (primitives : Primitives) (mappedIp : Text) (mappedPort : UInt16)
    (transactionId : Block kStunTransactionIdSize) : Except Text (List UInt8) := do
  let parsed ← parseIpAddress primitives mappedIp
  let xorPort := mappedPort ^^^ (kStunMagicCookie >>> 16).toUInt16
  let head : List UInt8 := [0, if parsed.isIpv6 then 2 else 1] ++ u16Bytes xorPort
  if parsed.isIpv6 then
    .ok (head ++ List.zipWith (· ^^^ ·) parsed.bytes (kStunMagicCookieBytes ++ transactionId.1))
  else .ok (head ++ List.zipWith (· ^^^ ·) parsed.bytes kStunMagicCookieBytes)

def appendMessageIntegrity (primitives : Primitives) (packet : List UInt8) (key : Text) :
    Except Text (List UInt8) := do
  ensure (key ≠ []) (ascii "stun message integrity key is empty")
  let attributeOffset := packet.length
  let packet := packet ++ u16Bytes kStunAttributeMessageIntegrity ++
    u16Bytes (UInt16.ofNat kStunMessageIntegritySize)
  let valueOffset := packet.length
  let packet := packet ++ List.replicate kStunMessageIntegritySize 0
  let packet ← setStunMessageLength packet (packet.length - kStunHeaderSize)
  let digest ← calculateHmacSha1 primitives (packet.take attributeOffset) key
  .ok (packet.take valueOffset ++ digest.1 ++ packet.drop (valueOffset + digest.1.length))

def appendFingerprint (packet : List UInt8) : Except Text (List UInt8) := do
  let attributeOffset := packet.length
  let packet := packet ++ u16Bytes kStunAttributeFingerprint ++
    u16Bytes (UInt16.ofNat kStunFingerprintSize)
  let valueOffset := packet.length
  let packet := packet ++ u32Bytes 0
  let packet ← setStunMessageLength packet (packet.length - kStunHeaderSize)
  let crc := calculateCrc32 (packet.take attributeOffset)
  .ok (writeU32 packet valueOffset (crc ^^^ kStunFingerprintXorValue))

def validateBindingRequest (request : StunMessage) : Except Text Unit := do
  ensure (request.method = .binding) (ascii "stun request method must be binding")
  ensure (request.messageClass = .request) (ascii "stun message class must be request")

def validateBindingSuccessResponse (mappedIp : Text) (mappedPort : UInt16)
    (messageIntegrityKey : Text) : Except Text Unit := do
  ensure (mappedIp ≠ []) (ascii "stun mapped address ip is empty")
  ensure (mappedPort ≠ 0) (ascii "stun mapped address port is zero")
  ensure (messageIntegrityKey ≠ []) (ascii "stun message integrity key is empty")

def writeStunBindingSuccessResponse (primitives : Primitives) (request : StunMessage)
    (mappedIp : Text) (mappedPort : UInt16) (messageIntegrityKey : Text) :
    Except Text (List UInt8) := do
  validateBindingRequest request
  validateBindingSuccessResponse mappedIp mappedPort messageIntegrityKey
  let responseType := encodeMessageType kStunBindingMethod .successResponse
  let packet := makeStunHeader responseType request.transactionId
  let xorAddressValue ← makeXorMappedAddressValue primitives mappedIp mappedPort
    request.transactionId
  let packet ← appendAttribute packet kStunAttributeXorMappedAddress xorAddressValue
  let packet ← setStunMessageLength packet (packet.length - kStunHeaderSize)
  let packet ← appendMessageIntegrity primitives packet messageIntegrityKey
  appendFingerprint packet

end SimpleWebrtc.Stun
