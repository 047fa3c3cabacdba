import SimpleWebrtc.SessionStunBinding

/-!
# Binding success responses

The writer sets the length field three times, and computes the message integrity
and the fingerprint over different prefixes under different lengths. What it
returns is a header and three attributes, and the parser and both verifiers read
back exactly what the writer put there.
-/
namespace SimpleWebrtc.Stun
open Library Library.Bytes Library.Tlv

/-- The address and the port under the mask of the magic cookie and the transaction id. -/
def unxorMappedAddress (transactionId : Block kStunTransactionIdSize) (value : List UInt8) :
    ParsedIpAddress × UInt16 :=
  (⟨decide (byteAt value 1 = 2),
      List.zipWith (· ^^^ ·) (value.drop 4) (u32Bytes kStunMagicCookie ++ transactionId.1)⟩,
    readU16 value 2 ^^^ (kStunMagicCookie >>> 16).toUInt16)

/-- A response which the program's own reader and verifiers accept. -/
structure AcceptedResponse (primitives : Primitives) (request : StunMessage)
    (address : ParsedIpAddress) (port : UInt16) (key : Text) (packet : List UInt8) : Prop where
  isStun : isStunPacket packet = true
  parsed : ∃ message, parseStunMessage packet = .ok message ∧ message.method = .binding ∧
    message.messageClass = .successResponse ∧ message.transactionId = request.transactionId ∧
    message.hasMessageIntegrity = true ∧ message.hasFingerprint = true
  integrity : verifyStunMessageIntegrity primitives packet key = .ok ()
  fingerprint : verifyStunFingerprint packet = .ok ()
  mapped : ∃ element, (attributes packet).filter
      (fun e => decide (e.kind = kStunAttributeXorMappedAddress)) = [element] ∧
    unxorMappedAddress request.transactionId (element.value packet) = (address, port)

/-! ## What the writer returns -/

def responseHead (transactionId : Block kStunTransactionIdSize) (length : UInt16) : List UInt8 :=
  u16Bytes (encodeMessageType kStunBindingMethod .successResponse) ++ u16Bytes length ++
    u32Bytes kStunMagicCookie ++ transactionId.1

theorem responseHead_length (transactionId : Block kStunTransactionIdSize) (length : UInt16) :
    (responseHead transactionId length).length = kStunHeaderSize := by
  simp [responseHead, transactionId.2, kStunTransactionIdSize, kStunHeaderSize]

/-- A response in front of its fingerprint. -/
def responseCovered (transactionId : Block kStunTransactionIdSize) (value : List UInt8)
    (digest : Block kStunMessageIntegritySize) : List UInt8 :=
  responseHead transactionId (UInt16.ofNat (value.length + 36)) ++
    elementBytes kStunAttributeXorMappedAddress value ++
    elementBytes kStunAttributeMessageIntegrity digest.1

def responseFingerprint (covered : List UInt8) : List UInt8 :=
  u32Bytes (calculateCrc32 covered ^^^ kStunFingerprintXorValue)

def responsePacket (transactionId : Block kStunTransactionIdSize) (value : List UInt8)
    (digest : Block kStunMessageIntegritySize) : List UInt8 :=
  responseCovered transactionId value digest ++ elementBytes kStunAttributeFingerprint
    (responseFingerprint (responseCovered transactionId value digest))

/-- The digest the writer computes: over the header with the length up to the integrity. -/
def responseDigest (primitives : Primitives) (transactionId : Block kStunTransactionIdSize)
    (value : List UInt8) (key : Text) : Block kStunMessageIntegritySize :=
  primitives.hmacSha1 key (responseHead transactionId (UInt16.ofNat (value.length + 28)) ++
    elementBytes kStunAttributeXorMappedAddress value)

theorem writeU16_head (transactionId : Block kStunTransactionIdSize) (length length' : UInt16)
    (rest : List UInt8) : writeU16 (responseHead transactionId length ++ rest) 2 length' =
      responseHead transactionId length' ++ rest := by
  have hright := writeU16_append_right
    (u16Bytes (encodeMessageType kStunBindingMethod .successResponse))
    (u16Bytes length ++ (u32Bytes kStunMagicCookie ++ transactionId.1 ++ rest)) 0 length'
  simp only [responseHead, List.append_assoc] at hright ⊢
  rw [u16Bytes_length] at hright
  rw [hright]
  rfl

theorem setStunMessageLength_head (transactionId : Block kStunTransactionIdSize)
    (length : UInt16) (rest : List UInt8) {messageLength : ℕ} (hlarge : messageLength ≤ 65535)
    (haligned : messageLength % 4 = 0) :
    setStunMessageLength (responseHead transactionId length ++ rest) messageLength =
      .ok (responseHead transactionId (UInt16.ofNat messageLength) ++ rest) := by
  have hlong : ¬(responseHead transactionId length ++ rest).length < kStunHeaderSize := by
    rw [List.length_append, responseHead_length]
    omega
  rw [setStunMessageLength, if_neg hlong, if_neg (by omega), if_neg (by omega), writeU16_head]

/-- A mask applied twice gives back the bytes, also when more of it follows. -/
theorem xor_twice {bytes mask : List UInt8} (h : bytes.length ≤ mask.length)
    (more : List UInt8) :
    List.zipWith (· ^^^ ·) (List.zipWith (· ^^^ ·) bytes mask) (mask ++ more) = bytes := by
  induction bytes generalizing mask with
  | nil => simp
  | cons b bytes ih =>
      cases mask with
      | nil => simp at h
      | cons m mask =>
          have hbyte : b ^^^ m ^^^ m = b := by
            rw [UInt8.xor_assoc, UInt8.xor_self, UInt8.xor_zero]
          simp only [List.zipWith_cons_cons, List.cons_append, hbyte]
          rw [ih (by simpa using h)]

/-- The bytes of an XOR-MAPPED-ADDRESS. -/
def xorValue (family : UInt8) (port : UInt16) (xored : List UInt8) : List UInt8 :=
  [0, family] ++ u16Bytes (port ^^^ (kStunMagicCookie >>> 16).toUInt16) ++ xored

theorem xorValue_length (family : UInt8) (port : UInt16) (xored : List UInt8) :
    (xorValue family port xored).length = 4 + xored.length := by
  simp [xorValue]
  omega

theorem xorValue_valid {family : UInt8} (port : UInt16) {xored : List UInt8}
    (h : family = 1 ∧ xored.length = 4 ∨ family = 2 ∧ xored.length = 16) :
    validateAddressAttributeValue (xorValue family port xored) = .ok () := by
  have hfamily : byteAt (xorValue family port xored) 1 = family.toNat := rfl
  rw [validateAddressAttributeValue, xorValue_length, if_neg (by omega), hfamily]
  rcases h with ⟨rfl, hlength⟩ | ⟨rfl, hlength⟩
  · rw [hlength]
    rfl
  · rw [hlength]
    rfl

theorem unxor_xorValue (transactionId : Block kStunTransactionIdSize) (family : UInt8)
    (port : UInt16) {bytes mask more : List UInt8} (hlength : bytes.length ≤ mask.length)
    (hmask : u32Bytes kStunMagicCookie ++ transactionId.1 = mask ++ more) :
    unxorMappedAddress transactionId
        (xorValue family port (List.zipWith (· ^^^ ·) bytes mask)) =
      (⟨decide (family = 2), bytes⟩, port) := by
  have hport : readU16 (xorValue family port (List.zipWith (· ^^^ ·) bytes mask)) 2 =
      port ^^^ (kStunMagicCookie >>> 16).toUInt16 := by
    have hright := readU16_append_right [0, family]
      (u16Bytes (port ^^^ (kStunMagicCookie >>> 16).toUInt16) ++
        List.zipWith (· ^^^ ·) bytes mask) 0
    rw [readU16_u16Bytes] at hright
    exact hright
  have hdrop : (xorValue family port (List.zipWith (· ^^^ ·) bytes mask)).drop 4 =
      List.zipWith (· ^^^ ·) bytes mask := rfl
  have hfamily : byteAt (xorValue family port (List.zipWith (· ^^^ ·) bytes mask)) 1 =
      family.toNat := rfl
  have htwo : decide (family.toNat = 2) = decide (family = 2) :=
    decide_eq_decide.mpr (UInt8.toNat_inj (b := 2))
  rw [unxorMappedAddress, hport, hdrop, hfamily, hmask, xor_twice hlength, htwo,
    UInt16.xor_assoc, UInt16.xor_self, UInt16.xor_zero]

theorem makeXorMappedAddressValue_ok {primitives : Primitives} {ip : Text} (port : UInt16)
    (transactionId : Block kStunTransactionIdSize) {address : ParsedIpAddress}
    (hip : ip ≠ []) (haddress : primitives.inetPton ip = some address) :
    ∃ value, makeXorMappedAddressValue primitives ip port transactionId = .ok value ∧
      (value.length = 8 ∨ value.length = 20) ∧
      validateAddressAttributeValue value = .ok () ∧
      unxorMappedAddress transactionId value = (address, port) := by
  have hparse : parseIpAddress primitives ip = .ok address := by
    simp [parseIpAddress, ensure, orError, hip, haddress, bind, Except.bind]
  unfold Primitives.inetPton at haddress
  cases hv4 : primitives.inetPton4 (ip.takeWhile fun c => decide (c ≠ 0)) with
  | some ipv4 =>
      simp only [hv4, Option.some.injEq] at haddress
      subst haddress
      have hlength : (List.zipWith (· ^^^ ·) ipv4.1 kStunMagicCookieBytes).length = 4 := by
        simp [ipv4.2, kStunMagicCookieBytes]
      refine ⟨xorValue 1 port (List.zipWith (· ^^^ ·) ipv4.1 kStunMagicCookieBytes), ?_, ?_, ?_, ?_⟩
      · simp [makeXorMappedAddressValue, hparse, bind, Except.bind, xorValue]
      · left
        rw [xorValue_length, hlength]
      · exact xorValue_valid port (Or.inl ⟨rfl, hlength⟩)
      · exact unxor_xorValue transactionId 1 port (by rw [ipv4.2]; decide) rfl
  | none =>
      simp only [hv4, Option.map_eq_some_iff] at haddress
      obtain ⟨ipv6, -, rfl⟩ := haddress
      have hlength : (List.zipWith (· ^^^ ·) ipv6.1
          (kStunMagicCookieBytes ++ transactionId.1)).length = 16 := by
        simp [ipv6.2, kStunMagicCookieBytes, transactionId.2, kStunTransactionIdSize]
      refine ⟨xorValue 2 port (List.zipWith (· ^^^ ·) ipv6.1
        (kStunMagicCookieBytes ++ transactionId.1)), ?_, ?_, ?_, ?_⟩
      · simp [makeXorMappedAddressValue, hparse, bind, Except.bind, xorValue]
      · right
        rw [xorValue_length, hlength]
      · exact xorValue_valid port (Or.inr ⟨rfl, hlength⟩)
      · refine unxor_xorValue transactionId 2 port ?_ (List.append_nil _).symm
        simp [ipv6.2, kStunMagicCookieBytes, transactionId.2, kStunTransactionIdSize]

/-- An attribute whose value needs no padding. -/
theorem elementBytes_aligned (kind : UInt16) {value : List UInt8} (h : value.length % 4 = 0) :
    elementBytes kind value = u16Bytes kind ++ u16Bytes (UInt16.ofNat value.length) ++ value := by
  simp [elementBytes, paddingSize, h]

theorem elementBytes_aligned_length (kind : UInt16) {value : List UInt8}
    (h : value.length % 4 = 0) : (elementBytes kind value).length = value.length + 4 := by
  rw [elementBytes_length, paddingSize, if_pos h]
  omega

/-- The integrity of a header and a body: over both, with the length which includes it. -/
theorem appendMessageIntegrity_head (primitives : Primitives)
    (transactionId : Block kStunTransactionIdSize) (length : UInt16) {body : List UInt8}
    {key : Text} (hlarge : body.length + 24 ≤ 65535) (haligned : body.length % 4 = 0)
    (hkey : key ≠ []) (hsize : key.length ≤ kIntMax) :
    appendMessageIntegrity primitives (responseHead transactionId length ++ body) key =
      .ok (responseHead transactionId (UInt16.ofNat (body.length + 24)) ++ (body ++
        elementBytes kStunAttributeMessageIntegrity (primitives.hmacSha1 key
          (responseHead transactionId (UInt16.ofNat (body.length + 24)) ++ body)).1)) := by
  have hhead := responseHead_length transactionId
  have hmessage : (responseHead transactionId length ++ (body ++
      (u16Bytes kStunAttributeMessageIntegrity ++
        (u16Bytes (UInt16.ofNat kStunMessageIntegritySize) ++
          List.replicate kStunMessageIntegritySize 0)))).length - kStunHeaderSize =
      body.length + 24 := by
    simp only [List.length_append, hhead, u16Bytes_length, List.length_replicate,
      kStunMessageIntegritySize]
    omega
  have hset := setStunMessageLength_head transactionId length (body ++
    (u16Bytes kStunAttributeMessageIntegrity ++
      (u16Bytes (UInt16.ofNat kStunMessageIntegritySize) ++
        List.replicate kStunMessageIntegritySize 0))) hlarge (by omega)
  have hcovered : (responseHead transactionId (UInt16.ofNat (body.length + 24)) ++ (body ++
      (u16Bytes kStunAttributeMessageIntegrity ++
        (u16Bytes (UInt16.ofNat kStunMessageIntegritySize) ++
          List.replicate kStunMessageIntegritySize 0)))).take
        (responseHead transactionId length ++ body).length =
      responseHead transactionId (UInt16.ofNat (body.length + 24)) ++ body := by
    rw [← List.append_assoc]
    exact List.take_left' (by simp [hhead])
  have hkept : (responseHead transactionId (UInt16.ofNat (body.length + 24)) ++ (body ++
      (u16Bytes kStunAttributeMessageIntegrity ++
        (u16Bytes (UInt16.ofNat kStunMessageIntegritySize) ++
          List.replicate kStunMessageIntegritySize 0)))).take
        (responseHead transactionId length ++ (body ++
          (u16Bytes kStunAttributeMessageIntegrity ++
            u16Bytes (UInt16.ofNat kStunMessageIntegritySize)))).length =
      responseHead transactionId (UInt16.ofNat (body.length + 24)) ++ (body ++
        (u16Bytes kStunAttributeMessageIntegrity ++
          u16Bytes (UInt16.ofNat kStunMessageIntegritySize))) := by
    simp only [← List.append_assoc]
    exact List.take_left' (by simp [hhead])
  have hrest : ∀ digest : Block kStunMessageIntegritySize,
      (responseHead transactionId (UInt16.ofNat (body.length + 24)) ++ (body ++
      (u16Bytes kStunAttributeMessageIntegrity ++
        (u16Bytes (UInt16.ofNat kStunMessageIntegritySize) ++
          List.replicate kStunMessageIntegritySize 0)))).drop
        ((responseHead transactionId length ++ (body ++
          (u16Bytes kStunAttributeMessageIntegrity ++
            u16Bytes (UInt16.ofNat kStunMessageIntegritySize)))).length + digest.1.length) =
      [] := by
    intro digest
    refine List.drop_eq_nil_of_le ?_
    simp only [List.length_append, hhead, u16Bytes_length, List.length_replicate, digest.2]
    omega
  have hdigest := (primitives.hmacSha1 key
    (responseHead transactionId (UInt16.ofNat (body.length + 24)) ++ body)).2
  have helement := elementBytes_aligned kStunAttributeMessageIntegrity
    (show (primitives.hmacSha1 key (responseHead transactionId
      (UInt16.ofNat (body.length + 24)) ++ body)).1.length % 4 = 0 by rw [hdigest]; decide)
  rw [hdigest] at helement
  simp only [appendMessageIntegrity, ensure, ne_eq, hkey, not_false_eq_true, if_true,
    List.append_assoc, hmessage, hset, bind, Except.bind, calculateHmacSha1, if_false,
    not_lt.mpr hsize, hcovered, hkept, hrest, List.append_nil, helement]

/-- The fingerprint of a header and a body, with the length which includes it. -/
theorem appendFingerprint_head (transactionId : Block kStunTransactionIdSize) (length : UInt16)
    {body : List UInt8} (hlarge : body.length + 8 ≤ 65535) (haligned : body.length % 4 = 0) :
    appendFingerprint (responseHead transactionId length ++ body) =
      .ok (responseHead transactionId (UInt16.ofNat (body.length + 8)) ++ body ++
        elementBytes kStunAttributeFingerprint (u32Bytes (calculateCrc32
          (responseHead transactionId (UInt16.ofNat (body.length + 8)) ++ body) ^^^
            kStunFingerprintXorValue))) := by
  have hhead := responseHead_length transactionId
  have hmessage : (responseHead transactionId length ++ (body ++
      (u16Bytes kStunAttributeFingerprint ++
        (u16Bytes (UInt16.ofNat kStunFingerprintSize) ++ u32Bytes 0)))).length -
      kStunHeaderSize = body.length + 8 := by
    simp only [List.length_append, hhead, u16Bytes_length, u32Bytes_length]
    omega
  have hset := setStunMessageLength_head transactionId length (body ++
    (u16Bytes kStunAttributeFingerprint ++
      (u16Bytes (UInt16.ofNat kStunFingerprintSize) ++ u32Bytes 0))) hlarge (by omega)
  have hcovered : (responseHead transactionId (UInt16.ofNat (body.length + 8)) ++ (body ++
      (u16Bytes kStunAttributeFingerprint ++
        (u16Bytes (UInt16.ofNat kStunFingerprintSize) ++ u32Bytes 0)))).take
        (responseHead transactionId length ++ body).length =
      responseHead transactionId (UInt16.ofNat (body.length + 8)) ++ body := by
    rw [← List.append_assoc]
    exact List.take_left' (by simp [hhead])
  have hwrite : ∀ v : UInt32, writeU32 (responseHead transactionId
      (UInt16.ofNat (body.length + 8)) ++ (body ++ (u16Bytes kStunAttributeFingerprint ++
        (u16Bytes (UInt16.ofNat kStunFingerprintSize) ++ u32Bytes 0))))
        (responseHead transactionId length ++ (body ++ (u16Bytes kStunAttributeFingerprint ++
          u16Bytes (UInt16.ofNat kStunFingerprintSize)))).length v =
      responseHead transactionId (UInt16.ofNat (body.length + 8)) ++ (body ++
        elementBytes kStunAttributeFingerprint (u32Bytes v)) := by
    intro v
    have hright := writeU32_append_right (responseHead transactionId
      (UInt16.ofNat (body.length + 8)) ++ (body ++ (u16Bytes kStunAttributeFingerprint ++
        u16Bytes (UInt16.ofNat kStunFingerprintSize)))) (u32Bytes 0) 0 v
    have hvalue : writeU32 (u32Bytes 0) 0 v = u32Bytes v := rfl
    have helement := elementBytes_aligned kStunAttributeFingerprint
      (show (u32Bytes v).length % 4 = 0 by rw [u32Bytes_length])
    rw [u32Bytes_length] at helement
    simp only [List.length_append, hhead, Nat.add_zero, List.append_assoc, hvalue] at hright ⊢
    rw [hright, helement]
    simp only [List.append_assoc, kStunFingerprintSize]
  simp only [appendFingerprint, List.append_assoc, hmessage, hset, bind, Except.bind, hcovered,
    hwrite]

theorem write_eq {primitives : Primitives} {request : StunMessage} {ip : Text} {port : UInt16}
    {key : Text} {value : List UInt8} (hmethod : request.method = .binding)
    (hclass : request.messageClass = .request) (hip : ip ≠ []) (hport : port ≠ 0)
    (hkey : key ≠ []) (hsize : key.length ≤ kIntMax)
    (hmake : makeXorMappedAddressValue primitives ip port request.transactionId = .ok value)
    (hvalue : value.length = 8 ∨ value.length = 20) :
    writeStunBindingSuccessResponse primitives request ip port key =
      .ok (responsePacket request.transactionId value
        (responseDigest primitives request.transactionId value key)) := by
  have hmapped : (elementBytes kStunAttributeXorMappedAddress value).length =
      value.length + 4 := elementBytes_aligned_length _ (by omega)
  have hintegrity : ∀ digest : Block kStunMessageIntegritySize,
      (elementBytes kStunAttributeMessageIntegrity digest.1).length = 24 := by
    intro digest
    rw [elementBytes_aligned_length _ (by rw [digest.2]; decide), digest.2]
    rfl
  have hhead : makeStunHeader (encodeMessageType kStunBindingMethod .successResponse)
      request.transactionId = responseHead request.transactionId 0 := rfl
  have hset := setStunMessageLength_head request.transactionId 0
    (elementBytes kStunAttributeXorMappedAddress value)
    (show value.length + 4 ≤ 65535 by omega) (by omega)
  have hlength : (responseHead request.transactionId 0 ++
      elementBytes kStunAttributeXorMappedAddress value).length - kStunHeaderSize =
      value.length + 4 := by
    rw [List.length_append, responseHead_length, hmapped]
    omega
  have hmi := appendMessageIntegrity_head primitives request.transactionId
    (UInt16.ofNat (value.length + 4)) (show (elementBytes kStunAttributeXorMappedAddress
      value).length + 24 ≤ 65535 by omega) (by omega) hkey hsize
  have hfp := appendFingerprint_head request.transactionId (UInt16.ofNat (value.length + 28))
    (show (elementBytes kStunAttributeXorMappedAddress value ++
        elementBytes kStunAttributeMessageIntegrity
          (responseDigest primitives request.transactionId value key).1).length + 8 ≤ 65535 by
      rw [List.length_append, hintegrity, hmapped]
      omega)
    (by
      rw [List.length_append, hintegrity, hmapped]
      omega)
  rw [hmapped] at hmi
  rw [List.length_append, hintegrity, hmapped, ← List.append_assoc, ← List.append_assoc] at hfp
  simp only [writeStunBindingSuccessResponse, validateBindingRequest,
    validateBindingSuccessResponse, ensure, hmethod, hclass, hip, hport, hkey, ne_eq,
    not_false_eq_true, if_true, bind, Except.bind, hmake, hhead, appendAttribute,
    show ¬65535 < value.length by omega, if_false, hlength, hset]
  rw [hmi, ← List.append_assoc]
  exact hfp

/-! ## What the reader makes of it -/

section Accepted
variable {transactionId : Block kStunTransactionIdSize} {value : List UInt8}
  {digest : Block kStunMessageIntegritySize}

theorem responsePacket_length (hvalue : value.length = 8 ∨ value.length = 20) :
    (responsePacket transactionId value digest).length = value.length + 56 := by
  have hmapped : (elementBytes kStunAttributeXorMappedAddress value).length =
      value.length + 4 := elementBytes_aligned_length _ (by omega)
  have hintegrity : (elementBytes kStunAttributeMessageIntegrity digest.1).length = 24 := by
    rw [elementBytes_aligned_length _ (by rw [digest.2]; decide), digest.2]
    rfl
  have hfingerprint : (elementBytes kStunAttributeFingerprint (responseFingerprint
      (responseCovered transactionId value digest))).length = 8 := by
    rw [elementBytes_aligned_length _ (by rw [responseFingerprint, u32Bytes_length]),
      responseFingerprint, u32Bytes_length]
  rw [responsePacket, List.length_append, hfingerprint, responseCovered, List.length_append,
    List.length_append, responseHead_length, hmapped, hintegrity]
  unfold kStunHeaderSize
  omega

/-- The words of the header of a response. -/
theorem responseHead_words (transactionId : Block kStunTransactionIdSize) (length : UInt16)
    (rest : List UInt8) :
    readU16 (responseHead transactionId length ++ rest) 0 =
        encodeMessageType kStunBindingMethod .successResponse ∧
      readU16 (responseHead transactionId length ++ rest) 2 = length ∧
      readU32 (responseHead transactionId length ++ rest) 4 = kStunMagicCookie ∧
      byteAt (responseHead transactionId length ++ rest) 0 &&& 0xC0 = 0 ∧
      transactionIdOf (responseHead transactionId length ++ rest) = transactionId := by
  refine ⟨?_, ?_, ?_, ?_, ?_⟩
  · simp only [responseHead, List.append_assoc, readU16_u16Bytes]
  · have hright := readU16_append_right
      (u16Bytes (encodeMessageType kStunBindingMethod .successResponse))
      (u16Bytes length ++ (u32Bytes kStunMagicCookie ++ (transactionId.1 ++ rest))) 0
    rw [readU16_u16Bytes, u16Bytes_length] at hright
    simpa only [responseHead, List.append_assoc] using hright
  · have hright := readU32_append_right
      (u16Bytes (encodeMessageType kStunBindingMethod .successResponse) ++ u16Bytes length)
      (u32Bytes kStunMagicCookie ++ (transactionId.1 ++ rest)) 0
    rw [readU32_u32Bytes, List.length_append, u16Bytes_length, u16Bytes_length] at hright
    simpa only [responseHead, List.append_assoc] using hright
  · have htype : u16Bytes (encodeMessageType kStunBindingMethod .successResponse) = [1, 1] := by
      decide
    simp only [responseHead, htype, List.append_assoc, List.cons_append, byteAt_cons_zero]
    decide
  · refine Subtype.ext (List.ext_getElem ?_ ?_)
    · rw [(transactionIdOf _).2, transactionId.2]
    · intro i hi hi'
      have hfront : (u16Bytes (encodeMessageType kStunBindingMethod .successResponse) ++
          u16Bytes length ++ u32Bytes kStunMagicCookie).length = 8 := rfl
      simp only [transactionIdOf, List.getElem_map, List.getElem_range, responseHead,
        List.getD_eq_getElem?_getD]
      rw [List.append_assoc, List.getElem?_append_right (by rw [hfront]; omega), hfront,
        Nat.add_sub_cancel_left, List.getElem?_append_left hi', List.getElem?_eq_getElem hi',
        Option.getD_some]

theorem responsePacket_head (transactionId : Block kStunTransactionIdSize) (value : List UInt8)
    (digest : Block kStunMessageIntegritySize) : ∃ rest, responsePacket transactionId value digest =
    responseHead transactionId (UInt16.ofNat (value.length + 36)) ++ rest := by
  rw [responsePacket, responseCovered, List.append_assoc, List.append_assoc]
  exact ⟨_, rfl⟩

theorem responsePacket_totalSize (hvalue : value.length = 8 ∨ value.length = 20) :
    totalSize (responsePacket transactionId value digest) =
      (responsePacket transactionId value digest).length := by
  rw [responsePacket_length hvalue]
  obtain ⟨rest, heq⟩ := responsePacket_head transactionId value digest
  rw [totalSize, heq, (responseHead_words transactionId _ rest).2.1]
  have hsmall : (UInt16.ofNat (value.length + 36)).toNat = value.length + 36 := by
    rw [UInt16.toNat_ofNat']
    omega
  rw [hsmall]
  unfold kStunHeaderSize
  omega

theorem responsePacket_valid (hvalue : value.length = 8 ∨ value.length = 20) :
    validateStunHeader (responsePacket transactionId value digest) = .ok () ∧
      isStunPacket (responsePacket transactionId value digest) = true := by
  have hlength : (responsePacket transactionId value digest).length = value.length + 56 :=
    responsePacket_length hvalue
  have htotal : totalSize (responsePacket transactionId value digest) =
      (responsePacket transactionId value digest).length := responsePacket_totalSize hvalue
  have haligned : (readU16 (responsePacket transactionId value digest) 2).toNat % 4 = 0 := by
    unfold totalSize kStunHeaderSize at htotal
    omega
  obtain ⟨rest, heq⟩ := responsePacket_head transactionId value digest
  obtain ⟨-, -, hcookie, hbits, -⟩ :=
    responseHead_words transactionId (UInt16.ofNat (value.length + 36)) rest
  rw [← heq] at hcookie hbits
  have hlong : ¬(responsePacket transactionId value digest).length < kStunHeaderSize := by
    unfold kStunHeaderSize
    omega
  constructor
  · simp [validateStunHeader, hlong, hbits, haligned, hcookie, htotal]
  · simp [isStunPacket, hlong, hbits, haligned, hcookie, htotal]

/-- The three attributes of a response. -/
def mappedElement (transactionId : Block kStunTransactionIdSize) (value : List UInt8) : Element :=
  writtenElement (responseHead transactionId (UInt16.ofNat (value.length + 36)))
    kStunAttributeXorMappedAddress value

def integrityElement (transactionId : Block kStunTransactionIdSize) (value : List UInt8)
    (digest : Block kStunMessageIntegritySize) : Element :=
  writtenElement (responseHead transactionId (UInt16.ofNat (value.length + 36)) ++
    elementBytes kStunAttributeXorMappedAddress value) kStunAttributeMessageIntegrity digest.1

def fingerprintElement (transactionId : Block kStunTransactionIdSize) (value : List UInt8)
    (digest : Block kStunMessageIntegritySize) : Element :=
  writtenElement (responseCovered transactionId value digest) kStunAttributeFingerprint
    (responseFingerprint (responseCovered transactionId value digest))

theorem responsePacket_mapped (transactionId : Block kStunTransactionIdSize) (value : List UInt8)
    (digest : Block kStunMessageIntegritySize) : responsePacket transactionId value digest =
      responseHead transactionId (UInt16.ofNat (value.length + 36)) ++
        elementBytes kStunAttributeXorMappedAddress value ++
        (elementBytes kStunAttributeMessageIntegrity digest.1 ++
          elementBytes kStunAttributeFingerprint
            (responseFingerprint (responseCovered transactionId value digest))) := by
  rw [responsePacket, responseCovered, List.append_assoc]

theorem responsePacket_integrity (transactionId : Block kStunTransactionIdSize)
    (value : List UInt8) (digest : Block kStunMessageIntegritySize) :
    responsePacket transactionId value digest =
      responseHead transactionId (UInt16.ofNat (value.length + 36)) ++
        elementBytes kStunAttributeXorMappedAddress value ++
        elementBytes kStunAttributeMessageIntegrity digest.1 ++
          elementBytes kStunAttributeFingerprint
            (responseFingerprint (responseCovered transactionId value digest)) := by
  rw [responsePacket_mapped, List.append_assoc, List.append_assoc, List.append_assoc]

theorem responsePacket_fingerprint (transactionId : Block kStunTransactionIdSize)
    (value : List UInt8) (digest : Block kStunMessageIntegritySize) :
    responsePacket transactionId value digest = responseCovered transactionId value digest ++
      elementBytes kStunAttributeFingerprint
        (responseFingerprint (responseCovered transactionId value digest)) ++ [] := by
  rw [responsePacket, List.append_nil]

/-- Every walk over a response visits its three attributes and nothing else. -/
theorem walk_response {σ ρ : Type*} (hvalue : value.length = 8 ∨ value.length = 20)
    (visit : σ → Element → Except Text (Progress σ ρ)) (state : σ) :
    walk stunFaults (responsePacket transactionId value digest)
        (totalSize (responsePacket transactionId value digest)) visit
        (totalSize (responsePacket transactionId value digest)) kStunHeaderSize state =
      visitAll visit state [mappedElement transactionId value,
        integrityElement transactionId value digest,
        fingerprintElement transactionId value digest] := by
  have htotal : totalSize (responsePacket transactionId value digest) =
      (responsePacket transactionId value digest).length := responsePacket_totalSize hvalue
  have hlength : (responsePacket transactionId value digest).length = value.length + 56 :=
    responsePacket_length hvalue
  have hvalueSmall : value.length < 2 ^ 16 := by omega
  have hdigestSmall : digest.1.length < 2 ^ 16 := by
    rw [digest.2]
    decide
  have hcrcSmall : (responseFingerprint (responseCovered transactionId value
      digest)).length < 2 ^ 16 := by
    rw [responseFingerprint, u32Bytes_length]
    decide
  have hfuel := walk_fuel stunFaults (responsePacket transactionId value digest) visit
    (show (responsePacket transactionId value digest).length ≤
      kStunHeaderSize + (responsePacket transactionId value digest).length by omega)
    (show (responsePacket transactionId value digest).length ≤
      kStunHeaderSize + (value.length + 52 + 1 + 1 + 1 + 1) by omega) state
  rw [htotal, hfuel, ← responseHead_length transactionId (UInt16.ofNat (value.length + 36))]
  refine walk_written (responsePacket_mapped transactionId value digest) hvalueSmall ?_ state
  refine walk_written (responsePacket_integrity transactionId value digest) hdigestSmall ?_
  refine walk_written (responsePacket_fingerprint transactionId value digest) hcrcSmall ?_
  intro state
  have hend : (responsePacket transactionId value digest).length ≤
      (responseCovered transactionId value digest ++ elementBytes kStunAttributeFingerprint
        (responseFingerprint (responseCovered transactionId value digest))).length := le_refl _
  rw [walk, if_pos hend, visitAll]

theorem attributes_response (hvalue : value.length = 8 ∨ value.length = 20) :
    attributes (responsePacket transactionId value digest) =
      [mappedElement transactionId value, integrityElement transactionId value digest,
        fingerprintElement transactionId value digest] := by
  have htotal : totalSize (responsePacket transactionId value digest) =
      (responsePacket transactionId value digest).length := responsePacket_totalSize hvalue
  have hlength : (responsePacket transactionId value digest).length = value.length + 56 :=
    responsePacket_length hvalue
  have hfuel : elementsFrom (responsePacket transactionId value digest)
      (responsePacket transactionId value digest).length
      (responsePacket transactionId value digest).length kStunHeaderSize =
      elementsFrom (responsePacket transactionId value digest)
        (responsePacket transactionId value digest).length (value.length + 52 + 1 + 1 + 1 + 1)
        kStunHeaderSize :=
    congrArg (fun fuel => elementsFrom (responsePacket transactionId value digest)
      (responsePacket transactionId value digest).length fuel kStunHeaderSize) hlength
  have hend : (responsePacket transactionId value digest).length ≤
      (responseCovered transactionId value digest ++ elementBytes kStunAttributeFingerprint
        (responseFingerprint (responseCovered transactionId value digest))).length := le_refl _
  rw [attributes, htotal, hfuel,
    ← responseHead_length transactionId (UInt16.ofNat (value.length + 36)),
    elementsFrom_written (by omega) (responsePacket_mapped transactionId value digest),
    elementsFrom_written (by rw [digest.2]; decide)
      (responsePacket_integrity transactionId value digest),
    ← responseCovered,
    elementsFrom_written (by rw [responseFingerprint, u32Bytes_length]; decide)
      (responsePacket_fingerprint transactionId value digest),
    elementsFrom_succ, if_pos (Or.inl hend)]
  rfl

theorem mappedElement_value (hvalue : value.length = 8 ∨ value.length = 20) :
    (mappedElement transactionId value).value (responsePacket transactionId value digest) =
      value := by
  rw [responsePacket_mapped, mappedElement, value_written (by omega)]

theorem integrityElement_value :
    (integrityElement transactionId value digest).value
      (responsePacket transactionId value digest) = digest.1 := by
  rw [responsePacket_integrity, integrityElement, value_written (by rw [digest.2]; decide)]

theorem fingerprintElement_value :
    (fingerprintElement transactionId value digest).value
      (responsePacket transactionId value digest) =
      responseFingerprint (responseCovered transactionId value digest) := by
  rw [responsePacket_fingerprint, fingerprintElement,
    value_written (by rw [responseFingerprint, u32Bytes_length]; decide)]

theorem parse_response (hvalue : value.length = 8 ∨ value.length = 20)
    (hvalid : validateAddressAttributeValue value = .ok ()) :
    ∃ message, parseStunMessage (responsePacket transactionId value digest) = .ok message ∧
      message.method = .binding ∧ message.messageClass = .successResponse ∧
      message.transactionId = transactionId ∧ message.hasMessageIntegrity = true ∧
      message.hasFingerprint = true := by
  have hmapped : ∀ message, parseAttribute (responsePacket transactionId value digest) message
      (mappedElement transactionId value) = .ok (.going message) := by
    intro message
    rw [parseAttribute, mappedElement_value hvalue]
    simp [mappedElement, writtenElement, decodeKnownAttribute, hvalid, Except.map]
  have hintegrity : ∀ message, parseAttribute (responsePacket transactionId value digest) message
      (integrityElement transactionId value digest) =
      .ok (.going { message with hasMessageIntegrity := true }) := by
    intro message
    rw [parseAttribute, integrityElement_value]
    simp only [integrityElement, writtenElement, decodeKnownAttribute, digest.2]
    rfl
  have hfingerprint : ∀ message, parseAttribute (responsePacket transactionId value digest) message
      (fingerprintElement transactionId value digest) =
      .ok (.going { message with hasFingerprint := true }) := by
    intro message
    rw [parseAttribute, fingerprintElement_value]
    simp only [fingerprintElement, writtenElement, decodeKnownAttribute, responseFingerprint,
      u32Bytes_length]
    rfl
  obtain ⟨rest, heq⟩ := responsePacket_head transactionId value digest
  obtain ⟨htype, -, -, -, htransaction⟩ :=
    responseHead_words transactionId (UInt16.ofNat (value.length + 36)) rest
  rw [← heq] at htype htransaction
  refine ⟨{ headerMessage (responsePacket transactionId value digest) with
    hasMessageIntegrity := true
    hasFingerprint := true }, ?_, ?_, ?_, ?_, rfl, rfl⟩
  · simp only [parseStunMessage, (responsePacket_valid hvalue).1, bind, Except.bind,
      walk_response hvalue, visitAll, hmapped, hintegrity, hfingerprint]
  · simp only [headerMessage, htype]
    decide
  · simp only [headerMessage, htype]
    decide
  · exact htransaction

theorem constantTimeEqual_self (bytes : List UInt8) : constantTimeEqual bytes bytes = true := by
  have hzero : ∀ bytes : List UInt8,
      (List.zipWith (· ^^^ ·) bytes bytes).foldl (· ||| ·) 0 = 0 := by
    intro bytes
    induction bytes with
    | nil => rfl
    | cons b bytes ih =>
        rw [List.zipWith_cons_cons, List.foldl_cons, UInt8.xor_self]
        exact ih
  rw [constantTimeEqual, hzero]
  simp

theorem mappedElement_end (hvalue : value.length = 8 ∨ value.length = 20) :
    (responseHead transactionId (UInt16.ofNat (value.length + 36)) ++
      elementBytes kStunAttributeXorMappedAddress value).length = value.length + 24 := by
  rw [List.length_append, responseHead_length, elementBytes_aligned_length _ (by omega)]
  unfold kStunHeaderSize
  omega

theorem findMessageIntegrity_response (hvalue : value.length = 8 ∨ value.length = 20) :
    findMessageIntegrityAttribute (responsePacket transactionId value digest) =
      .ok ⟨value.length + 24, value.length + 28⟩ := by
  have hmapped : seek kStunAttributeMessageIntegrity foundMessageIntegrity ()
      (mappedElement transactionId value) = .ok (.going ()) := rfl
  have hintegrity : seek kStunAttributeMessageIntegrity foundMessageIntegrity ()
      (integrityElement transactionId value digest) =
      .ok (.done ⟨value.length + 24, value.length + 28⟩) := by
    simp only [seek, integrityElement, writtenElement, foundMessageIntegrity, digest.2,
      Element.valueOffset, mappedElement_end hvalue]
    rfl
  simp only [findMessageIntegrityAttribute, bind, Except.bind, walk_response hvalue, visitAll,
    hmapped, hintegrity]

/-- The digest is the one over the header with the length up to the integrity. -/
theorem integrity_response {primitives : Primitives} {key : Text}
    (hvalue : value.length = 8 ∨ value.length = 20) (hkey : key ≠ [])
    (hsize : key.length ≤ kIntMax) :
    verifyStunMessageIntegrity primitives (responsePacket transactionId value
      (responseDigest primitives transactionId value key)) key = .ok () := by
  have hlength : value.length + 28 + kStunMessageIntegritySize - kStunHeaderSize =
      value.length + 28 := by
    unfold kStunMessageIntegritySize kStunHeaderSize
    omega
  have hinput : (responsePacket transactionId value (responseDigest primitives transactionId value
      key)).take (value.length + 24) =
      responseHead transactionId (UInt16.ofNat (value.length + 36)) ++
        elementBytes kStunAttributeXorMappedAddress value := by
    rw [responsePacket_mapped]
    exact List.take_left' (mappedElement_end hvalue)
  have hexpected : ((responsePacket transactionId value (responseDigest primitives transactionId
      value key)).drop (value.length + 28)).take kStunMessageIntegritySize =
      (responseDigest primitives transactionId value key).1 := by
    have helement : (integrityElement transactionId value
        (responseDigest primitives transactionId value key)).value (responsePacket transactionId
          value (responseDigest primitives transactionId value key)) = _ := integrityElement_value
    simp only [Element.value, Element.valueOffset, integrityElement, writtenElement,
      mappedElement_end hvalue, (responseDigest primitives transactionId value key).2] at helement
    exact helement
  simp only [verifyStunMessageIntegrity, (responsePacket_valid hvalue).1, ensure, ne_eq, hkey,
    not_false_eq_true, if_true, findMessageIntegrity_response hvalue, hlength, bind, Except.bind,
    show value.length + 28 ≤ 65535 by omega, hinput, writeU16_head, calculateHmacSha1, if_false,
    not_lt.mpr hsize, hexpected]
  have hdigest : primitives.hmacSha1 key (responseHead transactionId
      (UInt16.ofNat (value.length + 28)) ++ elementBytes kStunAttributeXorMappedAddress value) =
      responseDigest primitives transactionId value key := rfl
  rw [hdigest, constantTimeEqual_self, if_neg (by decide)]

theorem responseCovered_length (hvalue : value.length = 8 ∨ value.length = 20) :
    (responseCovered transactionId value digest).length = value.length + 48 := by
  rw [responseCovered, List.length_append, mappedElement_end hvalue,
    elementBytes_aligned_length _ (by rw [digest.2]; decide), digest.2]
  rfl

theorem readU32_fingerprint (hvalue : value.length = 8 ∨ value.length = 20) :
    readU32 (responsePacket transactionId value digest) (value.length + 52) =
      calculateCrc32 (responseCovered transactionId value digest) ^^^ kStunFingerprintXorValue := by
  have hright := readU32_append_right (responseCovered transactionId value digest ++
    (u16Bytes kStunAttributeFingerprint ++ u16Bytes (UInt16.ofNat kStunFingerprintSize)))
    (responseFingerprint (responseCovered transactionId value digest)) 0
  have hpacket : responsePacket transactionId value digest =
      responseCovered transactionId value digest ++
        (u16Bytes kStunAttributeFingerprint ++ u16Bytes (UInt16.ofNat kStunFingerprintSize)) ++
        responseFingerprint (responseCovered transactionId value digest) := by
    rw [responsePacket, elementBytes_aligned _ (by rw [responseFingerprint, u32Bytes_length])]
    simp only [responseFingerprint, u32Bytes_length, List.append_assoc, kStunFingerprintSize]
  have hvalueRead := readU32_u32Bytes (calculateCrc32 (responseCovered transactionId value
    digest) ^^^ kStunFingerprintXorValue) []
  rw [List.append_nil] at hvalueRead
  rw [List.length_append, responseCovered_length hvalue, ← hpacket] at hright
  exact hright.trans hvalueRead

theorem findFingerprint_response (hvalue : value.length = 8 ∨ value.length = 20) :
    findFingerprintAttribute (responsePacket transactionId value digest) =
      .ok ⟨value.length + 48, value.length + 52, calculateCrc32
        (responseCovered transactionId value digest) ^^^ kStunFingerprintXorValue⟩ := by
  have hmapped : seek kStunAttributeFingerprint (foundFingerprint (responsePacket transactionId
      value digest)) () (mappedElement transactionId value) = .ok (.going ()) := rfl
  have hintegrity : seek kStunAttributeFingerprint (foundFingerprint (responsePacket transactionId
      value digest)) () (integrityElement transactionId value digest) = .ok (.going ()) := rfl
  have hsize : (fingerprintElement transactionId value digest).length.toNat =
      kStunFingerprintSize := by
    simp only [fingerprintElement, writtenElement, responseFingerprint, u32Bytes_length]
    rfl
  have hlast : (fingerprintElement transactionId value digest).paddedEnd =
      totalSize (responsePacket transactionId value digest) := by
    rw [responsePacket_totalSize hvalue, fingerprintElement,
      writtenElement_paddedEnd (by rw [responseFingerprint, u32Bytes_length]; decide)]
    rfl
  have hoffset : (fingerprintElement transactionId value digest).offset = value.length + 48 :=
    responseCovered_length hvalue
  have hvalueOffset : (fingerprintElement transactionId value digest).valueOffset =
      value.length + 52 := by
    rw [Element.valueOffset, hoffset]
  have hfingerprint : seek kStunAttributeFingerprint (foundFingerprint (responsePacket
      transactionId value digest)) () (fingerprintElement transactionId value digest) =
      .ok (.done ⟨value.length + 48, value.length + 52, calculateCrc32
        (responseCovered transactionId value digest) ^^^ kStunFingerprintXorValue⟩) := by
    have hkind : (fingerprintElement transactionId value digest).kind =
        kStunAttributeFingerprint := rfl
    rw [seek, if_pos hkind, foundFingerprint, if_neg (not_not.mpr hsize), if_neg (not_not.mpr hlast),
      hoffset, hvalueOffset, readU32_fingerprint hvalue]
    rfl
  simp only [findFingerprintAttribute, bind, Except.bind, walk_response hvalue, visitAll,
    hmapped, hintegrity, hfingerprint]

theorem fingerprint_response (hvalue : value.length = 8 ∨ value.length = 20) :
    verifyStunFingerprint (responsePacket transactionId value digest) = .ok () := by
  have hcovered : (responsePacket transactionId value digest).take (value.length + 48) =
      responseCovered transactionId value digest := by
    rw [responsePacket]
    exact List.take_left' (responseCovered_length hvalue)
  simp only [verifyStunFingerprint, (responsePacket_valid hvalue).1, findFingerprint_response hvalue,
    bind, Except.bind, hcovered, ne_eq, not_true_eq_false, if_false]

end Accepted

/-- A response of the writer passes the program's own checks and carries the address. -/
theorem write_accepted (primitives : Primitives) {request : StunMessage} {ip : Text}
    {address : ParsedIpAddress} {port : UInt16} {key : Text}
    (hmethod : request.method = .binding) (hclass : request.messageClass = .request)
    (hip : ip ≠ []) (haddress : primitives.inetPton ip = some address) (hport : port ≠ 0)
    (hkey : key ≠ []) (hsize : key.length ≤ kIntMax) :
    ∃ packet, writeStunBindingSuccessResponse primitives request ip port key = .ok packet ∧
      AcceptedResponse primitives request address port key packet := by
  obtain ⟨value, hmake, hvalue, hvalid, hunxor⟩ :=
    makeXorMappedAddressValue_ok port request.transactionId hip haddress
  refine ⟨_, write_eq hmethod hclass hip hport hkey hsize hmake hvalue, ?_⟩
  exact
    { isStun := (responsePacket_valid hvalue).2
      parsed := parse_response hvalue hvalid
      integrity := integrity_response hvalue hkey hsize
      fingerprint := fingerprint_response hvalue
      mapped := by
        refine ⟨mappedElement request.transactionId value, ?_, ?_⟩
        · rw [attributes_response hvalue]
          rfl
        · rw [mappedElement_value hvalue]
          exact hunxor }

def checkRequest : StunMessage where
  method := .binding
  messageClass := .request
  transactionId := ⟨[1, 2, 3, 4, 5, 6, 7, 8, 9, 10, 11, 12], rfl⟩

theorem write_accepted_loopback :
    ∃ packet, writeStunBindingSuccessResponse loopbackEnvironment.toPrimitives checkRequest
        (ascii "127.0.0.1") 3478 (ascii "p") = .ok packet ∧
      AcceptedResponse loopbackEnvironment.toPrimitives checkRequest ⟨false, [127, 0, 0, 1]⟩ 3478
        (ascii "p") packet :=
  write_accepted loopbackEnvironment.toPrimitives rfl rfl (by decide) (by decide) (by decide)
    (by decide) (by decide)

/-- A key which does not fit the length argument of the HMAC is refused. -/
theorem write_refuses (primitives : Primitives) (request : StunMessage) (ip : Text) (port : UInt16)
    {key : Text} (hsize : kIntMax < key.length) (packet : List UInt8) :
    writeStunBindingSuccessResponse primitives request ip port key ≠ .ok packet := by
  intro h
  obtain ⟨_, -, h⟩ := bind_ok.mp h
  obtain ⟨_, -, h⟩ := bind_ok.mp h
  obtain ⟨value, -, h⟩ := bind_ok.mp h
  obtain ⟨withAddress, -, h⟩ := bind_ok.mp h
  obtain ⟨withLength, -, h⟩ := bind_ok.mp h
  obtain ⟨withIntegrity, hintegrity, -⟩ := bind_ok.mp h
  obtain ⟨_, -, hintegrity⟩ := bind_ok.mp hintegrity
  obtain ⟨covered, -, hintegrity⟩ := bind_ok.mp hintegrity
  obtain ⟨digest, hdigest, -⟩ := bind_ok.mp hintegrity
  rw [calculateHmacSha1, if_neg (List.ne_nil_of_length_pos (by omega)), if_pos hsize] at hdigest
  cases hdigest

theorem write_not_accepted :
    ¬ ∀ (primitives : Primitives) (request : StunMessage) (ip : Text) (address : ParsedIpAddress)
      (port : UInt16) (key : Text), request.method = .binding → request.messageClass = .request →
      primitives.inetPton ip = some address → port ≠ 0 → key ≠ [] →
      ∃ packet, writeStunBindingSuccessResponse primitives request ip port key = .ok packet ∧
        AcceptedResponse primitives request address port key packet := by
  intro hall
  have hsize : kIntMax < (List.replicate (kIntMax + 1) (112 : UInt8)).length := by
    rw [List.length_replicate]
    exact Nat.lt_succ_self kIntMax
  obtain ⟨packet, hpacket, -⟩ := hall loopbackEnvironment.toPrimitives checkRequest
    (ascii "127.0.0.1") ⟨false, [127, 0, 0, 1]⟩ 3478 _ rfl rfl (by decide) (by decide)
    (List.ne_nil_of_length_pos (lt_of_le_of_lt (Nat.zero_le _) hsize))
  exact write_refuses _ _ _ _ hsize packet hpacket

end SimpleWebrtc.Stun
