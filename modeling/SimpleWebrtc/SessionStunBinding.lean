import SimpleWebrtc.StunMessage

/-!
# STUN binding requests of a session

A session answers a connectivity check of its peer: the request names the two
username fragments of the session and carries a message integrity under the
session's password. The integrity covers the packet up to its attribute; the
parser reads the attributes behind it as well.
-/
namespace SimpleWebrtc.Stun
open Library Library.Bytes Library.Tlv

def kMaxIceUsernameFragmentSize : ℕ := 256
def kMaxIceUsernameSize : ℕ := kMaxIceUsernameFragmentSize * 2 + 1

structure IceUsernameParts where
  recipientUfrag : Text
  senderUfrag : Text
deriving Repr, DecidableEq

inductive IpAddress where
  | v4 (bytes : Block 4)
  | v6 (bytes : Block 16) (scopeId : UInt32)
deriving Repr, DecidableEq

structure UdpEndpoint where
  address : IpAddress
  port : UInt16
deriving Repr, DecidableEq

/-- The codec's functions, with the one which prints an address. -/
structure Environment extends Primitives where
  inetNtop : IpAddress → Option Text

structure SessionStunBindingContext where
  localIceUfrag : Text
  localIcePwd : Text
  remoteIceUfrag : Text
deriving Repr, DecidableEq

structure SessionUdpOutboundPacket where
  data : List UInt8
  remoteEndpoint : UdpEndpoint
deriving Repr, DecidableEq

structure SessionStunBindingResult where
  handled : Bool := false
  nominated : Bool := false
  response : Option SessionUdpOutboundPacket := none
deriving Repr, DecidableEq

/-! ## The checks of a request -/

def isValidIceUsernameCharacter (c : UInt8) : Bool :=
  Text.isDigit c || (decide (65 ≤ c) && decide (c ≤ 90)) || (decide (97 ≤ c) && decide (c ≤ 122)) ||
    decide (c = 43) || decide (c = 47)

def makeFieldError (field message : Text) : Text := field ++ [32] ++ message

def validateIceUsernameFragment (fragment fieldName : Text) : Except Text Unit := do
  ensure (fragment ≠ []) (makeFieldError fieldName (ascii "is empty"))
  ensure (fragment.length ≤ kMaxIceUsernameFragmentSize)
    (makeFieldError fieldName (ascii "is too large"))
  ensure (fragment.all isValidIceUsernameCharacter = true)
    (makeFieldError fieldName (ascii "contains invalid characters"))

def parseIceUsername (username : Text) : Except Text IceUsernameParts := do
  ensure (username ≠ []) (ascii "ice username is empty")
  ensure (username.length ≤ kMaxIceUsernameSize) (ascii "ice username is too large")
  let (recipient, sender) ← orError (ascii "ice username separator is missing")
    (Text.cut (fun c => decide (c = 58)) username)
  ensure (sender.contains 58 = false) (ascii "ice username contains multiple separators")
  validateIceUsernameFragment recipient (ascii "ice username recipient ufrag")
  validateIceUsernameFragment sender (ascii "ice username sender ufrag")
  pure ⟨recipient, sender⟩

def validateIceConnectivityCheck (message : StunMessage) : Except Text Unit := do
  let priority ← orError (ascii "ice connectivity check missing priority") message.priority
  ensure (priority ≠ 0) (ascii "ice connectivity check priority is zero")
  ensure (message.hasIceControlling = true)
    (ascii "ice-lite connectivity check missing ice-controlling")
  ensure (message.hasIceControlled = false)
    (ascii "ice-lite connectivity check contains ice-controlled")

def iceUsernameMatchesSession (username : IceUsernameParts)
    (context : SessionStunBindingContext) : Bool :=
  decide (username.recipientUfrag = context.localIceUfrag) &&
    decide (username.senderUfrag = context.remoteIceUfrag)

/-- The request in a packet which passes every check, or the first check it fails. -/
def acceptBindingRequest (primitives : Primitives) (data : List UInt8)
    (context : SessionStunBindingContext) : Except Text StunMessage := do
  let message ← parseStunMessage data
  ensure (message.method = .binding ∧ message.messageClass = .request) (ascii "stun ignored")
  let username ← orError (ascii "stun binding request missing username") message.username
  validateIceConnectivityCheck message
  let parts ← parseIceUsername username
  ensure (iceUsernameMatchesSession parts context = true) (ascii "stun username mismatch")
  ensure (context.localIcePwd ≠ []) (ascii "stun local ice pwd is empty")
  ensure (message.hasMessageIntegrity = true)
    (ascii "stun binding request missing message-integrity")
  verifyStunMessageIntegrity primitives data context.localIcePwd
  if message.hasFingerprint then verifyStunFingerprint data
  pure message

def getEndpointIp (environment : Environment) (endpoint : UdpEndpoint) : Text :=
  (environment.inetNtop endpoint.address).getD []

def makeStunBindingResponse (environment : Environment) (request : StunMessage)
    (remoteEndpoint : UdpEndpoint) (context : SessionStunBindingContext) :
    Option SessionUdpOutboundPacket :=
  let remoteIp := getEndpointIp environment remoteEndpoint
  if remoteIp = [] then none
  else
    match writeStunBindingSuccessResponse environment.toPrimitives request remoteIp
        remoteEndpoint.port context.localIcePwd with
    | .error _ => none
    | .ok data => some ⟨data, remoteEndpoint⟩

def handleSessionStunBinding (environment : Environment) (data : List UInt8)
    (remoteEndpoint : UdpEndpoint) (context : SessionStunBindingContext) :
    SessionStunBindingResult :=
  if isStunPacket data = false then {}
  else
    match acceptBindingRequest environment.toPrimitives data context with
    | .error _ => { handled := true }
    | .ok message =>
        let response := makeStunBindingResponse environment message remoteEndpoint context
        { handled := true
          nominated := response.isSome && message.hasUseCandidate
          response }

/-! ## The attributes of a packet -/

def attributes (data : List UInt8) : List Element :=
  elementsFrom data (totalSize data) (totalSize data) kStunHeaderSize

def isUseCandidate (element : Element) : Bool := decide (element.kind = kStunAttributeUseCandidate)

def isMessageIntegrity (element : Element) : Bool :=
  decide (element.kind = kStunAttributeMessageIntegrity)

/-- Whether a USE-CANDIDATE stands in front of the first MESSAGE-INTEGRITY. -/
def candidateBefore (data : List UInt8) : Bool :=
  ((attributes data).takeWhile fun e => !isMessageIntegrity e).any isUseCandidate

/-- Whether a USE-CANDIDATE stands behind the first MESSAGE-INTEGRITY. -/
def candidateBehind (data : List UInt8) : Bool :=
  ((attributes data).dropWhile fun e => !isMessageIntegrity e).any isUseCandidate

/-- Two packets agree up to the end of the first MESSAGE-INTEGRITY of one, but for the length. -/
def AgreeUpToIntegrity (data data' : List UInt8) : Prop :=
  ∃ element, (attributes data).find? isMessageIntegrity = some element ∧
    ∀ i < element.valueEnd, i ≠ 2 → i ≠ 3 → data[i]? = data'[i]?

/-! ## What is read of a packet -/

/-- The fields of a message which come from the header. -/
def StunMessage.header (message : StunMessage) :
    StunMethod × StunMessageClass × Block kStunTransactionIdSize :=
  (message.method, message.messageClass, message.transactionId)

theorem decodeKnownAttribute_ok {message message' : StunMessage} {type : UInt16}
    {value : List UInt8} (h : decodeKnownAttribute message type value = .ok message') :
    message'.header = message.header ∧ message'.hasUseCandidate =
      (message.hasUseCandidate || decide (type = kStunAttributeUseCandidate)) := by
  unfold decodeKnownAttribute at h
  by_cases huse : type = kStunAttributeUseCandidate
  · subst huse
    have haddress : ¬(kStunAttributeUseCandidate = kStunAttributeMappedAddress ∨
        kStunAttributeUseCandidate = kStunAttributeXorMappedAddress) := by decide
    have husername : ¬kStunAttributeUseCandidate = kStunAttributeUsername := by decide
    have hpriority : ¬kStunAttributeUseCandidate = kStunAttributePriority := by decide
    rw [if_neg haddress, if_neg husername, if_neg hpriority, if_pos rfl] at h
    split_ifs at h
    obtain rfl := Except.ok.inj h
    exact ⟨rfl, by simp⟩
  · rw [decide_eq_false huse, Bool.or_false]
    split_ifs at h
    · cases hvalue : validateAddressAttributeValue value with
      | error e => simp [hvalue, Except.map] at h
      | ok _ =>
          simp only [hvalue, Except.map, Except.ok.injEq] at h
          exact ⟨by rw [h], by rw [h]⟩
    all_goals
      obtain rfl := Except.ok.inj h
      exact ⟨rfl, rfl⟩

theorem parseStunMessage_ok {data : List UInt8} {message : StunMessage}
    (h : parseStunMessage data = .ok message) :
    message.header = (headerMessage data).header ∧
      message.hasUseCandidate = (attributes data).any isUseCandidate := by
  obtain ⟨_, -, hrest⟩ := bind_ok.mp h
  obtain ⟨progress, hwalk, hmessage⟩ := bind_ok.mp hrest
  cases progress with
  | done result => cases result
  | going walked =>
      obtain rfl := Except.ok.inj hmessage
      have hstart : (headerMessage data).header = (headerMessage data).header ∧
          (headerMessage data).hasUseCandidate = ([] : List Element).any isUseCandidate := ⟨rfl, rfl⟩
      refine walk_going (P := fun (visited : List Element) (state : StunMessage) =>
        state.header = (headerMessage data).header ∧
          state.hasUseCandidate = visited.any isUseCandidate) ?_ hstart hwalk
      intro visited state element state' hstate hvisit
      unfold parseAttribute at hvisit
      cases hdecode : decodeKnownAttribute state element.kind (element.value data) with
      | error e => simp [hdecode, Except.map] at hvisit
      | ok decoded =>
          simp only [hdecode, Except.map, Except.ok.injEq, Progress.going.injEq] at hvisit
          subst hvisit
          obtain ⟨hheader, hcandidate⟩ := decodeKnownAttribute_ok hdecode
          refine ⟨hheader.trans hstate.1, ?_⟩
          rw [hcandidate, hstate.2, List.any_append, List.any_cons, List.any_nil, Bool.or_false]
          rfl

theorem findMessageIntegrity_ok {data : List UInt8} {location : IntegrityLocation}
    (h : findMessageIntegrityAttribute data = .ok location) :
    ∃ element, (attributes data).find? isMessageIntegrity = some element ∧
      element.length.toNat = kStunMessageIntegritySize := by
  obtain ⟨progress, hwalk, hfound⟩ := bind_ok.mp h
  cases progress with
  | going state => cases hfound
  | done result =>
      obtain ⟨element, hfind, hlocation⟩ := walk_seek hwalk
      refine ⟨element, hfind, ?_⟩
      unfold foundMessageIntegrity at hlocation
      split_ifs at hlocation with hlength
      exact not_not.mp hlength

theorem verifyStunMessageIntegrity_ok {primitives : Primitives} {data : List UInt8} {key : Text}
    (h : verifyStunMessageIntegrity primitives data key = .ok ()) :
    ∃ element, (attributes data).find? isMessageIntegrity = some element ∧
      element.length.toNat = kStunMessageIntegritySize := by
  obtain ⟨_, -, hkey⟩ := bind_ok.mp h
  obtain ⟨_, -, hfind⟩ := bind_ok.mp hkey
  obtain ⟨location, hlocation, -⟩ := bind_ok.mp hfind
  exact findMessageIntegrity_ok hlocation

theorem acceptBindingRequest_ok {primitives : Primitives} {data : List UInt8}
    {context : SessionStunBindingContext} {message : StunMessage}
    (h : acceptBindingRequest primitives data context = .ok message) :
    parseStunMessage data = .ok message ∧
      (message.method = .binding ∧ message.messageClass = .request) ∧
      verifyStunMessageIntegrity primitives data context.localIcePwd = .ok () := by
  obtain ⟨parsed, hparse, h⟩ := bind_ok.mp h
  obtain ⟨_, hrequest, h⟩ := bind_ok.mp h
  obtain ⟨username, -, h⟩ := bind_ok.mp h
  obtain ⟨_, -, h⟩ := bind_ok.mp h
  obtain ⟨parts, -, h⟩ := bind_ok.mp h
  obtain ⟨_, -, h⟩ := bind_ok.mp h
  obtain ⟨_, -, h⟩ := bind_ok.mp h
  obtain ⟨_, -, h⟩ := bind_ok.mp h
  obtain ⟨_, hintegrity, h⟩ := bind_ok.mp h
  have hsame : parsed = message := by
    split_ifs at h
    · obtain ⟨_, -, h⟩ := bind_ok.mp h
      exact Except.ok.inj h
    · exact Except.ok.inj h
  subst hsame
  exact ⟨hparse, ensure_ok.mp hrequest, hintegrity⟩

/-- An answer goes to an accepted request, and nominates when the request does. -/
theorem handle_response {environment : Environment} {data : List UInt8}
    {remoteEndpoint : UdpEndpoint} {context : SessionStunBindingContext}
    {response : SessionUdpOutboundPacket}
    (h : (handleSessionStunBinding environment data remoteEndpoint context).response =
      some response) :
    ∃ message, acceptBindingRequest environment.toPrimitives data context = .ok message ∧
      makeStunBindingResponse environment message remoteEndpoint context = some response ∧
      (handleSessionStunBinding environment data remoteEndpoint context).nominated =
        message.hasUseCandidate := by
  unfold handleSessionStunBinding at h ⊢
  split_ifs at h ⊢ with hstun
  cases haccept : acceptBindingRequest environment.toPrimitives data context with
  | error e => simp [haccept] at h
  | ok message =>
      simp only [haccept] at h
      exact ⟨message, rfl, h, by simp [h]⟩

theorem any_split (p q : Element → Bool) (xs : List Element) :
    xs.any q = ((xs.takeWhile p).any q || (xs.dropWhile p).any q) := by
  rw [← List.any_append, List.takeWhile_append_dropWhile]

/-- The answer to a request depends on its transaction id alone. -/
theorem makeStunBindingResponse_congr {environment : Environment} {message message' : StunMessage}
    (h : message.header = message'.header) (remoteEndpoint : UdpEndpoint)
    (context : SessionStunBindingContext) :
    makeStunBindingResponse environment message remoteEndpoint context =
      makeStunBindingResponse environment message' remoteEndpoint context := by
  simp only [StunMessage.header, Prod.mk.injEq] at h
  obtain ⟨hmethod, hclass, htransaction⟩ := h
  simp only [makeStunBindingResponse, writeStunBindingSuccessResponse, validateBindingRequest,
    hmethod, hclass, htransaction]

theorem headerMessage_congr {data data' : List UInt8}
    (h : ∀ i < kStunHeaderSize, i ≠ 2 → i ≠ 3 → data[i]? = data'[i]?) :
    (headerMessage data).header = (headerMessage data').header := by
  have hat : ∀ i < kStunHeaderSize, i ≠ 2 → i ≠ 3 → data.getD i 0 = data'.getD i 0 := by
    intro i hlt h2 h3
    rw [List.getD_eq_getElem?_getD, List.getD_eq_getElem?_getD, h i hlt h2 h3]
  have htype : readU16 data 0 = readU16 data' 0 := by
    refine readU16_congr ?_ ?_
    · exact congrArg UInt8.toNat (hat 0 (by decide) (by decide) (by decide))
    · exact congrArg UInt8.toNat (hat 1 (by decide) (by decide) (by decide))
  have htransaction : transactionIdOf data = transactionIdOf data' := by
    refine Subtype.ext ?_
    simp only [transactionIdOf]
    refine List.map_congr_left ?_
    intro i hi
    have hlt : i < 12 := List.mem_range.mp hi
    exact hat (8 + i) (by unfold kStunHeaderSize; omega) (by omega) (by omega)
  simp only [StunMessage.header, headerMessage, htype, htransaction]

theorem takeWhile_before {before after : List Element} {element : Element}
    (hbefore : ∀ e ∈ before, e.kind ≠ kStunAttributeMessageIntegrity)
    (hkind : isMessageIntegrity element = true) :
    (before ++ element :: after).takeWhile (fun e => !isMessageIntegrity e) = before := by
  have hall : ∀ e ∈ before, (!isMessageIntegrity e) = true := by
    intro e he
    simpa [isMessageIntegrity] using hbefore e he
  rw [List.takeWhile_append_of_pos hall, List.takeWhile_cons]
  simp [hkind]

/-- Two packets with the same answered header part get the same answer, and they agree on the
nomination exactly when it stands in the protected part, or behind it in both or in neither. -/
theorem handle_agree_iff (environment : Environment) (remoteEndpoint : UdpEndpoint)
    (context : SessionStunBindingContext) {data data' : List UInt8}
    {response response' : SessionUdpOutboundPacket} (hagree : AgreeUpToIntegrity data data')
    (h : (handleSessionStunBinding environment data remoteEndpoint context).response =
      some response)
    (h' : (handleSessionStunBinding environment data' remoteEndpoint context).response =
      some response') :
    (response = response' ∧
      (handleSessionStunBinding environment data remoteEndpoint context).nominated =
        (handleSessionStunBinding environment data' remoteEndpoint context).nominated) ↔
      candidateBefore data = true ∨ candidateBehind data = candidateBehind data' := by
  obtain ⟨message, haccept, hresponse, hnominated⟩ := handle_response h
  obtain ⟨message', haccept', hresponse', hnominated'⟩ := handle_response h'
  obtain ⟨hparse, -, -⟩ := acceptBindingRequest_ok haccept
  obtain ⟨hparse', -, hverify'⟩ := acceptBindingRequest_ok haccept'
  obtain ⟨hheader, hcandidate⟩ := parseStunMessage_ok hparse
  obtain ⟨hheader', hcandidate'⟩ := parseStunMessage_ok hparse'
  obtain ⟨element, hfind, hbytes⟩ := hagree
  obtain ⟨element', hfind', -⟩ := verifyStunMessageIntegrity_ok hverify'
  have hbyteAt : ∀ i < element.valueEnd, i ≠ 2 → i ≠ 3 → byteAt data i = byteAt data' i := by
    intro i hlt h2 h3
    simp only [byteAt, List.getD_eq_getElem?_getD, hbytes i hlt h2 h3]
  have hoffset : kStunHeaderSize ≤ element.offset :=
    elementsFrom_offset (List.mem_of_find?_eq_some hfind)
  have hvalueOffset : element.valueOffset ≤ element.valueEnd := Nat.le_add_right _ _
  have hlate : 24 ≤ element.valueOffset := by
    unfold Element.valueOffset
    unfold kStunHeaderSize at hoffset
    omega
  obtain ⟨rfl, before, after, after', hbefore, hsplit, hsplit'⟩ :=
    elements_agree (fun i hi hlt => hbyteAt i (by omega)
      (by unfold kStunHeaderSize at hi; omega) (by unfold kStunHeaderSize at hi; omega))
      hfind hfind'
  have hsame : message.header = message'.header := by
    rw [hheader, hheader']
    refine headerMessage_congr fun i hi h2 h3 => hbytes i ?_ h2 h3
    unfold kStunHeaderSize at hi
    omega
  have hresponses : response = response' := by
    rw [makeStunBindingResponse_congr hsame, hresponse'] at hresponse
    exact (Option.some.inj hresponse).symm
  have hkind : isMessageIntegrity element = true := List.find?_some hfind
  have hbeforeSame : candidateBefore data = candidateBefore data' := by
    unfold candidateBefore
    have hsplitAll : attributes data = before ++ element :: after := hsplit
    have hsplitAll' : attributes data' = before ++ element :: after' := hsplit'
    rw [hsplitAll, hsplitAll', takeWhile_before hbefore hkind, takeWhile_before hbefore hkind]
  rw [hnominated, hnominated', hcandidate, hcandidate',
    any_split (fun e => !isMessageIntegrity e) isUseCandidate (attributes data),
    any_split (fun e => !isMessageIntegrity e) isUseCandidate (attributes data')]
  change _ ∧ (candidateBefore data || candidateBehind data) =
    (candidateBefore data' || candidateBehind data') ↔ _
  rw [← hbeforeSame]
  cases candidateBefore data <;> simp [hresponses]

/-! ## A check which becomes a nomination -/

/-- The header of a binding request with this message length. -/
def checkHead (length : UInt8) : List UInt8 :=
  [0, 1, 0, length, 0x21, 0x12, 0xA4, 0x42, 1, 2, 3, 4, 5, 6, 7, 8, 9, 10, 11, 12]

/-- USERNAME, PRIORITY and ICE-CONTROLLING. -/
def checkAttributes : List UInt8 :=
  [0, 6, 0, 3, 97, 58, 98, 0, 0, 0x24, 0, 4, 0, 0, 0, 1, 0x80, 0x2A, 0, 8, 0, 0, 0, 0, 0, 0, 0, 0]

def checkDigest : Block kStunMessageIntegritySize :=
  ⟨[91, 238, 201, 50, 171, 214, 210, 98, 202, 144, 54, 213, 188, 139, 71, 103, 82, 73, 125, 61],
    rfl⟩

/-- The part of the answer its message integrity is made of. -/
def answerHead : List UInt8 :=
  [1, 1, 0, 36, 0x21, 0x12, 0xA4, 0x42, 1, 2, 3, 4, 5, 6, 7, 8, 9, 10, 11, 12,
    0, 0x20, 0, 8, 0, 1, 44, 132, 94, 18, 164, 67]

def answerDigest : Block kStunMessageIntegritySize :=
  ⟨[149, 211, 233, 161, 115, 62, 19, 163, 174, 56, 99, 214, 75, 134, 135, 223, 106, 123, 69, 99],
    rfl⟩

def checkContext : SessionStunBindingContext where
  localIceUfrag := ascii "a"
  localIcePwd := ascii "p"
  remoteIceUfrag := ascii "b"

def loopback : IpAddress := .v4 ⟨[127, 0, 0, 1], rfl⟩

/-- The functions of other libraries on the inputs below. -/
def loopbackEnvironment : Environment where
  hmacSha1 key data :=
    if key = ascii "p" ∧ data = checkHead 52 ++ checkAttributes then checkDigest
    else if key = ascii "p" ∧ data = answerHead then answerDigest
    else ⟨List.replicate 20 0, rfl⟩
  inetPton4 text := if text = ascii "127.0.0.1" then some ⟨[127, 0, 0, 1], rfl⟩ else none
  inetPton6 _ := none
  inetNtop address := if address = loopback then some (ascii "127.0.0.1") else none

def checkIntegrity : List UInt8 := [0, 8, 0, 20] ++ checkDigest.1

/-- A connectivity check without USE-CANDIDATE. -/
def checkPacket : List UInt8 := checkHead 52 ++ checkAttributes ++ checkIntegrity

/-- The same check with a USE-CANDIDATE behind its integrity. -/
def nominatingPacket : List UInt8 :=
  checkHead 56 ++ checkAttributes ++ checkIntegrity ++ [0, 0x25, 0, 0]

def handleLoopback (data : List UInt8) : SessionStunBindingResult :=
  handleSessionStunBinding loopbackEnvironment data ⟨loopback, 3478⟩ checkContext

theorem checkPacket_agrees : AgreeUpToIntegrity checkPacket nominatingPacket :=
  ⟨⟨48, kStunAttributeMessageIntegrity, 20⟩, by decide +kernel, by decide +kernel⟩

theorem loopback_answers : (handleLoopback checkPacket).response.isSome = true ∧
    (handleLoopback nominatingPacket).response.isSome = true := by decide +kernel

theorem handle_agree_loopback : ∃ response response',
    (handleLoopback checkPacket).response = some response ∧
      (handleLoopback nominatingPacket).response = some response' ∧
      ((response = response' ∧
          (handleLoopback checkPacket).nominated = (handleLoopback nominatingPacket).nominated) ↔
        candidateBefore checkPacket = true ∨
          candidateBehind checkPacket = candidateBehind nominatingPacket) := by
  obtain ⟨response, h⟩ := Option.isSome_iff_exists.mp loopback_answers.1
  obtain ⟨response', h'⟩ := Option.isSome_iff_exists.mp loopback_answers.2
  exact ⟨response, response', h, h', handle_agree_iff loopbackEnvironment ⟨loopback, 3478⟩
    checkContext checkPacket_agrees h h'⟩

/-- Whoever can append to a check makes it nominate. -/
theorem handle_not_agree :
    ¬ ∀ (environment : Environment) (remoteEndpoint : UdpEndpoint)
      (context : SessionStunBindingContext) (data data' : List UInt8)
      (response response' : SessionUdpOutboundPacket), AgreeUpToIntegrity data data' →
      (handleSessionStunBinding environment data remoteEndpoint context).response =
        some response →
      (handleSessionStunBinding environment data' remoteEndpoint context).response =
        some response' →
      response = response' ∧
        (handleSessionStunBinding environment data remoteEndpoint context).nominated =
          (handleSessionStunBinding environment data' remoteEndpoint context).nominated := by
  intro hall
  obtain ⟨response, h⟩ := Option.isSome_iff_exists.mp loopback_answers.1
  obtain ⟨response', h'⟩ := Option.isSome_iff_exists.mp loopback_answers.2
  have hsame := (hall _ _ _ _ _ _ _ checkPacket_agrees h h').2
  have hdiffers : (handleLoopback checkPacket).nominated = false ∧
      (handleLoopback nominatingPacket).nominated = true := by decide +kernel
  have hfalse : false = true := hdiffers.1.symm.trans (hsame.trans hdiffers.2)
  cases hfalse

end SimpleWebrtc.Stun
