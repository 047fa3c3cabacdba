import SimpleWebrtc.Library.AssocMap
import SimpleWebrtc.Library.Bytes
import SimpleWebrtc.SdpSummary

/-!
# The DTLS transport

The peers of a session's DTLS associations, under the texts of their endpoints.
What OpenSSL answers is data of the packet or the rebinding: whether an
association is there at all is a flag of the peer, and the keys are whatever was
exported.
-/
namespace SimpleWebrtc.Dtls
open Library Library.Bytes Library.Text SdpSummary

inductive DtlsPeerRole where
  | unknown
  | publisher
  | subscriber
deriving DecidableEq

structure DtlsPeerIdentity where
  role : DtlsPeerRole := .unknown
  sessionId : Text := []
  streamId : Text := []
  localIceUfrag : Text := []
  remoteIceUfrag : Text := []
  remoteFingerprint : FingerprintInfo := {}
deriving DecidableEq

inductive DtlsNetworkFamily where
  | unknown
  | ipv4
  | ipv6
deriving DecidableEq

def kMinDtlsIpMtu : UInt16 := 576
def kMaxDtlsIpMtu : UInt16 := 9000
def kDefaultDtlsIpMtu : UInt16 := 1200
def kIpv4UdpOverhead : UInt16 := 20 + 8
def kIpv6UdpOverhead : UInt16 := 40 + 8

/-- The keys exported from an association. -/
structure SrtpKeyingMaterial where
  exported : List UInt8
deriving DecidableEq

/-! ## Records -/

def kDtlsRecordHeaderSize : ℕ := 13

def isDtlsContentTypeByte (value : ℕ) : Bool := decide (20 ≤ value) && decide (value ≤ 63)

def isKnownDtlsContentType (value : ℕ) : Bool :=
  decide (value = 20) || decide (value = 21) || decide (value = 22) || decide (value = 23)

def isDtlsVersion (version : UInt16) : Bool := decide (version &&& 0xFF00 = 0xFE00)

def dtlsRecordSize (data : List UInt8) : ℕ := kDtlsRecordHeaderSize + (readU16 data 11).toNat

def isDtlsPacket (data : List UInt8) : Bool :=
  decide (kDtlsRecordHeaderSize ≤ data.length) && isDtlsContentTypeByte (byteAt data 0) &&
    isDtlsVersion (readU16 data 1) && decide (dtlsRecordSize data ≤ data.length)

/-- The header itself is only logged. -/
def parseDtlsRecordHeader (data : List UInt8) : Except Text Unit := do
  ensure (kDtlsRecordHeaderSize ≤ data.length)
    (ascii "dtls packet is shorter than record header")
  ensure (isDtlsContentTypeByte (byteAt data 0) = true)
    (ascii "dtls content type byte is invalid")
  ensure (isKnownDtlsContentType (byteAt data 0) = true)
    (ascii "dtls content type is unsupported")
  ensure (isDtlsVersion (readU16 data 1) = true) (ascii "dtls version is invalid")
  ensure (dtlsRecordSize data ≤ data.length) (ascii "dtls record is truncated")

/-! ## Checks -/

def dtlsNetworkFamilyToString : DtlsNetworkFamily → Text
  | .ipv4 => ascii "ipv4"
  | .ipv6 => ascii "ipv6"
  | .unknown => ascii "unknown"

def networkOverhead : DtlsNetworkFamily → Option UInt16
  | .ipv4 => some kIpv4UdpOverhead
  | .ipv6 => some kIpv6UdpOverhead
  | .unknown => none

def makeDtlsUdpPayloadMtu (ipMtu : UInt16) (family : DtlsNetworkFamily) : Except Text UInt16 := do
  let overhead ← orError (ascii "dtls network family is unknown") (networkOverhead family)
  ensure (overhead < ipMtu)
    (ascii "dtls ip mtu is too small for network headers ip_mtu=" ++ decimal ipMtu.toNat ++
      ascii " overhead=" ++ decimal overhead.toNat)
  return ipMtu - overhead

def validateDtlsPeerIdentity (identity : DtlsPeerIdentity) : Except Text Unit := do
  ensure (identity.role ≠ .unknown) (ascii "dtls peer role is unknown")
  ensure (identity.sessionId ≠ []) (ascii "dtls peer session id is empty")
  ensure (identity.streamId ≠ []) (ascii "dtls peer stream id is empty")
  ensure (identity.localIceUfrag ≠ []) (ascii "dtls peer local ice ufrag is empty")
  ensure (identity.remoteIceUfrag ≠ []) (ascii "dtls peer remote ice ufrag is empty")
  ensure (identity.remoteFingerprint.algorithm ≠ [])
    (ascii "remote dtls fingerprint algorithm is empty")
  ensure (identity.remoteFingerprint.value ≠ []) (ascii "remote dtls fingerprint value is empty")

def sameDtlsAssociation (left right : DtlsPeerIdentity) : Bool :=
  decide (left.role = right.role) && decide (left.sessionId = right.sessionId) &&
    decide (left.streamId = right.streamId) &&
    decide (left.remoteFingerprint = right.remoteFingerprint)

def sameSrtpGeneration (left right : DtlsPeerIdentity) : Bool :=
  decide (left.sessionId = right.sessionId) && decide (left.streamId = right.streamId) &&
    decide (left.localIceUfrag = right.localIceUfrag) &&
    decide (left.remoteIceUfrag = right.remoteIceUfrag)

/-! ## Peers -/

/-- The flag says whether the peer has an association. -/
structure DtlsPeerState where
  identity : DtlsPeerIdentity := {}
  packetCount : ℕ := 0
  byteCount : ℕ := 0
  networkFamily : DtlsNetworkFamily := .unknown
  udpPayloadMtu : UInt16 := 0
  handshakeError : Text := []
  ssl : Bool := false
  keyingMaterial : Option SrtpKeyingMaterial := none
deriving DecidableEq

/-- What OpenSSL answers while a packet is handled. -/
structure OpenSslAnswers where
  makeSsl : Except Text Unit
  writeDatagram : Except Text Unit
  handshake : Except Text (List (List UInt8))
  initFinished : Bool
  remoteCertificate : Except Text Unit
  exportKeys : Except Text SrtpKeyingMaterial
  consumeRecords : Except Text (List (List UInt8))

namespace DtlsPeerState
variable (peer : DtlsPeerState)

def markHandshakeFailed (error : Text) : DtlsPeerState :=
  { peer with
    handshakeError :=
      if error = [] then ascii "dtls peer handshake previously failed" else error
    keyingMaterial := none
    ssl := false }

/-- A step of a handshake which marks the peer where it fails. -/
def orFail {α : Type} (step : Except Text α)
    (next : α → DtlsPeerState × Except Text (List (List UInt8))) :
    DtlsPeerState × Except Text (List (List UInt8)) :=
  match step with
  | .error e => (peer.markHandshakeFailed e, .error e)
  | .ok a => next a

def networkFamilyError (networkFamily : DtlsNetworkFamily) : Except Text Unit :=
  ensure (peer.networkFamily = .unknown ∨ peer.networkFamily = networkFamily)
    (ascii "dtls peer network family changed old=" ++
      dtlsNetworkFamilyToString peer.networkFamily ++ ascii " new=" ++
      dtlsNetworkFamilyToString networkFamily)

/-- The association is made for the first packet. -/
def ensureSsl (answers : OpenSslAnswers) (ipMtu : UInt16) (networkFamily : DtlsNetworkFamily)
    (next : DtlsPeerState → DtlsPeerState × Except Text (List (List UInt8))) :
    DtlsPeerState × Except Text (List (List UInt8)) :=
  if peer.ssl then next peer
  else
    peer.orFail (makeDtlsUdpPayloadMtu ipMtu networkFamily) fun udpPayloadMtu =>
      let peer := { peer with networkFamily, udpPayloadMtu }
      peer.orFail answers.makeSsl fun _ => next { peer with ssl := true }

def completeHandshakeIfReady (answers : OpenSslAnswers)
    (next : DtlsPeerState → DtlsPeerState × Except Text (List (List UInt8))) :
    DtlsPeerState × Except Text (List (List UInt8)) :=
  if peer.keyingMaterial.isSome || !answers.initFinished then next peer
  else
    peer.orFail answers.remoteCertificate fun _ =>
      peer.orFail answers.exportKeys fun material =>
        next { peer with keyingMaterial := some material }

/-- A datagram of the peer, with the datagrams to send back. -/
def receive (answers : OpenSslAnswers) (ipMtu : UInt16) (data : List UInt8)
    (networkFamily : DtlsNetworkFamily) : DtlsPeerState × Except Text (List (List UInt8)) :=
  if peer.handshakeError ≠ [] then (peer, .error peer.handshakeError)
  else
    let peer := { peer with
      packetCount := peer.packetCount + 1
      byteCount := peer.byteCount + data.length }
    peer.orFail (peer.networkFamilyError networkFamily) fun _ =>
      peer.ensureSsl answers ipMtu networkFamily fun peer =>
        peer.orFail answers.writeDatagram fun _ =>
          peer.orFail answers.handshake fun packets =>
            peer.completeHandshakeIfReady answers fun peer =>
              if peer.keyingMaterial.isSome then
                (peer, answers.consumeRecords.map fun more => packets ++ more)
              else (peer, .ok packets)

end DtlsPeerState

/-! ## The transport -/

structure DtlsTransport where
  ipMtu : UInt16 := kDefaultDtlsIpMtu
  peersByEndpoint : AssocMap Text DtlsPeerState := AssocMap.empty
deriving DecidableEq

def makeDtlsTransport (ipMtu : UInt16) : DtlsTransport where
  ipMtu := if ipMtu < kMinDtlsIpMtu ∨ kMaxDtlsIpMtu < ipMtu then kDefaultDtlsIpMtu else ipMtu

namespace DtlsTransport
variable (t : DtlsTransport)

/-- A peer whose identity has changed starts afresh. -/
def rememberPeer (remoteEndpoint : Text) (identity : DtlsPeerIdentity) : DtlsTransport :=
  if remoteEndpoint = [] then t
  else if (t.peersByEndpoint.find? remoteEndpoint).map DtlsPeerState.identity = some identity then t
  else
    match validateDtlsPeerIdentity identity with
    | .error _ => { t with peersByEndpoint := t.peersByEndpoint.erase remoteEndpoint }
    | .ok _ =>
        { t with peersByEndpoint := t.peersByEndpoint.insertOrAssign remoteEndpoint { identity } }

def forgetPeer (remoteEndpoint : Text) : DtlsTransport :=
  if remoteEndpoint = [] then t
  else { t with peersByEndpoint := t.peersByEndpoint.erase remoteEndpoint }

/-- Moves an association to another endpoint, or to other credentials of the same one. There is
nothing to move before the keys are exported. -/
def rebindPeer (setMtu : Except Text Unit) (previousRemoteEndpoint nextRemoteEndpoint : Text)
    (identity : DtlsPeerIdentity) (networkFamily : DtlsNetworkFamily) :
    Except Text (Option DtlsTransport) := do
  ensure (previousRemoteEndpoint ≠ [] ∧ nextRemoteEndpoint ≠ [])
    (ascii "dtls peer rebind endpoint is empty")
  validateDtlsPeerIdentity identity
  let udpPayloadMtu ← makeDtlsUdpPayloadMtu t.ipMtu networkFamily
  match t.peersByEndpoint.find? previousRemoteEndpoint with
  | none => return none
  | some peer =>
      ensure (sameDtlsAssociation peer.identity identity = true)
        (ascii "dtls peer rebind identity changed outside ice credentials")
      if peer.ssl = false ∨ peer.keyingMaterial = none then return none
      else
        ensure (previousRemoteEndpoint = nextRemoteEndpoint ∨
            t.peersByEndpoint.find? nextRemoteEndpoint = none)
          (ascii "dtls peer rebind destination already exists")
        setMtu
        return some { t with
          peersByEndpoint :=
            (t.peersByEndpoint.insertOrAssign previousRemoteEndpoint
              { peer with identity, networkFamily, udpPayloadMtu }).rekey previousRemoteEndpoint
                nextRemoteEndpoint }

def handleUdpPacket (answers : OpenSslAnswers) (data : List UInt8) (remoteEndpoint : Text)
    (networkFamily : DtlsNetworkFamily) : DtlsTransport × Except Text (List (List UInt8)) :=
  match parseDtlsRecordHeader data with
  | .error _ => (t, .ok [])
  | .ok _ =>
      match t.peersByEndpoint.find? remoteEndpoint with
      | none => (t, .ok [])
      | some peer =>
          let (peer, result) := peer.receive answers t.ipMtu data networkFamily
          ({ t with peersByEndpoint := t.peersByEndpoint.insertOrAssign remoteEndpoint peer },
            result)

def getPeerIdentity (remoteEndpoint : Text) : Option DtlsPeerIdentity :=
  (t.peersByEndpoint.find? remoteEndpoint).map DtlsPeerState.identity

def getSrtpKeyingMaterial (remoteEndpoint : Text) (expectedIdentity : DtlsPeerIdentity) :
    Option SrtpKeyingMaterial :=
  match t.peersByEndpoint.find? remoteEndpoint with
  | none => none
  | some peer =>
      if sameSrtpGeneration peer.identity expectedIdentity = false then none
      else peer.keyingMaterial

end DtlsTransport

/-! ## The identity of a peer -/

section Identity
variable {answers : OpenSslAnswers} {ipMtu : UInt16} {data : List UInt8}
  {family : DtlsNetworkFamily} {identity : DtlsPeerIdentity}

theorem orFail_identity {α : Type} {peer : DtlsPeerState} {step : Except Text α}
    {next : α → DtlsPeerState × Except Text (List (List UInt8))}
    (hpeer : peer.identity = identity) (hnext : ∀ a, (next a).1.identity = identity) :
    (peer.orFail step next).1.identity = identity := by
  cases step with
  | error e => exact hpeer
  | ok a => exact hnext a

theorem ensureSsl_identity {peer : DtlsPeerState}
    {next : DtlsPeerState → DtlsPeerState × Except Text (List (List UInt8))}
    (hpeer : peer.identity = identity)
    (hnext : ∀ peer : DtlsPeerState, peer.identity = identity → (next peer).1.identity = identity) :
    (peer.ensureSsl answers ipMtu family next).1.identity = identity := by
  unfold DtlsPeerState.ensureSsl
  split_ifs
  · exact hnext peer hpeer
  · apply orFail_identity hpeer
    intro udpPayloadMtu
    apply orFail_identity
    · exact hpeer
    · intro _
      apply hnext
      exact hpeer

theorem completeHandshakeIfReady_identity {peer : DtlsPeerState}
    {next : DtlsPeerState → DtlsPeerState × Except Text (List (List UInt8))}
    (hpeer : peer.identity = identity)
    (hnext : ∀ peer : DtlsPeerState, peer.identity = identity → (next peer).1.identity = identity) :
    (peer.completeHandshakeIfReady answers next).1.identity = identity := by
  unfold DtlsPeerState.completeHandshakeIfReady
  split_ifs
  · exact hnext peer hpeer
  · apply orFail_identity hpeer
    intro _
    apply orFail_identity hpeer
    intro material
    apply hnext
    exact hpeer

/-- A datagram does not change whose association it is. -/
theorem receive_identity (peer : DtlsPeerState) :
    (peer.receive answers ipMtu data family).1.identity = peer.identity := by
  unfold DtlsPeerState.receive
  split_ifs
  · rfl
  · apply orFail_identity rfl
    intro _
    apply ensureSsl_identity rfl
    intro peer hpeer
    apply orFail_identity hpeer
    intro _
    apply orFail_identity hpeer
    intro packets
    apply completeHandshakeIfReady_identity hpeer
    intro peer hpeer
    split_ifs
    · exact hpeer
    · exact hpeer

end Identity
end SimpleWebrtc.Dtls
