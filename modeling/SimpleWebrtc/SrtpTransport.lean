import SimpleWebrtc.DtlsTransport
import SimpleWebrtc.RtpPacket

/-!
# The SRTP transport

The peers with SRTP sessions, under the texts of their endpoints. A peer is made
when a packet for it first finds an identity at the DTLS transport and is dropped
when the identity is missing. What libsrtp answers is data of the packet, and a
session is held as the keys it was made from.
-/
namespace SimpleWebrtc.Srtp
open Library Library.Text Dtls RtpPacket

inductive SrtpPacketKind where
  | unknown
  | rtp
  | rtcp
deriving DecidableEq

inductive SrtpPacketProcessState where
  | ignored
  | unprotected
  | protectedPacket
deriving DecidableEq

structure SrtpPacketProcessResult where
  state : SrtpPacketProcessState := .ignored
  kind : SrtpPacketKind := .unknown
  ssrc : UInt32 := 0
  payloadType : UInt8 := 0
  sequenceNumber : UInt16 := 0
  timestamp : UInt32 := 0
  plainPacket : List UInt8 := []
  protectedPacket : List UInt8 := []
  reason : Text := []
deriving DecidableEq

structure SrtpPeerState where
  sessionId : Text := []
  streamId : Text := []
  localIceUfrag : Text := []
  remoteIceUfrag : Text := []
  inboundSession : Option SrtpKeyingMaterial := none
  outboundSession : Option SrtpKeyingMaterial := none
  inboundPacketCount : ℕ := 0
  outboundPacketCount : ℕ := 0
deriving DecidableEq

/-- What libsrtp answers while a packet is handled: whether sessions can be made, and the packet
a session turns the given one into. -/
structure LibSrtpAnswers where
  makeInbound : Except Text Unit
  makeOutbound : Except Text Unit
  crypt : Option SrtpKeyingMaterial → Except Text (List UInt8)

def classifyPacket (data : List UInt8) : SrtpPacketKind :=
  if isRtpOrRtcpPacket data = false then .unknown
  else if isRtcpPacket data then .rtcp
  else .rtp

def srtpPacketKindToString : SrtpPacketKind → Text
  | .rtp => ascii "rtp"
  | .rtcp => ascii "rtcp"
  | .unknown => ascii "unknown"

def occursIn (word text : Text) : Bool := text.tails.any fun tail => word.isPrefixOf tail

def isSrtpReplayError (error : Text) : Bool :=
  occursIn (ascii "replay_fail") error || occursIn (ascii "replay_old") error

def makeIgnoredResult (kind : SrtpPacketKind) (reason : Text) : SrtpPacketProcessResult :=
  { kind, reason }

def unprotectReason (kind : SrtpPacketKind) (error : Text) : Text :=
  (if isSrtpReplayError error then ascii "srtp replay ignored kind="
    else ascii "srtp unprotect failed ignored kind=") ++
    srtpPacketKindToString kind ++ ascii " error=" ++ error

/-! ## Peers -/

namespace SrtpPeerState
variable (peer : SrtpPeerState)

def peerIdentityMatches (identity : DtlsPeerIdentity) : Bool :=
  decide (peer.sessionId = identity.sessionId) && decide (peer.streamId = identity.streamId) &&
    decide (peer.localIceUfrag = identity.localIceUfrag) &&
    decide (peer.remoteIceUfrag = identity.remoteIceUfrag)

def bindPeerIdentity (identity : DtlsPeerIdentity) : SrtpPeerState :=
  { peer with
    sessionId := identity.sessionId
    streamId := identity.streamId
    localIceUfrag := identity.localIceUfrag
    remoteIceUfrag := identity.remoteIceUfrag }

def resetPeerForIdentity (identity : DtlsPeerIdentity) : SrtpPeerState :=
  ({} : SrtpPeerState).bindPeerIdentity identity

/-- The peer under its current identity. -/
def adoptIdentity (identity : DtlsPeerIdentity) : SrtpPeerState :=
  if peer.sessionId ≠ [] ∧ peer.peerIdentityMatches identity = false then
    resetPeerForIdentity identity
  else if peer.sessionId = [] then peer.bindPeerIdentity identity
  else peer

/-- The flag says whether both sessions are there. -/
def ensureSessionsReady (answers : LibSrtpAnswers) (identity : DtlsPeerIdentity)
    (material : Option SrtpKeyingMaterial) : SrtpPeerState × Except Text Bool :=
  if peer.inboundSession.isSome ∧ peer.outboundSession.isSome ∧
      peer.peerIdentityMatches identity = true then (peer, .ok true)
  else
    let peer := peer.adoptIdentity identity
    match material with
    | none => (peer, .ok false)
    | some material =>
        match answers.makeInbound, answers.makeOutbound with
        | .error e, _ => (peer, .error e)
        | .ok _, .error e => (peer, .error e)
        | .ok _, .ok _ =>
            ({ peer with
              inboundSession := some material
              outboundSession := some material }, .ok true)

end SrtpPeerState

/-! ## The transport -/

abbrev SrtpTransport := AssocMap Text SrtpPeerState

namespace SrtpTransport
variable (t : SrtpTransport)

/-- The peer whose sessions are ready, or the reason why the packet is ignored. -/
def findReadyPeer (dtls : DtlsTransport) (answers : LibSrtpAnswers) (remoteEndpoint : Text) :
    SrtpTransport × Except Text (Except Text SrtpPeerState) :=
  match dtls.getPeerIdentity remoteEndpoint with
  | none =>
      match t.find? remoteEndpoint with
      | none => (t, .ok (.error (ascii "dtls identity is missing")))
      | some _ =>
          (t.erase remoteEndpoint, .ok (.error (ascii "dtls handshake is not complete")))
  | some identity =>
      let peer := (t.find? remoteEndpoint).getD (({} : SrtpPeerState).bindPeerIdentity identity)
      let (peer, ready) := peer.ensureSessionsReady answers identity
        (dtls.getSrtpKeyingMaterial remoteEndpoint identity)
      (t.insertOrAssign remoteEndpoint peer,
        ready.map fun ready =>
          if ready then .ok peer else .error (ascii "dtls handshake is not complete"))

def forgetPeer (remoteEndpoint : Text) : SrtpTransport :=
  if remoteEndpoint = [] then t else t.erase remoteEndpoint

/-- No value means that there is no peer to move. -/
def rebindPeer (previousRemoteEndpoint nextRemoteEndpoint : Text) (identity : DtlsPeerIdentity) :
    Except Text (Option SrtpTransport) := do
  ensure (previousRemoteEndpoint ≠ [] ∧ nextRemoteEndpoint ≠ [])
    (ascii "srtp peer rebind endpoint is empty")
  match t.find? previousRemoteEndpoint with
  | none => return none
  | some peer =>
      ensure (peer.sessionId = identity.sessionId ∧ peer.streamId = identity.streamId)
        (ascii "srtp peer rebind session identity changed")
      ensure (previousRemoteEndpoint = nextRemoteEndpoint ∨ t.find? nextRemoteEndpoint = none)
        (ascii "srtp peer rebind destination already exists")
      return some ((t.insertOrAssign previousRemoteEndpoint
        (peer.bindPeerIdentity identity)).rekey previousRemoteEndpoint nextRemoteEndpoint)

def peerReady (dtls : DtlsTransport) (answers : LibSrtpAnswers) (remoteEndpoint : Text) :
    SrtpTransport × Except Text Bool :=
  if remoteEndpoint = [] then (t, .ok false)
  else
    let (t, found) := findReadyPeer t dtls answers remoteEndpoint
    (t, found.map fun peer => peer.toOption.isSome)

/-- A packet for which the peer counts one more. -/
def countInbound (remoteEndpoint : Text) (peer : SrtpPeerState) : SrtpTransport :=
  t.insertOrAssign remoteEndpoint { peer with inboundPacketCount := peer.inboundPacketCount + 1 }

def countOutbound (remoteEndpoint : Text) (peer : SrtpPeerState) : SrtpTransport :=
  t.insertOrAssign remoteEndpoint { peer with outboundPacketCount := peer.outboundPacketCount + 1 }

def handleInboundPacket (dtls : DtlsTransport) (answers : LibSrtpAnswers) (data : List UInt8)
    (remoteEndpoint : Text) : SrtpTransport × Except Text SrtpPacketProcessResult :=
  let kind := classifyPacket data
  if kind = .unknown then (t, .ok (makeIgnoredResult kind (ascii "packet is not rtp or rtcp")))
  else
    let (t, found) := findReadyPeer t dtls answers remoteEndpoint
    match found with
    | .error e => (t, .error e)
    | .ok (.error reason) => (t, .ok (makeIgnoredResult kind reason))
    | .ok (.ok peer) =>
        match answers.crypt peer.inboundSession with
        | .error e => (t, .ok (makeIgnoredResult kind (unprotectReason kind e)))
        | .ok packet =>
            if kind = .rtp then
              match parseRtpPacketHeader packet with
              | .error e =>
                  (t, .error (ascii "rtp header parse failed after srtp unprotect: " ++ e))
              | .ok header =>
                  (countInbound t remoteEndpoint peer,
                    .ok {
                      state := .unprotected
                      kind
                      ssrc := header.ssrc
                      payloadType := header.payloadType
                      sequenceNumber := header.sequenceNumber
                      timestamp := header.timestamp
                      plainPacket := packet })
            else
              (countInbound t remoteEndpoint peer,
                .ok { state := .unprotected, kind, plainPacket := packet })

def protectOutboundPacket (dtls : DtlsTransport) (answers : LibSrtpAnswers)
    (plainPacket : List UInt8) (remoteEndpoint : Text) (kind : SrtpPacketKind) :
    SrtpTransport × Except Text SrtpPacketProcessResult :=
  if kind = .unknown then (t, .ok (makeIgnoredResult kind (ascii "packet kind is unknown")))
  else if plainPacket = [] then (t, .ok (makeIgnoredResult kind (ascii "plain packet is empty")))
  else
    let (t, found) := findReadyPeer t dtls answers remoteEndpoint
    match found with
    | .error e => (t, .error e)
    | .ok (.error reason) => (t, .ok (makeIgnoredResult kind reason))
    | .ok (.ok peer) =>
        match answers.crypt peer.outboundSession with
        | .error e =>
            (t, .error (ascii "srtp outbound protect failed remote=" ++ remoteEndpoint ++
              ascii " kind=" ++ srtpPacketKindToString kind ++ ascii " error=" ++ e))
        | .ok packet =>
            (countOutbound t remoteEndpoint peer,
              .ok { state := .protectedPacket, kind, protectedPacket := packet })

end SrtpTransport

/-! ## The identity of a peer -/

section Identity
variable {identity : DtlsPeerIdentity}

theorem bindPeerIdentity_matches (peer : SrtpPeerState) :
    (peer.bindPeerIdentity identity).peerIdentityMatches identity = true := by
  simp [SrtpPeerState.peerIdentityMatches, SrtpPeerState.bindPeerIdentity]

/-- Binding a peer to the identity it already has changes nothing. -/
theorem bindPeerIdentity_of_matches {peer : SrtpPeerState}
    (h : peer.peerIdentityMatches identity = true) : peer.bindPeerIdentity identity = peer := by
  simp only [SrtpPeerState.peerIdentityMatches, Bool.and_eq_true, decide_eq_true_eq] at h
  obtain ⟨⟨⟨hsession, hstream⟩, hlocal⟩, hremote⟩ := h
  rw [SrtpPeerState.bindPeerIdentity, ← hsession, ← hstream, ← hlocal, ← hremote]

theorem adoptIdentity_matches (peer : SrtpPeerState) :
    (peer.adoptIdentity identity).peerIdentityMatches identity = true := by
  unfold SrtpPeerState.adoptIdentity SrtpPeerState.resetPeerForIdentity
  split_ifs with hreset hempty
  · exact bindPeerIdentity_matches _
  · exact bindPeerIdentity_matches peer
  · by_contra hmatches
    exact hreset ⟨hempty, by simpa using hmatches⟩

theorem ensureSessionsReady_matches (answers : LibSrtpAnswers) (identity : DtlsPeerIdentity)
    (peer : SrtpPeerState) (material : Option SrtpKeyingMaterial) :
    (peer.ensureSessionsReady answers identity material).1.peerIdentityMatches identity = true := by
  unfold SrtpPeerState.ensureSessionsReady
  split_ifs with hready
  · exact hready.2.2
  · cases material with
    | none => exact adoptIdentity_matches peer
    | some material =>
        cases answers.makeInbound with
        | error e => exact adoptIdentity_matches peer
        | ok _ =>
            cases answers.makeOutbound with
            | error e => exact adoptIdentity_matches peer
            | ok _ => exact adoptIdentity_matches peer

end Identity

/-! ## What a packet does to the peers -/

namespace SrtpTransport
variable (t : SrtpTransport)

variable {t} in
/-- Without an association there is no peer. -/
theorem findReadyPeer_none {dtls : DtlsTransport} (answers : LibSrtpAnswers)
    {remoteEndpoint : Text} (h : dtls.peersByEndpoint.find? remoteEndpoint = none) :
    ∃ t' reason, findReadyPeer t dtls answers remoteEndpoint = (t', .ok (.error reason)) ∧
      ∀ key, t'.find? key = if key = remoteEndpoint then none else t.find? key := by
  simp only [findReadyPeer, DtlsTransport.getPeerIdentity, h, Option.map_none]
  cases hfind : t.find? remoteEndpoint with
  | none =>
      refine ⟨_, _, rfl, ?_⟩
      intro key
      split_ifs with hkey
      · rw [hkey, hfind]
      · rfl
  | some peer => exact ⟨_, _, rfl, AssocMap.find?_erase t remoteEndpoint⟩

/-- The peer of an association takes its identity, and its keys where it needs them. -/
theorem findReadyPeer_some {dtls : DtlsTransport} (answers : LibSrtpAnswers)
    {remoteEndpoint : Text} {association : DtlsPeerState}
    (h : dtls.peersByEndpoint.find? remoteEndpoint = some association) :
    ∃ peer ready,
      ((t.find? remoteEndpoint).getD
          (({} : SrtpPeerState).bindPeerIdentity association.identity)).ensureSessionsReady answers
        association.identity association.keyingMaterial = (peer, ready) ∧
      findReadyPeer t dtls answers remoteEndpoint = (t.insertOrAssign remoteEndpoint peer,
        ready.map fun ready =>
          if ready then .ok peer else .error (ascii "dtls handshake is not complete")) := by
  have hmaterial : dtls.getSrtpKeyingMaterial remoteEndpoint association.identity =
      association.keyingMaterial := by
    simp [DtlsTransport.getSrtpKeyingMaterial, h, sameSrtpGeneration]
  generalize houtcome : ((t.find? remoteEndpoint).getD
    (({} : SrtpPeerState).bindPeerIdentity association.identity)).ensureSessionsReady answers
      association.identity association.keyingMaterial = outcome
  obtain ⟨peer, ready⟩ := outcome
  refine ⟨peer, ready, rfl, ?_⟩
  simp only [findReadyPeer, DtlsTransport.getPeerIdentity, h, Option.map_some, hmaterial, houtcome]

/-- The peers after a packet of an endpoint or a question about it. -/
inductive Served (dtls : DtlsTransport) (remoteEndpoint : Text) : SrtpTransport → Prop
  | ignored : Served dtls remoteEndpoint t
  | readied (answers : LibSrtpAnswers) :
      Served dtls remoteEndpoint (findReadyPeer t dtls answers remoteEndpoint).1
  | counted (answers : LibSrtpAnswers) (peer : SrtpPeerState) (inbound outbound : ℕ) :
      (findReadyPeer t dtls answers remoteEndpoint).2 = .ok (.ok peer) →
      Served dtls remoteEndpoint
        ((findReadyPeer t dtls answers remoteEndpoint).1.insertOrAssign remoteEndpoint { peer with
          inboundPacketCount := inbound
          outboundPacketCount := outbound })

theorem peerReady_served (dtls : DtlsTransport) (answers : LibSrtpAnswers)
    (remoteEndpoint : Text) :
    Served t dtls remoteEndpoint (peerReady t dtls answers remoteEndpoint).1 := by
  unfold peerReady
  split_ifs
  · exact .ignored
  · exact .readied answers

theorem handleInboundPacket_served (dtls : DtlsTransport) (answers : LibSrtpAnswers)
    (data : List UInt8) (remoteEndpoint : Text) :
    Served t dtls remoteEndpoint (handleInboundPacket t dtls answers data remoteEndpoint).1 := by
  have hreadied : Served t dtls remoteEndpoint (findReadyPeer t dtls answers remoteEndpoint).1 :=
    .readied answers
  have hcounted : ∀ peer, (findReadyPeer t dtls answers remoteEndpoint).2 = .ok (.ok peer) →
      Served t dtls remoteEndpoint
        (countInbound (findReadyPeer t dtls answers remoteEndpoint).1 remoteEndpoint peer) :=
    fun peer => .counted answers peer _ _
  unfold handleInboundPacket
  generalize findReadyPeer t dtls answers remoteEndpoint = found at hreadied hcounted
  obtain ⟨t', result⟩ := found
  by_cases hunknown : classifyPacket data = .unknown
  · simp only [hunknown, if_true]
    exact .ignored
  · simp only [hunknown, if_false]
    match result with
    | .error e => exact hreadied
    | .ok (.error reason) => exact hreadied
    | .ok (.ok peer) =>
        simp only
        cases answers.crypt peer.inboundSession with
        | error e => exact hreadied
        | ok packet =>
            simp only
            split_ifs
            · cases parseRtpPacketHeader packet with
              | error e => exact hreadied
              | ok header => exact hcounted peer rfl
            · exact hcounted peer rfl

theorem protectOutboundPacket_served (dtls : DtlsTransport) (answers : LibSrtpAnswers)
    (plainPacket : List UInt8) (remoteEndpoint : Text) (kind : SrtpPacketKind) :
    Served t dtls remoteEndpoint
      (protectOutboundPacket t dtls answers plainPacket remoteEndpoint kind).1 := by
  have hreadied : Served t dtls remoteEndpoint (findReadyPeer t dtls answers remoteEndpoint).1 :=
    .readied answers
  have hcounted : ∀ peer, (findReadyPeer t dtls answers remoteEndpoint).2 = .ok (.ok peer) →
      Served t dtls remoteEndpoint
        (countOutbound (findReadyPeer t dtls answers remoteEndpoint).1 remoteEndpoint peer) :=
    fun peer => .counted answers peer _ _
  unfold protectOutboundPacket
  generalize findReadyPeer t dtls answers remoteEndpoint = found at hreadied hcounted
  obtain ⟨t', result⟩ := found
  split_ifs
  · exact .ignored
  · exact .ignored
  · match result with
    | .error e => exact hreadied
    | .ok (.error reason) => exact hreadied
    | .ok (.ok peer) =>
        simp only
        cases answers.crypt peer.outboundSession with
        | error e => exact hreadied
        | ok packet => exact hcounted peer rfl

end SrtpTransport
end SimpleWebrtc.Srtp
