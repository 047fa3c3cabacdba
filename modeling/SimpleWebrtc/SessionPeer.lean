import SimpleWebrtc.Library.Runs
import SimpleWebrtc.SessionStunBinding
import SimpleWebrtc.SrtpTransport

/-!
# The peer of a session

The part of a WHIP or WHEP transport which decides whose packets are listened to:
the nominated endpoint and the peers of the two transports under it. What a
packet leads to further up is handed back as a reaction; what the session then
sends is a later event of its own.
-/
namespace SimpleWebrtc.SessionPeer
open Library Library.Text Stun Dtls Srtp

/-- The `<unknown>` text stands for every address which cannot be printed. -/
def formatUdpEndpoint (environment : Environment) (endpoint : UdpEndpoint) : Text :=
  let ip := getEndpointIp environment endpoint
  if ip = [] then ascii "<unknown>" else ip ++ ascii ":" ++ decimal endpoint.port.toNat

def networkFamilyOf (endpoint : UdpEndpoint) : DtlsNetworkFamily :=
  match endpoint.address with
  | .v4 _ => .ipv4
  | .v6 _ _ => .ipv6

/-! ## Rebinding -/

/-- A move of the SRTP peer is taken back; where that fails, both places are given up. -/
def rollBack (srtp moved : SrtpTransport) (previousRemote nextRemote : Text)
    (previousIdentity : DtlsPeerIdentity) : Option SrtpTransport → SrtpTransport
  | none => srtp
  | some _ =>
      match SrtpTransport.rebindPeer moved nextRemote previousRemote previousIdentity with
      | .ok (some back) => back
      | _ => SrtpTransport.forgetPeer (SrtpTransport.forgetPeer moved nextRemote) previousRemote

/-- The flag says whether the association was moved; without one the peers are forgotten. -/
def rebindRemotes (setMtu : Except Text Unit) (dtls : DtlsTransport)
    (srtp : SrtpTransport) (previousRemote nextRemote : Text) (networkFamily : DtlsNetworkFamily)
    (previousIdentity nextIdentity : DtlsPeerIdentity) :
    DtlsTransport × SrtpTransport × Except Text Bool :=
  match SrtpTransport.rebindPeer srtp previousRemote nextRemote nextIdentity with
  | .error e => (dtls, srtp, .error e)
  | .ok srtpRebind =>
      let moved := srtpRebind.getD srtp
      match dtls.rebindPeer setMtu previousRemote nextRemote nextIdentity networkFamily with
      | .error e =>
          (dtls, rollBack srtp moved previousRemote nextRemote previousIdentity srtpRebind,
            .error e)
      | .ok none =>
          (dtls.forgetPeer previousRemote,
            SrtpTransport.forgetPeer
              (rollBack srtp moved previousRemote nextRemote previousIdentity srtpRebind)
              previousRemote,
            .ok false)
      | .ok (some dtls) => (dtls, moved, .ok true)

def rebindSessionTransportPeer (environment : Environment) (setMtu : Except Text Unit)
    (dtls : DtlsTransport) (srtp : SrtpTransport) (previousEndpoint nextEndpoint : UdpEndpoint)
    (previousIdentity nextIdentity : DtlsPeerIdentity) :
    DtlsTransport × SrtpTransport × Except Text Bool :=
  rebindRemotes setMtu dtls srtp (formatUdpEndpoint environment previousEndpoint)
    (formatUdpEndpoint environment nextEndpoint) (networkFamilyOf nextEndpoint) previousIdentity
    nextIdentity

/-! ## The state -/

inductive SessionKind where
  | whip
  | whep
deriving DecidableEq

structure PeerStatistics where
  receivedPacketCount : ℕ := 0
  udpReceived : ℕ := 0
  stunReceived : ℕ := 0
  dtlsReceived : ℕ := 0
  droppedUnselected : ℕ := 0
  srtpUnprotectFailed : ℕ := 0
  srtpInboundIgnored : ℕ := 0
deriving DecidableEq

structure SessionTransport where
  kind : SessionKind
  closed : Bool := false
  streamId : Text := []
  sessionId : Text := []
  localIcePwd : Text := []
  dtlsIdentity : Option DtlsPeerIdentity := none
  selectedRemoteEndpoint : Option UdpEndpoint := none
  dtlsTransport : DtlsTransport := {}
  srtpTransport : SrtpTransport := AssocMap.empty
  lastValidInboundActivity : ℕ := 0
  statistics : PeerStatistics := {}
deriving DecidableEq

inductive PeerNominationState where
  | unchanged
  | selectedFresh
  | associationRebound
deriving DecidableEq

/-- What a packet has the rest of the session do. -/
structure UdpReaction where
  outbound : List SessionUdpOutboundPacket := []
  cancelsKeyframeRecovery : Bool := false
  delivered : Option SrtpPacketProcessResult := none
deriving DecidableEq

/-- The time of a packet, and what the libraries answer while it is handled. -/
structure Answers where
  now : ℕ
  setMtu : Except Text Unit
  openSsl : OpenSslAnswers
  libSrtp : LibSrtpAnswers

namespace SessionTransport
variable (environment : Environment) (s : SessionTransport)

def clearPeerState : SessionTransport :=
  match s.selectedRemoteEndpoint with
  | none => s
  | some endpoint =>
      let remoteAddress := formatUdpEndpoint environment endpoint
      { s with
        srtpTransport := SrtpTransport.forgetPeer s.srtpTransport remoteAddress
        dtlsTransport := s.dtlsTransport.forgetPeer remoteAddress
        selectedRemoteEndpoint := none }

def setPeerContext (localIcePwd : Text) (identity : DtlsPeerIdentity) : SessionTransport :=
  { s.clearPeerState environment with
    streamId := identity.streamId
    sessionId := identity.sessionId
    localIcePwd
    dtlsIdentity := some identity }

def identityUnavailable : Text :=
  match s.kind with
  | .whip => ascii "WHIP DTLS identity is unavailable"
  | .whep => ascii "WHEP DTLS identity is unavailable"

def nominateRemoteEndpoint (setMtu : Except Text Unit) (remoteEndpoint : UdpEndpoint) :
    SessionTransport × Except Text PeerNominationState :=
  match s.dtlsIdentity with
  | none => (s, .error s.identityUnavailable)
  | some identity =>
      match s.selectedRemoteEndpoint with
      | none =>
          ({ s with selectedRemoteEndpoint := some remoteEndpoint }, .ok .selectedFresh)
      | some previous =>
          if previous = remoteEndpoint then (s, .ok .unchanged)
          else
            let (dtlsTransport, srtpTransport, rebound) :=
              rebindSessionTransportPeer environment setMtu s.dtlsTransport s.srtpTransport previous
                remoteEndpoint identity identity
            let s := { s with dtlsTransport, srtpTransport }
            match rebound with
            | .error e => (s, .error e)
            | .ok moved =>
                ({ s with selectedRemoteEndpoint := some remoteEndpoint },
                  .ok (if moved then .associationRebound else .selectedFresh))

def stunContext : SessionStunBindingContext where
  localIceUfrag := (s.dtlsIdentity.map DtlsPeerIdentity.localIceUfrag).getD []
  localIcePwd := s.localIcePwd
  remoteIceUfrag := (s.dtlsIdentity.map DtlsPeerIdentity.remoteIceUfrag).getD []

def countStatistics (count : PeerStatistics → PeerStatistics) : SessionTransport :=
  { s with statistics := count s.statistics }

def recordValidInboundActivity (now : ℕ) : SessionTransport := { s with lastValidInboundActivity := now }

/-- A packet the STUN binding has taken. -/
def handleStunResult (answers : Answers) (remoteEndpoint : UdpEndpoint)
    (result : SessionStunBindingResult) : SessionTransport × UdpReaction :=
  let s := s.countStatistics fun c => { c with stunReceived := c.stunReceived + 1 }
  match result.response with
  | none => (s, {})
  | some response =>
      let s := s.recordValidInboundActivity answers.now
      if result.nominated then
        let (s, nomination) := s.nominateRemoteEndpoint environment answers.setMtu remoteEndpoint
        (s, {
          outbound := [response]
          cancelsKeyframeRecovery :=
            decide (s.kind = .whep) &&
              nomination.toOption.any fun state => decide (state ≠ .unchanged) })
      else (s, { outbound := [response] })

def handleDtlsPacket (answers : Answers) (data : List UInt8) (remoteEndpoint : UdpEndpoint) :
    SessionTransport × UdpReaction :=
  let s := s.countStatistics fun c => { c with dtlsReceived := c.dtlsReceived + 1 }
  match s.dtlsIdentity with
  | none => (s, {})
  | some identity =>
      let remoteAddress := formatUdpEndpoint environment remoteEndpoint
      let remembered := s.dtlsTransport.rememberPeer remoteAddress identity
      let (dtlsTransport, outboundPackets) :=
        remembered.handleUdpPacket answers.openSsl data remoteAddress
          (networkFamilyOf remoteEndpoint)
      let s := { s with dtlsTransport }
      match outboundPackets with
      | .error _ => (s, {})
      | .ok packets =>
          (s.recordValidInboundActivity answers.now,
            { outbound := packets.map fun packet => ⟨packet, remoteEndpoint⟩ })

/-- The two kinds of session differ in an empty plain packet. -/
def isDelivered (result : SrtpPacketProcessResult) : Bool :=
  decide (result.state = .unprotected) &&
    (decide (s.kind = .whip) || !result.plainPacket.isEmpty)

def handleSrtpPacket (answers : Answers) (data : List UInt8) (remoteEndpoint : UdpEndpoint) :
    SessionTransport × UdpReaction :=
  let (srtpTransport, inbound) :=
    SrtpTransport.handleInboundPacket s.srtpTransport s.dtlsTransport answers.libSrtp data
      (formatUdpEndpoint environment remoteEndpoint)
  let s := { s with srtpTransport }
  match inbound with
  | .error _ =>
      (s.countStatistics fun c => { c with srtpUnprotectFailed := c.srtpUnprotectFailed + 1 }, {})
  | .ok result =>
      if s.isDelivered result = false then
        (s.countStatistics fun c => { c with srtpInboundIgnored := c.srtpInboundIgnored + 1 }, {})
      else if result.plainPacket = [] then (s, { delivered := some result })
      else (s.recordValidInboundActivity answers.now, { delivered := some result })

def handleUdpPacket (answers : Answers) (data : List UInt8) (remoteEndpoint : UdpEndpoint) :
    SessionTransport × UdpReaction :=
  let s := s.countStatistics fun c => { c with
    receivedPacketCount := c.receivedPacketCount + 1
    udpReceived := c.udpReceived + 1 }
  let result := handleSessionStunBinding environment data remoteEndpoint s.stunContext
  if result.handled then s.handleStunResult environment answers remoteEndpoint result
  else if s.kind = .whip ∧ s.closed = true then (s, {})
  else if s.selectedRemoteEndpoint ≠ some remoteEndpoint then
    (s.countStatistics fun c => { c with droppedUnselected := c.droppedUnselected + 1 }, {})
  else if isDtlsPacket data then s.handleDtlsPacket environment answers data remoteEndpoint
  else s.handleSrtpPacket environment answers data remoteEndpoint

/-- Whether the selected peer has its keys. -/
def peerReady (libSrtp : LibSrtpAnswers) : SessionTransport × Except Text Bool :=
  match s.selectedRemoteEndpoint with
  | none => (s, .ok false)
  | some endpoint =>
      let (srtpTransport, ready) := SrtpTransport.peerReady s.srtpTransport s.dtlsTransport libSrtp
        (formatUdpEndpoint environment endpoint)
      ({ s with srtpTransport }, ready)

/-- A packet of the session is protected for the selected peer. -/
def protectOutbound (libSrtp : LibSrtpAnswers) (kind : SrtpPacketKind) (packet : List UInt8) :
    SessionTransport × Option (Except Text SrtpPacketProcessResult) :=
  match s.selectedRemoteEndpoint with
  | none => (s, none)
  | some endpoint =>
      let (srtpTransport, result) :=
        SrtpTransport.protectOutboundPacket s.srtpTransport s.dtlsTransport libSrtp packet
          (formatUdpEndpoint environment endpoint) kind
      ({ s with srtpTransport }, some result)

/-- The BYE packets of a session which is closed are still sent. -/
def sendRtcpBye (byes : List (LibSrtpAnswers × List UInt8)) : SessionTransport :=
  byes.foldl (fun s bye => (s.protectOutbound environment bye.1 .rtcp bye.2).1) s

def close (ready : LibSrtpAnswers) (byes : List (LibSrtpAnswers × List UInt8)) : SessionTransport :=
  if s.closed then s
  else
    let (s, peerReady) := { s with closed := true }.peerReady environment ready
    if peerReady.toOption = some true then
      (s.sendRtcpBye environment byes).clearPeerState environment
    else s.clearPeerState environment

end SessionTransport

/-! ## Runs -/

inductive Event where
  | setPeerContext (localIcePwd : Text) (identity : DtlsPeerIdentity)
  | udpPacket (answers : Answers) (data : List UInt8) (remoteEndpoint : UdpEndpoint)
  | peerReady (libSrtp : LibSrtpAnswers)
  | protectOutbound (libSrtp : LibSrtpAnswers) (kind : SrtpPacketKind) (packet : List UInt8)
  | close (ready : LibSrtpAnswers) (byes : List (LibSrtpAnswers × List UInt8))

namespace SessionTransport

def perform (environment : Environment) (s : SessionTransport) : Event → SessionTransport
  | .setPeerContext localIcePwd identity => s.setPeerContext environment localIcePwd identity
  | .udpPacket answers data remoteEndpoint =>
      (s.handleUdpPacket environment answers data remoteEndpoint).1
  | .peerReady libSrtp => (s.peerReady environment libSrtp).1
  | .protectOutbound libSrtp kind packet => (s.protectOutbound environment libSrtp kind packet).1
  | .close ready byes => s.close environment ready byes

/-- A new transport has no peer. -/
def initial (s : SessionTransport) : Prop :=
  ∃ kind ipMtu, s = { kind, dtlsTransport := makeDtlsTransport ipMtu }

def system (environment : Environment) : EventSystem SessionTransport Event :=
  .ofStep initial fun s e => some (s.perform environment e)

end SessionTransport
end SimpleWebrtc.SessionPeer
