import SimpleWebrtc.PeerRebind

/-!
# The keys in use

The SRTP sessions of an endpoint are made once from the keys the DTLS transport
exported, and are used for as long as the peer they belong to matches the
identity of the association at that endpoint. What is compared is a part of the
identity only, and the keys themselves are not looked at again. An association
which is reset, or whose handshake fails, may so leave behind sessions which go
on being used; a rebinding may carry such sessions along, or give them back an
identity. Where no step does that, the sessions in use are those of the current
association.
-/
namespace SimpleWebrtc.TransportKeys
open Library Library.Text Stun Dtls Srtp SessionPeer

/-! ## Both transports -/

structure Transports where
  dtls : DtlsTransport
  srtp : SrtpTransport := AssocMap.empty

inductive Event where
  | rememberPeer (remote : Text) (identity : DtlsPeerIdentity)
  | forgetPeer (remote : Text)
  | rebind (setMtu : Except Text Unit) (previousEndpoint nextEndpoint : UdpEndpoint)
      (previousIdentity nextIdentity : DtlsPeerIdentity)
  | udpPacket (answers : OpenSslAnswers) (data : List UInt8) (remote : Text)
      (family : DtlsNetworkFamily)
  | peerReady (answers : LibSrtpAnswers) (remote : Text)
  | inboundPacket (answers : LibSrtpAnswers) (data : List UInt8) (remote : Text)
  | outboundPacket (answers : LibSrtpAnswers) (plainPacket : List UInt8) (remote : Text)
      (kind : SrtpPacketKind)

namespace Transports
variable (environment : Environment) (s : Transports)

def perform : Event → Transports
  | .rememberPeer remote identity => { s with dtls := s.dtls.rememberPeer remote identity }
  | .forgetPeer remote =>
      { dtls := s.dtls.forgetPeer remote
        srtp := SrtpTransport.forgetPeer s.srtp remote }
  | .rebind setMtu previousEndpoint nextEndpoint previousIdentity nextIdentity =>
      let (dtls, srtp, _) := rebindSessionTransportPeer environment setMtu s.dtls s.srtp
        previousEndpoint nextEndpoint previousIdentity nextIdentity
      { dtls, srtp }
  | .udpPacket answers data remote family =>
      { s with dtls := (s.dtls.handleUdpPacket answers data remote family).1 }
  | .peerReady answers remote =>
      { s with srtp := (SrtpTransport.peerReady s.srtp s.dtls answers remote).1 }
  | .inboundPacket answers data remote =>
      { s with srtp := (SrtpTransport.handleInboundPacket s.srtp s.dtls answers data remote).1 }
  | .outboundPacket answers plainPacket remote kind =>
      { s with
        srtp := (SrtpTransport.protectOutboundPacket s.srtp s.dtls answers plainPacket remote kind).1 }

def initial : Prop := ∃ ipMtu, s = { dtls := makeDtlsTransport ipMtu }

def system : EventSystem Transports Event :=
  .ofStep initial fun s e => some (s.perform environment e)

/-- The peer whose sessions a packet of an endpoint is protected or unprotected with. -/
def servingPeer (answers : LibSrtpAnswers) (remote : Text) : Option SrtpPeerState :=
  (SrtpTransport.findReadyPeer s.srtp s.dtls answers remote).2.toOption.bind Except.toOption

end Transports

def HasSessions (peer : SrtpPeerState) : Prop :=
  peer.inboundSession.isSome = true ∧ peer.outboundSession.isSome = true

instance (peer : SrtpPeerState) : Decidable (HasSessions peer) :=
  inferInstanceAs (Decidable (_ ∧ _))

def MadeFrom (peer : SrtpPeerState) (material : Option SrtpKeyingMaterial) : Prop :=
  peer.inboundSession = material ∧ peer.outboundSession = material

/-- Whatever packet comes next at any endpoint, it is handled with the keys of the association
which is there. -/
def UsesCurrentKeys (s : Transports) : Prop :=
  ∀ answers remote peer, s.servingPeer answers remote = some peer →
    ∃ association material, s.dtls.peersByEndpoint.find? remote = some association ∧
      association.keyingMaterial = some material ∧ MadeFrom peer (some material)

/-! ## The condition of a step -/

/-- The sessions at an endpoint which would go on being used under an identity. -/
def SessionsFor (srtp : SrtpTransport) (remote : Text) (identity : DtlsPeerIdentity) : Prop :=
  ∃ peer, srtp.find? remote = some peer ∧ HasSessions peer ∧
    peer.peerIdentityMatches identity = true

/-- An SRTP peer is there to be moved and nothing stands in its way. -/
structure MovesSessions (srtp : SrtpTransport) (previous next : Text) (identity : DtlsPeerIdentity)
    (peer : SrtpPeerState) : Prop where
  found : srtp.find? previous = some peer
  sameSession : peer.sessionId = identity.sessionId ∧ peer.streamId = identity.streamId
  free : previous = next ∨ srtp.find? next = none

/-- The inputs of a rebinding are good and its MTU is known. -/
structure Rebindable (dtls : DtlsTransport) (family : DtlsNetworkFamily)
    (identity : DtlsPeerIdentity) : Prop where
  valid : validateDtlsPeerIdentity identity = .ok ()
  mtu : ∃ udpPayloadMtu, makeDtlsUdpPayloadMtu dtls.ipMtu family = .ok udpPayloadMtu

def IsKeyed (association : DtlsPeerState) : Prop :=
  association.ssl = true ∧ association.keyingMaterial ≠ none

/-- A keyed association is there to be moved and nothing stands in its way. -/
structure MovesAssociation (dtls : DtlsTransport) (setMtu : Except Text Unit) (previous next : Text)
    (family : DtlsNetworkFamily) (identity : DtlsPeerIdentity) : Prop
    extends Rebindable dtls family identity where
  keyed : ∃ association, dtls.peersByEndpoint.find? previous = some association ∧
    sameDtlsAssociation association.identity identity = true ∧ IsKeyed association
  free : previous = next ∨ dtls.peersByEndpoint.find? next = none
  set : setMtu = .ok ()

/-- There is no keyed association to be moved. -/
structure NothingToMove (dtls : DtlsTransport) (previous : Text) (family : DtlsNetworkFamily)
    (identity : DtlsPeerIdentity) : Prop extends Rebindable dtls family identity where
  unkeyed : ∀ association, dtls.peersByEndpoint.find? previous = some association →
    sameDtlsAssociation association.identity identity = true ∧ ¬IsKeyed association

/-- A rebinding leaves no sessions with an association they were not made for: those it carries
along or finds where it goes are of the association it moves, and those it gives back to the
identity of an association it does not move are that association's. -/
structure RebindKeepsKeys (s : Transports) (setMtu : Except Text Unit) (previous next : Text)
    (family : DtlsNetworkFamily) (previousIdentity nextIdentity : DtlsPeerIdentity) : Prop where
  carried : MovesAssociation s.dtls setMtu previous next family nextIdentity →
    ∀ peer association, MovesSessions s.srtp previous next nextIdentity peer →
      s.dtls.peersByEndpoint.find? previous = some association → HasSessions peer →
      MadeFrom peer association.keyingMaterial
  found : MovesAssociation s.dtls setMtu previous next family nextIdentity →
    s.srtp.find? previous = none → ∀ peer association, s.srtp.find? next = some peer →
      s.dtls.peersByEndpoint.find? previous = some association → HasSessions peer →
      peer.peerIdentityMatches nextIdentity = true → MadeFrom peer association.keyingMaterial
  returned : ¬MovesAssociation s.dtls setMtu previous next family nextIdentity →
    ¬NothingToMove s.dtls previous family nextIdentity →
    ∀ peer association, MovesSessions s.srtp previous next nextIdentity peer →
      s.dtls.peersByEndpoint.find? previous = some association →
      sameSrtpGeneration previousIdentity association.identity = true →
      peer.sessionId = previousIdentity.sessionId ∧ peer.streamId = previousIdentity.streamId →
      HasSessions peer → MadeFrom peer association.keyingMaterial

/-- What a step must not do: reset or fail an association whose sessions would go on being used,
or rebind sessions of another one. -/
def KeepsKeys (environment : Environment) (s : Transports) : Event → Prop
  | .rememberPeer remote identity =>
      validateDtlsPeerIdentity identity = .ok () → s.dtls.getPeerIdentity remote ≠ some identity →
        ¬SessionsFor s.srtp remote identity
  | .udpPacket answers data remote family =>
      parseDtlsRecordHeader data = .ok () →
        ∀ association, s.dtls.peersByEndpoint.find? remote = some association →
          SessionsFor s.srtp remote association.identity →
          (association.networkFamily = .unknown ∨ association.networkFamily = family) ∧
            answers.writeDatagram = .ok () ∧ ∃ packets, answers.handshake = .ok packets
  | .rebind setMtu previousEndpoint nextEndpoint previousIdentity nextIdentity =>
      RebindKeepsKeys s setMtu (formatUdpEndpoint environment previousEndpoint)
        (formatUdpEndpoint environment nextEndpoint) (networkFamilyOf nextEndpoint) previousIdentity
        nextIdentity
  | _ => True

/-! ## The invariant -/

/-- Sessions which would be used with an association were made from its keys. -/
def EntryCurrent (peer : Option SrtpPeerState) (association : Option DtlsPeerState) : Prop :=
  ∀ p a, peer = some p → association = some a → HasSessions p →
    p.peerIdentityMatches a.identity = true → MadeFrom p a.keyingMaterial

/-- An association with keys has not failed. -/
def WellKeyed (association : DtlsPeerState) : Prop :=
  association.identity.sessionId ≠ [] ∧
    (association.keyingMaterial ≠ none → association.ssl = true ∧ association.handshakeError = [])

/-- What holds of the two peers under one text. -/
structure EntryConsistent (peer : Option SrtpPeerState) (association : Option DtlsPeerState) :
    Prop where
  current : EntryCurrent peer association
  named : ∀ p, peer = some p → HasSessions p → p.sessionId ≠ []
  wellKeyed : ∀ a, association = some a → WellKeyed a

def Consistent (s : Transports) : Prop :=
  ∀ remote, EntryConsistent (s.srtp.find? remote) (s.dtls.peersByEndpoint.find? remote)

theorem EntryConsistent.no_peer {peer : Option SrtpPeerState} {association : Option DtlsPeerState}
    (h : EntryConsistent peer association) : EntryConsistent none association where
  current := fun p a hp => by cases hp
  named := fun p hp => by cases hp
  wellKeyed := h.wellKeyed

theorem EntryConsistent.no_association {peer : Option SrtpPeerState}
    {association : Option DtlsPeerState} (h : EntryConsistent peer association) :
    EntryConsistent peer none where
  current := fun p a hp ha => by cases ha
  named := h.named
  wellKeyed := fun a ha => by cases ha

theorem EntryCurrent.of_made {peer : SrtpPeerState} {association : DtlsPeerState}
    (h : HasSessions peer → MadeFrom peer association.keyingMaterial) :
    EntryCurrent (some peer) (some association) := by
  intro p a hp ha hsessions _
  cases hp
  cases ha
  exact h hsessions

/-! ## Packets of an endpoint -/

section Serving
variable {s : Transports} {remote : Text} {identity : DtlsPeerIdentity}

theorem not_hasSessions_of_none {peer : SrtpPeerState} (h : peer.inboundSession = none) :
    ¬HasSessions peer := by
  intro hsessions
  rw [HasSessions, h] at hsessions
  cases hsessions.1

/-- Sessions which may not be used any more are dropped. -/
theorem adoptIdentity_no_sessions {peer : SrtpPeerState}
    (hnamed : HasSessions peer → peer.sessionId ≠ [])
    (h : ¬(HasSessions peer ∧ peer.peerIdentityMatches identity = true)) :
    ¬HasSessions (peer.adoptIdentity identity) := by
  unfold SrtpPeerState.adoptIdentity
  split_ifs with hreset hempty
  · exact not_hasSessions_of_none rfl
  · intro hsessions
    exact hnamed hsessions hempty
  · intro hsessions
    apply hreset
    refine ⟨hempty, ?_⟩
    rw [← Bool.not_eq_true]
    intro hmatches
    exact h ⟨hsessions, hmatches⟩

/-- The three ways a peer is made ready or not. -/
theorem ensureSessionsReady_cases (answers : LibSrtpAnswers) (identity : DtlsPeerIdentity)
    (peer : SrtpPeerState) (material : Option SrtpKeyingMaterial) :
    (HasSessions peer ∧ peer.peerIdentityMatches identity = true ∧
      peer.ensureSessionsReady answers identity material = (peer, .ok true)) ∨
    ¬(HasSessions peer ∧ peer.peerIdentityMatches identity = true) ∧
      ((∃ result, result ≠ .ok true ∧ peer.ensureSessionsReady answers identity material =
          (peer.adoptIdentity identity, result)) ∨
        ∃ keys, material = some keys ∧ peer.ensureSessionsReady answers identity material =
          ({ peer.adoptIdentity identity with
            inboundSession := some keys
            outboundSession := some keys }, .ok true)) := by
  by_cases hready : HasSessions peer ∧ peer.peerIdentityMatches identity = true
  · refine .inl ⟨hready.1, hready.2, ?_⟩
    rw [SrtpPeerState.ensureSessionsReady, if_pos ⟨hready.1.1, hready.1.2, hready.2⟩]
  · refine .inr ⟨hready, ?_⟩
    rw [SrtpPeerState.ensureSessionsReady,
      if_neg fun h => hready ⟨⟨h.1, h.2.1⟩, h.2.2⟩]
    cases material with
    | none => exact .inl ⟨.ok false, by simp, rfl⟩
    | some keys =>
        cases answers.makeInbound with
        | error e => exact .inl ⟨.error e, by simp, rfl⟩
        | ok _ =>
            cases answers.makeOutbound with
            | error e => exact .inl ⟨.error e, by simp, rfl⟩
            | ok _ => exact .inr ⟨keys, rfl, rfl⟩

/-- A peer which is ready has the keys of the association, and one which is not has none. -/
theorem ensureSessionsReady_current {answers : LibSrtpAnswers} {peer peer' : SrtpPeerState}
    {association : DtlsPeerState} {ready : Except Text Bool}
    (hnamed : HasSessions peer → peer.sessionId ≠ [])
    (hcurrent : EntryCurrent (some peer) (some association))
    (h : peer.ensureSessionsReady answers association.identity association.keyingMaterial =
      (peer', ready)) :
    (HasSessions peer' → MadeFrom peer' association.keyingMaterial) ∧
      (ready = .ok true → HasSessions peer') := by
  obtain ⟨hsessions, hmatches, heq⟩ | ⟨hnot, ⟨result, hresult, heq⟩ | ⟨keys, hkeys, heq⟩⟩ :=
    ensureSessionsReady_cases answers association.identity peer association.keyingMaterial
  · obtain ⟨rfl, rfl⟩ := Prod.mk.inj (heq.symm.trans h)
    exact ⟨fun _ => hcurrent peer association rfl rfl hsessions hmatches, fun _ => hsessions⟩
  · obtain ⟨rfl, rfl⟩ := Prod.mk.inj (heq.symm.trans h)
    refine ⟨?_, fun hready => absurd hready hresult⟩
    intro hsessions
    exact absurd hsessions (adoptIdentity_no_sessions hnamed hnot)
  · obtain ⟨rfl, rfl⟩ := Prod.mk.inj (heq.symm.trans h)
    rw [hkeys]
    exact ⟨fun _ => ⟨rfl, rfl⟩, fun _ => ⟨rfl, rfl⟩⟩

/-- The peer of an endpoint, or the one which is made for its first packet. -/
theorem Consistent.entry (h : Consistent s) (remote : Text) (association : DtlsPeerState) :
    let peer := (s.srtp.find? remote).getD
      (({} : SrtpPeerState).bindPeerIdentity association.identity)
    (HasSessions peer → peer.sessionId ≠ []) ∧
      (s.dtls.peersByEndpoint.find? remote = some association →
        EntryCurrent (some peer) (some association)) := by
  have hcurrent := (h remote).current
  cases hfind : s.srtp.find? remote with
  | none =>
      have hfresh : ¬HasSessions (({} : SrtpPeerState).bindPeerIdentity association.identity) :=
        not_hasSessions_of_none rfl
      refine ⟨fun hsessions => absurd hsessions hfresh, fun _ => ?_⟩
      exact .of_made fun hsessions => absurd hsessions hfresh
  | some peer =>
      rw [hfind] at hcurrent
      refine ⟨(h remote).named peer hfind, ?_⟩
      intro hassociation
      rw [hassociation] at hcurrent
      exact hcurrent

/-- What a packet finds at an endpoint. -/
theorem Consistent.findReadyPeer_cases (h : Consistent s) (answers : LibSrtpAnswers)
    (remote : Text) :
    (∃ reason, (SrtpTransport.findReadyPeer s.srtp s.dtls answers remote).2 = .ok (.error reason) ∧
      ∀ key, (SrtpTransport.findReadyPeer s.srtp s.dtls answers remote).1.find? key =
        if key = remote then none else s.srtp.find? key) ∨
    ∃ association peer, s.dtls.peersByEndpoint.find? remote = some association ∧
      (SrtpTransport.findReadyPeer s.srtp s.dtls answers remote).1 =
        s.srtp.insertOrAssign remote peer ∧
      (HasSessions peer → MadeFrom peer association.keyingMaterial ∧ peer.sessionId ≠ []) ∧
      ∀ ready, (SrtpTransport.findReadyPeer s.srtp s.dtls answers remote).2 = .ok (.ok ready) →
        ready = peer ∧ HasSessions peer := by
  cases hfind : s.dtls.peersByEndpoint.find? remote with
  | none =>
      left
      obtain ⟨t', reason, heq, hlookups⟩ :=
        SrtpTransport.findReadyPeer_none (t := s.srtp) answers hfind
      rw [heq]
      exact ⟨reason, rfl, hlookups⟩
  | some association =>
      right
      obtain ⟨hnamed, hcurrent⟩ := h.entry remote association
      obtain ⟨peer, ready, hready, heq⟩ := SrtpTransport.findReadyPeer_some s.srtp answers hfind
      obtain ⟨hmade, hsessions⟩ := ensureSessionsReady_current hnamed (hcurrent hfind) hready
      have hmatches := ensureSessionsReady_matches answers association.identity
        ((s.srtp.find? remote).getD (({} : SrtpPeerState).bindPeerIdentity association.identity))
        association.keyingMaterial
      rw [hready] at hmatches
      rw [heq]
      refine ⟨association, peer, rfl, rfl, ?_, ?_⟩
      · intro hhas
        refine ⟨hmade hhas, ?_⟩
        simp only [SrtpPeerState.peerIdentityMatches, Bool.and_eq_true, decide_eq_true_eq]
          at hmatches
        rw [hmatches.1.1.1]
        exact ((h remote).wellKeyed association hfind).1
      · intro found hfound
        cases ready with
        | error e => cases hfound
        | ok flag =>
            cases flag with
            | false => cases hfound
            | true =>
                cases hfound
                exact ⟨rfl, hsessions rfl⟩

theorem servingPeer_eq_some {answers : LibSrtpAnswers} {peer : SrtpPeerState} :
    s.servingPeer answers remote = some peer ↔
      (SrtpTransport.findReadyPeer s.srtp s.dtls answers remote).2 = .ok (.ok peer) := by
  rw [Transports.servingPeer]
  cases (SrtpTransport.findReadyPeer s.srtp s.dtls answers remote).2 with
  | error e => simp [Except.toOption]
  | ok found =>
      cases found with
      | error reason => simp [Except.toOption]
      | ok peer => simp [Except.toOption]

theorem Consistent.usesCurrentKeys (h : Consistent s) : UsesCurrentKeys s := by
  intro answers remote peer hserving
  have hready := servingPeer_eq_some.mp hserving
  obtain ⟨reason, hreason, -⟩ | ⟨association, peer', hassociation, -, hmade, hserved⟩ :=
    h.findReadyPeer_cases answers remote
  · rw [hreason] at hready
    cases hready
  · obtain ⟨rfl, hsessions⟩ := hserved peer hready
    obtain ⟨⟨hinbound, houtbound⟩, -⟩ := hmade hsessions
    obtain ⟨material, hmaterial⟩ := Option.isSome_iff_exists.mp (hinbound ▸ hsessions.1)
    rw [hmaterial] at hinbound houtbound
    exact ⟨association, material, hassociation, hmaterial, hinbound, houtbound⟩

theorem Consistent.served (h : Consistent s) {srtp : SrtpTransport}
    (hserved : SrtpTransport.Served s.srtp s.dtls remote srtp) :
    Consistent { s with srtp } := by
  have hreadied : ∀ answers, Consistent
      { s with srtp := (SrtpTransport.findReadyPeer s.srtp s.dtls answers remote).1 } := by
    intro answers key
    obtain ⟨reason, -, hlookups⟩ | ⟨association, peer, hassociation, heq, hmade, -⟩ :=
      h.findReadyPeer_cases answers remote
    · simp only [hlookups]
      split_ifs with hkey
      · exact (h key).no_peer
      · exact h key
    · simp only [heq, AssocMap.find?_insertOrAssign]
      split_ifs with hkey
      · subst hkey
        rw [hassociation]
        refine ⟨.of_made fun hsessions => (hmade hsessions).1, ?_, ?_⟩
        · intro p hp hsessions
          cases hp
          exact (hmade hsessions).2
        · intro a ha
          cases ha
          exact (h key).wellKeyed association hassociation
      · exact h key
  cases hserved with
  | ignored => exact h
  | readied answers => exact hreadied answers
  | counted answers peer inbound outbound hready =>
      intro key
      have hkept := hreadied answers key
      simp only [AssocMap.find?_insertOrAssign]
      split_ifs with hkey
      · subst hkey
        obtain ⟨reason, hreason, -⟩ | ⟨association, peer', hassociation, heq, -, hserves⟩ :=
          h.findReadyPeer_cases answers key
        · rw [hreason] at hready
          cases hready
        · obtain ⟨rfl, -⟩ := hserves peer hready
          simp only [heq, AssocMap.find?_insertOrAssign_self] at hkept
          refine ⟨?_, ?_, hkept.wellKeyed⟩
          · intro p a hp ha hsessions hmatches
            cases hp
            exact hkept.current peer a rfl ha hsessions hmatches
          · intro p hp hsessions
            cases hp
            exact hkept.named peer rfl hsessions
      · exact hkept

end Serving

/-! ## Packets of an association -/

section Associations
variable {answers : OpenSslAnswers} {ipMtu : UInt16} {data : List UInt8}
  {family : DtlsNetworkFamily}

theorem orFail_wellKeyed {α : Type} {peer : DtlsPeerState} {step : Except Text α}
    {next : α → DtlsPeerState × Except Text (List (List UInt8))}
    (hpeer : peer.identity.sessionId ≠ []) (hnext : ∀ a, WellKeyed (next a).1) :
    WellKeyed (peer.orFail step next).1 := by
  cases step with
  | error e => exact ⟨hpeer, fun hkeys => absurd rfl hkeys⟩
  | ok a => exact hnext a

/-- An association whose handshake goes on. -/
structure IsAlive (peer : DtlsPeerState) : Prop where
  named : peer.identity.sessionId ≠ []
  ssl : peer.ssl = true
  unfailed : peer.handshakeError = []

theorem ensureSsl_wellKeyed {peer : DtlsPeerState}
    {next : DtlsPeerState → DtlsPeerState × Except Text (List (List UInt8))}
    (hnamed : peer.identity.sessionId ≠ []) (herror : peer.handshakeError = [])
    (hnext : ∀ peer, IsAlive peer → WellKeyed (next peer).1) :
    WellKeyed (peer.ensureSsl answers ipMtu family next).1 := by
  unfold DtlsPeerState.ensureSsl
  split_ifs with hssl
  · exact hnext peer ⟨hnamed, hssl, herror⟩
  · apply orFail_wellKeyed hnamed
    intro udpPayloadMtu
    apply orFail_wellKeyed
    · exact hnamed
    · intro _
      apply hnext
      exact ⟨hnamed, rfl, herror⟩

theorem completeHandshakeIfReady_wellKeyed {peer : DtlsPeerState}
    {next : DtlsPeerState → DtlsPeerState × Except Text (List (List UInt8))} (h : IsAlive peer)
    (hnext : ∀ peer, IsAlive peer → WellKeyed (next peer).1) :
    WellKeyed (peer.completeHandshakeIfReady answers next).1 := by
  unfold DtlsPeerState.completeHandshakeIfReady
  split_ifs
  · exact hnext peer h
  · apply orFail_wellKeyed h.named
    intro _
    apply orFail_wellKeyed h.named
    intro material
    apply hnext
    exact ⟨h.named, h.ssl, h.unfailed⟩

theorem receive_wellKeyed {peer : DtlsPeerState} (h : WellKeyed peer) :
    WellKeyed (peer.receive answers ipMtu data family).1 := by
  have hnamed := h.1
  unfold DtlsPeerState.receive
  split_ifs with herror
  · exact h
  · refine orFail_wellKeyed hnamed ?_
    intro _
    refine ensureSsl_wellKeyed hnamed (not_not.mp herror) ?_
    intro peer halive
    refine orFail_wellKeyed halive.named ?_
    intro _
    refine orFail_wellKeyed halive.named ?_
    intro packets
    refine completeHandshakeIfReady_wellKeyed halive ?_
    intro peer halive
    split_ifs
    · exact ⟨halive.named, fun _ => ⟨halive.ssl, halive.unfailed⟩⟩
    · exact ⟨halive.named, fun _ => ⟨halive.ssl, halive.unfailed⟩⟩

/-- A datagram OpenSSL takes leaves the keys of an association alone. -/
theorem receive_keys {peer : DtlsPeerState} (h : WellKeyed peer) (hkeys : peer.keyingMaterial ≠ none)
    (hfamily : peer.networkFamily = .unknown ∨ peer.networkFamily = family)
    (hwrite : answers.writeDatagram = .ok ()) {packets : List (List UInt8)}
    (hhandshake : answers.handshake = .ok packets) :
    (peer.receive answers ipMtu data family).1.keyingMaterial = peer.keyingMaterial := by
  obtain ⟨hssl, herror⟩ := h.2 hkeys
  have hsome : peer.keyingMaterial.isSome = true := Option.isSome_iff_ne_none.mpr hkeys
  simp [DtlsPeerState.receive, DtlsPeerState.orFail, DtlsPeerState.networkFamilyError, ensure,
    DtlsPeerState.ensureSsl, DtlsPeerState.completeHandshakeIfReady, hssl, herror, hsome, hfamily,
    hwrite, hhandshake]

theorem Consistent.handleUdpPacket {s : Transports} {remote : Text} (h : Consistent s)
    (hkeeps : parseDtlsRecordHeader data = .ok () →
      ∀ association, s.dtls.peersByEndpoint.find? remote = some association →
        SessionsFor s.srtp remote association.identity →
        (association.networkFamily = .unknown ∨ association.networkFamily = family) ∧
          answers.writeDatagram = .ok () ∧ ∃ packets, answers.handshake = .ok packets) :
    Consistent { s with dtls := (s.dtls.handleUdpPacket answers data remote family).1 } := by
  unfold DtlsTransport.handleUdpPacket
  cases hparse : parseDtlsRecordHeader data with
  | error e => exact h
  | ok _ =>
      cases hfind : s.dtls.peersByEndpoint.find? remote with
      | none => exact h
      | some association =>
          intro key
          simp only [AssocMap.find?_insertOrAssign]
          split_ifs with hkey
          · subst hkey
            have hentry := h key
            rw [hfind] at hentry
            refine ⟨?_, hentry.named, ?_⟩
            · intro p a hp ha hsessions hmatches
              cases ha
              rw [receive_identity] at hmatches
              have hmade := hentry.current p association hp rfl hsessions hmatches
              have hkeys : association.keyingMaterial ≠ none := by
                intro hnone
                apply not_hasSessions_of_none _ hsessions
                rw [hmade.1, hnone]
              obtain ⟨hfamily, hwrite, packets, hhandshake⟩ :=
                hkeeps hparse association hfind ⟨p, hp, hsessions, hmatches⟩
              rw [receive_keys (hentry.wellKeyed association rfl) hkeys hfamily hwrite hhandshake]
              exact hmade
            · intro a ha
              cases ha
              exact receive_wellKeyed (hentry.wellKeyed association rfl)
          · exact h key

theorem validateDtlsPeerIdentity_session {identity : DtlsPeerIdentity}
    (h : validateDtlsPeerIdentity identity = .ok ()) : identity.sessionId ≠ [] := by
  unfold validateDtlsPeerIdentity at h
  obtain ⟨_, -, h⟩ := bind_ok.mp h
  obtain ⟨_, hsession, -⟩ := bind_ok.mp h
  exact ensure_ok.mp hsession

theorem Consistent.rememberPeer {s : Transports} {remote : Text} {identity : DtlsPeerIdentity}
    (h : Consistent s)
    (hkeeps : validateDtlsPeerIdentity identity = .ok () →
      s.dtls.getPeerIdentity remote ≠ some identity → ¬SessionsFor s.srtp remote identity) :
    Consistent { s with dtls := s.dtls.rememberPeer remote identity } := by
  unfold DtlsTransport.rememberPeer
  split_ifs with hempty hsame
  · exact h
  · exact h
  · cases hvalid : validateDtlsPeerIdentity identity with
    | error e =>
        intro key
        simp only [AssocMap.find?_erase]
        split_ifs
        · exact (h key).no_association
        · exact h key
    | ok _ =>
        intro key
        simp only [AssocMap.find?_insertOrAssign]
        split_ifs with hkey
        · subst hkey
          refine ⟨?_, (h key).named, ?_⟩
          · intro p a hp ha hsessions hmatches
            cases ha
            exact absurd ⟨p, hp, hsessions, hmatches⟩ (hkeeps hvalid hsame)
          · intro a ha
            cases ha
            exact ⟨validateDtlsPeerIdentity_session hvalid, fun hkeys => absurd rfl hkeys⟩
        · exact h key

end Associations

/-! ## Rebinding -/

section Rebinding
variable {setMtu : Except Text Unit} {previous next : Text} {family : DtlsNetworkFamily}
  {previousIdentity nextIdentity : DtlsPeerIdentity}

theorem movesAssociation_of_rebindPeer {t t' : DtlsTransport}
    (h : t.rebindPeer setMtu previous next nextIdentity family = .ok (some t')) :
    MovesAssociation t setMtu previous next family nextIdentity := by
  obtain ⟨association, _, hmoved⟩ := dtls_rebindPeer_some h
  unfold DtlsTransport.rebindPeer at h
  obtain ⟨_, -, h⟩ := bind_ok.mp h
  obtain ⟨_, hvalid, h⟩ := bind_ok.mp h
  obtain ⟨udpPayloadMtu, hmtu, h⟩ := bind_ok.mp h
  rw [hmoved.found] at h
  obtain ⟨_, -, h⟩ := bind_ok.mp h
  split_ifs at h
  · cases h
  · obtain ⟨_, -, h⟩ := bind_ok.mp h
    obtain ⟨_, hset, -⟩ := bind_ok.mp h
    exact ⟨⟨hvalid, udpPayloadMtu, hmtu⟩,
      ⟨association, hmoved.found, hmoved.sameAssociation, hmoved.keyed⟩, hmoved.free, hset⟩

theorem not_moves_of_rebindPeer_error {t : DtlsTransport} {e : Text} (hprevious : previous ≠ [])
    (hnext : next ≠ []) (h : t.rebindPeer setMtu previous next nextIdentity family = .error e) :
    ¬MovesAssociation t setMtu previous next family nextIdentity ∧
      ¬NothingToMove t previous family nextIdentity := by
  constructor
  · intro hmoves
    obtain ⟨udpPayloadMtu, hmtu⟩ := hmoves.mtu
    obtain ⟨association, hfind, hsame, hssl, hkeys⟩ := hmoves.keyed
    have hfree := hmoves.free
    simp [DtlsTransport.rebindPeer, ensure, hprevious, hnext, hmoves.valid, hmtu, hfind, hsame, hssl,
      hkeys, hfree, hmoves.set, bind, Except.bind, pure, Except.pure] at h
  · intro hnothing
    obtain ⟨udpPayloadMtu, hmtu⟩ := hnothing.mtu
    cases hfind : t.peersByEndpoint.find? previous with
    | none =>
        simp [DtlsTransport.rebindPeer, ensure, hprevious, hnext, hnothing.valid, hmtu, hfind, bind,
          Except.bind, pure, Except.pure] at h
    | some association =>
        obtain ⟨hsame, hunkeyed⟩ := hnothing.unkeyed association hfind
        have hkeyless : association.ssl = false ∨ association.keyingMaterial = none := by
          by_contra hkeyed
          apply hunkeyed
          simpa [IsKeyed] using hkeyed
        simp [DtlsTransport.rebindPeer, ensure, hprevious, hnext, hnothing.valid, hmtu, hfind, hsame,
          hkeyless, bind, Except.bind, pure, Except.pure] at h

theorem MovesSessions.of_moved {t t' : SrtpTransport} {peer : SrtpPeerState}
    (h : MovedSrtp t t' previous next nextIdentity peer) :
    MovesSessions t previous next nextIdentity peer := ⟨h.found, h.sameSession, h.free⟩

/-- A refused rebinding: the SRTP peer is back where it was, under the previous identity. -/
theorem Consistent.refused {s : Transports} (h : Consistent s) (hprevious : previous ≠ [])
    (hnext : next ≠ []) {e : Text}
    (hkeeps : RebindKeepsKeys s setMtu previous next family previousIdentity nextIdentity)
    (hdtls : s.dtls.rebindPeer setMtu previous next nextIdentity family = .error e)
    {moved : SrtpTransport} {peer : SrtpPeerState}
    (hmoved : MovedSrtp s.srtp moved previous next nextIdentity peer) :
    Consistent { s with
      srtp := rollBack s.srtp moved previous next previousIdentity (some moved) } := by
  obtain ⟨hmoves, hnothing⟩ := not_moves_of_rebindPeer_error hprevious hnext hdtls
  intro key
  obtain ⟨hsame, hlookups⟩ | ⟨-, hlookups⟩ :=
    rollBack_cases previousIdentity hprevious hnext hmoved
  · simp only [hlookups]
    split_ifs with hkey
    · subst hkey
      refine ⟨?_, ?_, (h key).wellKeyed⟩
      · intro p a hp ha hsessions hmatches
        cases hp
        exact hkeeps.returned hmoves hnothing peer a (.of_moved hmoved) ha hmatches hsame hsessions
      · intro p hp hsessions
        cases hp
        change previousIdentity.sessionId ≠ []
        rw [← hsame.1]
        exact (h key).named peer hmoved.found hsessions
    · exact h key
  · simp only [hlookups]
    split_ifs
    · exact (h key).no_peer
    · exact h key

/-- A rebinding of an association together with the sessions made for it. -/
theorem Consistent.moved {s : Transports} (h : Consistent s) {dtls' : DtlsTransport}
    (hkeeps : RebindKeepsKeys s setMtu previous next family previousIdentity nextIdentity)
    (hdtls : s.dtls.rebindPeer setMtu previous next nextIdentity family = .ok (some dtls'))
    {srtpRebind : Option SrtpTransport}
    (hsrtp : SrtpTransport.rebindPeer s.srtp previous next nextIdentity = .ok srtpRebind) :
    Consistent {
      dtls := dtls'
      srtp := srtpRebind.getD s.srtp } := by
  have hmoves := movesAssociation_of_rebindPeer hdtls
  obtain ⟨association, udpPayloadMtu, hmovedDtls⟩ := dtls_rebindPeer_some hdtls
  have hwellKeyed : WellKeyed { association with
      identity := nextIdentity
      networkFamily := family
      udpPayloadMtu } :=
    ⟨validateDtlsPeerIdentity_session hmoves.valid,
      ((h previous).wellKeyed association hmovedDtls.found).2⟩
  intro key
  cases srtpRebind with
  | none =>
      have hnone := srtp_rebindPeer_none hsrtp
      simp only [Option.getD_none, hmovedDtls.moved]
      split_ifs with hkey hkey'
      · subst hkey
        refine ⟨?_, (h key).named, ?_⟩
        · intro p a hp ha hsessions hmatches
          cases ha
          exact hkeeps.found hmoves hnone p association hp hmovedDtls.found hsessions hmatches
        · intro a ha
          cases ha
          exact hwellKeyed
      · exact (h key).no_association
      · exact h key
  | some moved =>
      obtain ⟨peer, hmoved⟩ := srtp_rebindPeer_some hsrtp
      simp only [Option.getD_some, hmovedDtls.moved, hmoved.moved]
      split_ifs with hkey hkey'
      · refine ⟨?_, ?_, ?_⟩
        · apply EntryCurrent.of_made
          intro hsessions
          exact hkeeps.carried hmoves peer association (.of_moved hmoved) hmovedDtls.found hsessions
        · intro p hp _
          cases hp
          exact validateDtlsPeerIdentity_session hmoves.valid
        · intro a ha
          cases ha
          exact hwellKeyed
      · exact (h key).no_peer.no_association
      · exact h key

theorem Consistent.rebindRemotes {s : Transports} (h : Consistent s) (hprevious : previous ≠ [])
    (hnext : next ≠ [])
    (hkeeps : RebindKeepsKeys s setMtu previous next family previousIdentity nextIdentity)
    {dtls' : DtlsTransport} {srtp' : SrtpTransport} {outcome : Except Text Bool}
    (heq : SessionPeer.rebindRemotes setMtu s.dtls s.srtp previous next family previousIdentity
      nextIdentity = (dtls', srtp', outcome)) :
    Consistent {
      dtls := dtls'
      srtp := srtp' } := by
  unfold SessionPeer.rebindRemotes at heq
  cases hsrtp : SrtpTransport.rebindPeer s.srtp previous next nextIdentity with
  | error e =>
      rw [hsrtp] at heq
      cases heq
      exact h
  | ok srtpRebind =>
      rw [hsrtp] at heq
      cases hdtls : s.dtls.rebindPeer setMtu previous next nextIdentity family with
      | error e =>
          rw [hdtls] at heq
          cases heq
          cases srtpRebind with
          | none => exact h
          | some moved =>
              obtain ⟨peer, hmoved⟩ := srtp_rebindPeer_some hsrtp
              exact h.refused hprevious hnext hkeeps hdtls hmoved
      | ok dtlsRebind =>
          rw [hdtls] at heq
          cases dtlsRebind with
          | none =>
              cases heq
              intro key
              simp only [DtlsTransport.forgetPeer, SrtpTransport.forgetPeer, if_neg hprevious,
                AssocMap.find?_erase]
              split_ifs with hkey
              · exact (h key).no_peer.no_association
              · cases srtpRebind with
                | none => exact h key
                | some moved =>
                    obtain ⟨peer, hmoved⟩ := srtp_rebindPeer_some hsrtp
                    obtain ⟨-, hlookups⟩ | ⟨-, hlookups⟩ :=
                      rollBack_cases previousIdentity hprevious hnext hmoved
                    · simp only [Option.getD_some, hlookups, if_neg hkey]
                      exact h key
                    · simp only [Option.getD_some, hlookups, if_neg hkey]
                      exact h key
          | some dtls' =>
              cases heq
              exact h.moved hkeeps hdtls hsrtp

end Rebinding

/-! ## Runs -/

theorem Consistent.perform {environment : Environment} {s : Transports} {event : Event}
    (h : Consistent s) (hkeeps : KeepsKeys environment s event) :
    Consistent (s.perform environment event) := by
  cases event with
  | rememberPeer remote identity => exact h.rememberPeer hkeeps
  | forgetPeer remote =>
      intro key
      simp only [Transports.perform, DtlsTransport.forgetPeer, SrtpTransport.forgetPeer]
      split_ifs
      · exact h key
      · simp only [AssocMap.find?_erase]
        split_ifs
        · exact (h key).no_peer.no_association
        · exact h key
  | rebind setMtu previousEndpoint nextEndpoint previousIdentity nextIdentity =>
      exact h.rebindRemotes (formatUdpEndpoint_ne_nil environment previousEndpoint)
        (formatUdpEndpoint_ne_nil environment nextEndpoint) hkeeps rfl
  | udpPacket answers data remote family => exact h.handleUdpPacket hkeeps
  | peerReady answers remote => exact h.served (SrtpTransport.peerReady_served ..)
  | inboundPacket answers data remote => exact h.served (SrtpTransport.handleInboundPacket_served ..)
  | outboundPacket answers plainPacket remote kind =>
      exact h.served (SrtpTransport.protectOutboundPacket_served ..)

/-- As long as no step leaves sessions behind, every packet is handled with the keys of the
association at its endpoint. -/
theorem run_uses_current_keys (environment : Environment) (events : List Event) (s : Transports)
    (h : ((Transports.system environment).restrict (KeepsKeys environment)).Run events s) :
    UsesCurrentKeys s := by
  have hconsistent : Consistent s := by
    refine h.invariant ?_ ?_
    · intro s hs key
      obtain ⟨ipMtu, rfl⟩ := hs
      refine ⟨?_, ?_, ?_⟩
      · intro p a hp
        cases hp
      · intro p hp
        cases hp
      · intro a ha
        cases ha
    · intro s event s' hs hstep
      obtain ⟨hkeeps, hstep⟩ := hstep
      obtain rfl := Option.some.inj hstep
      exact hs.perform hkeeps
  exact hconsistent.usesCurrentKeys

/-! ## A certificate is replaced -/

def finishingOpenSsl : OpenSslAnswers where
  makeSsl := .ok ()
  writeDatagram := .ok ()
  handshake := .ok []
  initFinished := true
  remoteCertificate := .ok ()
  exportKeys := .ok ⟨[1]⟩
  consumeRecords := .ok []

/-- An empty handshake record. -/
def handshakeRecord : List UInt8 := [22, 0xFE, 0xFD, 0, 0, 0, 0, 0, 0, 0, 0, 0, 0]

def newTransports : Transports where
  dtls := makeDtlsTransport 1200

def remembering : Event := .rememberPeer (ascii "r") keyedIdentity

def finishing : Event := .udpPacket finishingOpenSsl handshakeRecord (ascii "r") .ipv4

def preparing : Event := .peerReady readyLibSrtp (ascii "r")

def replacedIdentity : DtlsPeerIdentity := { keyedIdentity with
  remoteFingerprint := {
    algorithm := ascii "sha-256"
    value := ascii "22:33" } }

def replacing : Event := .rememberPeer (ascii "r") replacedIdentity

def keyedTransports : Transports :=
  [remembering, finishing, preparing].foldl (Transports.perform loopbackEnvironment) newTransports

def replacedTransports : Transports := keyedTransports.perform loopbackEnvironment replacing

theorem keyedTransports_run :
    ((Transports.system loopbackEnvironment).restrict (KeepsKeys loopbackEnvironment)).Run
      [remembering, finishing, preparing] keyedTransports := by
  have hnone : ∀ remote identity, ¬SessionsFor AssocMap.empty remote identity := by
    intro remote identity hsessions
    obtain ⟨peer, hpeer, -⟩ := hsessions
    cases hpeer
  have hstart : ((Transports.system loopbackEnvironment).restrict
      (KeepsKeys loopbackEnvironment)).Run [] newTransports := .start ⟨1200, rfl⟩
  have hremembered := hstart.step (e := remembering) ⟨fun _ _ => hnone _ _, rfl⟩
  have hfinished := hremembered.step (e := finishing)
    ⟨fun _ _ _ hsessions => absurd hsessions (hnone _ _), rfl⟩
  exact hfinished.step (e := preparing) ⟨trivial, rfl⟩

theorem run_uses_current_keys_keyed :
    (keyedTransports.servingPeer readyLibSrtp (ascii "r")).isSome = true ∧
      UsesCurrentKeys keyedTransports := by
  refine ⟨?_, run_uses_current_keys loopbackEnvironment _ _ keyedTransports_run⟩
  decide +kernel

/-- Packets go on being handled with the keys of an association which is no longer there. -/
theorem sessions_outlive_association :
    ¬ ∀ (environment : Environment) (events : List Event) (s : Transports),
      (Transports.system environment).Run events s → UsesCurrentKeys s := by
  intro hall
  have hrun := (keyedTransports_run.of_restrict.step (e := replacing) rfl :
    (Transports.system loopbackEnvironment).Run _ replacedTransports)
  have hserves : (replacedTransports.servingPeer readyLibSrtp (ascii "r")).isSome = true := by
    decide +kernel
  have hunkeyed : (replacedTransports.dtls.peersByEndpoint.find? (ascii "r")).bind
      DtlsPeerState.keyingMaterial = none := by decide +kernel
  obtain ⟨peer, hpeer⟩ := Option.isSome_iff_exists.mp hserves
  obtain ⟨association, material, hassociation, hmaterial, -⟩ :=
    hall loopbackEnvironment _ _ hrun readyLibSrtp (ascii "r") peer hpeer
  rw [hassociation, Option.bind_some, hmaterial] at hunkeyed
  cases hunkeyed

end SimpleWebrtc.TransportKeys
