import SimpleWebrtc.PeerRebind

/-!
# Only the nominated endpoint has keys

Both transports hold peers for one endpoint at most, and all under the identity
of the session. An endpoint is moved in both of them or in neither: what the SRTP
transport has moved before the DTLS transport refuses is moved back, and since
the identity is the same on the way there and back, it is the same peer again.
-/
namespace SimpleWebrtc.SessionPeer
open Library Library.Text Stun Dtls Srtp

/-! ## The DTLS transport -/

section DtlsPeers
variable {answers : OpenSslAnswers} {ipMtu : UInt16} {data : List UInt8}
  {family : DtlsNetworkFamily} {identity : DtlsPeerIdentity} {remote : Text} {t : DtlsTransport}

/-- The only peer is one of an endpoint, under an identity. -/
def DtlsOnly (t : DtlsTransport) (remote : Text) (identity : DtlsPeerIdentity) : Prop :=
  t.peersByEndpoint.Only remote fun peer => peer.identity = identity

theorem DtlsOnly.forgetPeer (h : DtlsOnly t remote identity) (hremote : remote ≠ [])
    (key : Text) : (t.forgetPeer remote).peersByEndpoint.find? key = none := by
  rw [DtlsTransport.forgetPeer, if_neg hremote]
  exact AssocMap.Only.erase h key

theorem DtlsOnly.rememberPeer (h : DtlsOnly t remote identity) :
    DtlsOnly (t.rememberPeer remote identity) remote identity := by
  unfold DtlsTransport.rememberPeer
  split_ifs
  · exact h
  · exact h
  · cases validateDtlsPeerIdentity identity with
    | error e => exact .of_find?_eq_none (AssocMap.Only.erase h)
    | ok _ => exact AssocMap.Only.insertOrAssign h rfl

theorem DtlsOnly.handleUdpPacket (h : DtlsOnly t remote identity) (answers : OpenSslAnswers)
    (data : List UInt8) (family : DtlsNetworkFamily) :
    DtlsOnly (t.handleUdpPacket answers data remote family).1 remote identity := by
  unfold DtlsTransport.handleUdpPacket
  cases parseDtlsRecordHeader data with
  | error e => exact h
  | ok _ =>
      cases hfind : t.peersByEndpoint.find? remote with
      | none => exact h
      | some peer =>
          apply AssocMap.Only.insertOrAssign h
          exact (receive_identity peer).trans (h remote peer hfind).2

theorem DtlsOnly.identity_of_some (h : DtlsOnly t remote identity) {found : DtlsPeerIdentity}
    (hfound : t.getPeerIdentity remote = some found) : found = identity := by
  obtain ⟨peer, hpeer, rfl⟩ := Option.map_eq_some_iff.mp hfound
  exact (h remote peer hpeer).2

/-- A moved association is the only one at its new endpoint. -/
theorem MovedDtls.only {previous next : Text} {nextIdentity : DtlsPeerIdentity}
    {t' : DtlsTransport} {peer : DtlsPeerState} {udpPayloadMtu : UInt16}
    (h : MovedDtls t t' previous next nextIdentity family peer udpPayloadMtu)
    (honly : DtlsOnly t previous identity) : DtlsOnly t' next nextIdentity := by
  intro key found hfind
  rw [h.moved] at hfind
  split_ifs at hfind with hnext hprevious
  · cases hfind
    exact ⟨hnext, rfl⟩
  · exact absurd (honly key found hfind).1 hprevious

end DtlsPeers

/-! ## The SRTP transport -/

section SrtpPeers
variable {answers : LibSrtpAnswers} {identity : DtlsPeerIdentity} {remote : Text}
  {dtls : DtlsTransport} {t : SrtpTransport}

/-- What a packet finds at an endpoint is bound to the identity the DTLS transport has there. -/
theorem findReadyPeer_eq (answers : LibSrtpAnswers) (t : SrtpTransport) {found : DtlsPeerIdentity}
    (hfound : dtls.getPeerIdentity remote = some found) :
    ∃ (peer : SrtpPeerState) (result : Except Text (Except Text SrtpPeerState)),
      SrtpTransport.findReadyPeer t dtls answers remote =
        (t.insertOrAssign remote peer, result) ∧ peer.peerIdentityMatches found = true ∧
      ∀ ready, result = .ok (.ok ready) → ready = peer := by
  obtain ⟨association, hassociation, rfl⟩ := Option.map_eq_some_iff.mp hfound
  obtain ⟨peer, ready, hready, heq⟩ := SrtpTransport.findReadyPeer_some t answers hassociation
  have hmatches := ensureSessionsReady_matches answers association.identity
    ((t.find? remote).getD (({} : SrtpPeerState).bindPeerIdentity association.identity))
    association.keyingMaterial
  rw [hready] at hmatches
  refine ⟨peer, _, heq, hmatches, ?_⟩
  intro found hresult
  cases ready with
  | error e => cases hresult
  | ok flag =>
      cases flag with
      | false => cases hresult
      | true =>
          cases hresult
          rfl

/-- The only peer is one of an endpoint, bound to an identity. -/
def SrtpOnly (t : SrtpTransport) (remote : Text) (identity : DtlsPeerIdentity) : Prop :=
  t.Only remote fun peer => peer.peerIdentityMatches identity = true

theorem SrtpOnly.findReadyPeer (h : SrtpOnly t remote identity)
    (hdtls : DtlsOnly dtls remote identity) (answers : LibSrtpAnswers) :
    SrtpOnly (SrtpTransport.findReadyPeer t dtls answers remote).1 remote identity ∧
      ∀ peer, (SrtpTransport.findReadyPeer t dtls answers remote).2 = .ok (.ok peer) →
        peer.peerIdentityMatches identity = true := by
  cases hfound : dtls.getPeerIdentity remote with
  | none =>
      simp only [SrtpTransport.findReadyPeer, hfound]
      cases t.find? remote with
      | none =>
          refine ⟨h, ?_⟩
          intro peer hpeer
          cases hpeer
      | some _ =>
          refine ⟨.of_find?_eq_none (AssocMap.Only.erase h), ?_⟩
          intro peer hpeer
          cases hpeer
  | some found =>
      obtain rfl := hdtls.identity_of_some hfound
      obtain ⟨peer, result, heq, hmatches, hready⟩ := findReadyPeer_eq answers t hfound
      rw [heq]
      refine ⟨AssocMap.Only.insertOrAssign h hmatches, ?_⟩
      intro ready hresult
      rw [hready ready hresult]
      exact hmatches

theorem SrtpOnly.forgetPeer (h : SrtpOnly t remote identity) (hremote : remote ≠ [])
    (key : Text) : (SrtpTransport.forgetPeer t remote).find? key = none := by
  rw [SrtpTransport.forgetPeer, if_neg hremote]
  exact AssocMap.Only.erase h key

theorem SrtpOnly.served (h : SrtpOnly t remote identity) (hdtls : DtlsOnly dtls remote identity)
    {t' : SrtpTransport} (hserved : SrtpTransport.Served t dtls remote t') :
    SrtpOnly t' remote identity := by
  cases hserved with
  | ignored => exact h
  | readied answers => exact (h.findReadyPeer hdtls answers).1
  | counted answers peer inbound outbound hready =>
      obtain ⟨hfound, hmatches⟩ := h.findReadyPeer hdtls answers
      exact AssocMap.Only.insertOrAssign hfound (hmatches peer hready)

theorem MovedSrtp.only {previous next : Text} {nextIdentity : DtlsPeerIdentity}
    {t' : SrtpTransport} {peer : SrtpPeerState}
    (h : MovedSrtp t t' previous next nextIdentity peer) (honly : SrtpOnly t previous identity) :
    SrtpOnly t' next nextIdentity := by
  intro key found hfind
  rw [h.moved] at hfind
  split_ifs at hfind with hnext hprevious
  · cases hfind
    exact ⟨hnext, bindPeerIdentity_matches peer⟩
  · exact absurd (honly key found hfind).1 hprevious

theorem SrtpOnly.congr {t' : SrtpTransport} (h : SrtpOnly t remote identity)
    (heq : ∀ key, t'.find? key = t.find? key) : SrtpOnly t' remote identity := by
  intro key found hfind
  rw [heq] at hfind
  exact h key found hfind

/-- Where the only peer was not moved there is none. -/
theorem SrtpOnly.of_none (h : SrtpOnly t remote identity) (hnone : t.find? remote = none)
    (next : Text) (nextIdentity : DtlsPeerIdentity) : SrtpOnly t next nextIdentity := by
  intro key found hfind
  obtain ⟨rfl, -⟩ := h key found hfind
  rw [hnone] at hfind
  cases hfind

end SrtpPeers

/-! ## The session -/

/-- No peer before an endpoint is nominated, and then only peers of it under one identity. -/
inductive OnlySelected (environment : Environment) (s : SessionTransport) : Prop
  | unselected : s.selectedRemoteEndpoint = none →
      (∀ key, s.dtlsTransport.peersByEndpoint.find? key = none) →
      (∀ key, s.srtpTransport.find? key = none) → OnlySelected environment s
  | selected (endpoint : UdpEndpoint) (identity : DtlsPeerIdentity) :
      s.selectedRemoteEndpoint = some endpoint → s.dtlsIdentity = some identity →
      DtlsOnly s.dtlsTransport (formatUdpEndpoint environment endpoint) identity →
      SrtpOnly s.srtpTransport (formatUdpEndpoint environment endpoint) identity →
      OnlySelected environment s

namespace OnlySelected
variable {environment : Environment} {s : SessionTransport}

/-- Statistics and times do not matter. -/
theorem congr {s' : SessionTransport} (h : OnlySelected environment s)
    (hselected : s'.selectedRemoteEndpoint = s.selectedRemoteEndpoint)
    (hidentity : s'.dtlsIdentity = s.dtlsIdentity) (hdtls : s'.dtlsTransport = s.dtlsTransport)
    (hsrtp : s'.srtpTransport = s.srtpTransport) : OnlySelected environment s' := by
  cases h with
  | unselected hnone hdtls' hsrtp' =>
      apply OnlySelected.unselected
      · rw [hselected, hnone]
      · rw [hdtls]
        exact hdtls'
      · rw [hsrtp]
        exact hsrtp'
  | selected endpoint identity hendpoint hsame hdtls' hsrtp' =>
      apply OnlySelected.selected endpoint identity
      · rw [hselected, hendpoint]
      · rw [hidentity, hsame]
      · rw [hdtls]
        exact hdtls'
      · rw [hsrtp]
        exact hsrtp'

/-- What is known once an endpoint is selected. -/
theorem of_selected (h : OnlySelected environment s) {endpoint : UdpEndpoint}
    (hendpoint : s.selectedRemoteEndpoint = some endpoint) :
    ∃ identity, s.dtlsIdentity = some identity ∧
      DtlsOnly s.dtlsTransport (formatUdpEndpoint environment endpoint) identity ∧
      SrtpOnly s.srtpTransport (formatUdpEndpoint environment endpoint) identity := by
  cases h with
  | unselected hnone hdtls hsrtp =>
      rw [hnone] at hendpoint
      cases hendpoint
  | selected endpoint' identity hendpoint' hidentity hdtls hsrtp =>
      obtain rfl := Option.some.inj (hendpoint.symm.trans hendpoint')
      exact ⟨identity, hidentity, hdtls, hsrtp⟩

/-- Every peer is one of the selected endpoint. -/
theorem key_selected (h : OnlySelected environment s) {key : Text}
    (hkey : s.dtlsTransport.peersByEndpoint.find? key ≠ none ∨
      s.srtpTransport.find? key ≠ none) :
    ∃ endpoint, s.selectedRemoteEndpoint = some endpoint ∧
      key = formatUdpEndpoint environment endpoint := by
  cases h with
  | unselected hnone hdtls hsrtp =>
      cases hkey with
      | inl hkey => exact absurd (hdtls key) hkey
      | inr hkey => exact absurd (hsrtp key) hkey
  | selected endpoint identity hendpoint hidentity hdtls hsrtp =>
      refine ⟨endpoint, hendpoint, ?_⟩
      cases hkey with
      | inl hkey =>
          obtain ⟨peer, hpeer⟩ := Option.ne_none_iff_exists'.mp hkey
          exact (hdtls key peer hpeer).1
      | inr hkey =>
          obtain ⟨peer, hpeer⟩ := Option.ne_none_iff_exists'.mp hkey
          exact (hsrtp key peer hpeer).1

theorem clearPeerState (h : OnlySelected environment s) :
    (s.clearPeerState environment).selectedRemoteEndpoint = none ∧
      (∀ key, (s.clearPeerState environment).dtlsTransport.peersByEndpoint.find? key = none) ∧
      ∀ key, (s.clearPeerState environment).srtpTransport.find? key = none := by
  unfold SessionTransport.clearPeerState
  cases h with
  | unselected hnone hdtls hsrtp =>
      rw [hnone]
      exact ⟨hnone, hdtls, hsrtp⟩
  | selected endpoint identity hendpoint hidentity hdtls hsrtp =>
      rw [hendpoint]
      have hremote := formatUdpEndpoint_ne_nil environment endpoint
      exact ⟨rfl, hdtls.forgetPeer hremote, hsrtp.forgetPeer hremote⟩

theorem setPeerContext (h : OnlySelected environment s) (localIcePwd : Text)
    (identity : DtlsPeerIdentity) :
    OnlySelected environment (s.setPeerContext environment localIcePwd identity) := by
  obtain ⟨hnone, hdtls, hsrtp⟩ := h.clearPeerState
  exact .unselected hnone hdtls hsrtp

end OnlySelected

/-! ## Nominations -/

/-- What a nomination can do. -/
inductive Nominated (environment : Environment) (setMtu : Except Text Unit) (s : SessionTransport)
    (remoteEndpoint : UdpEndpoint) (s' : SessionTransport) : Except Text PeerNominationState → Prop
  | refused (e : Text) : s'.selectedRemoteEndpoint = s.selectedRemoteEndpoint →
      s'.dtlsTransport = s.dtlsTransport →
      (∀ key, s'.srtpTransport.find? key = s.srtpTransport.find? key) →
      Nominated environment setMtu s remoteEndpoint s' (.error e)
  | unchanged : s.selectedRemoteEndpoint = some remoteEndpoint → s' = s →
      Nominated environment setMtu s remoteEndpoint s' (.ok .unchanged)
  | fresh : s.selectedRemoteEndpoint = none →
      s' = { s with selectedRemoteEndpoint := some remoteEndpoint } →
      Nominated environment setMtu s remoteEndpoint s' (.ok .selectedFresh)
  | rebound (previous : UdpEndpoint) (identity : DtlsPeerIdentity) (moved : Bool) :
      s.selectedRemoteEndpoint = some previous → s.dtlsIdentity = some identity →
      (rebindSessionTransportPeer environment setMtu s.dtlsTransport s.srtpTransport previous
        remoteEndpoint identity identity).2.2 = .ok moved →
      s'.selectedRemoteEndpoint = some remoteEndpoint →
      Nominated environment setMtu s remoteEndpoint s'
        (.ok (if moved then .associationRebound else .selectedFresh))

/-- A nomination which changes the endpoint is a rebinding. -/
theorem nominateRemoteEndpoint_move {environment : Environment} {s : SessionTransport}
    {setMtu : Except Text Unit} {previous remoteEndpoint : UdpEndpoint}
    {identity : DtlsPeerIdentity} {dtls' : DtlsTransport} {srtp' : SrtpTransport}
    {outcome : Except Text Bool} (hidentity : s.dtlsIdentity = some identity)
    (hselected : s.selectedRemoteEndpoint = some previous) (hne : previous ≠ remoteEndpoint)
    (hrebind : rebindSessionTransportPeer environment setMtu s.dtlsTransport s.srtpTransport
      previous remoteEndpoint identity identity = (dtls', srtp', outcome)) :
    s.nominateRemoteEndpoint environment setMtu remoteEndpoint =
      match outcome with
      | .error e => ({ s with
          dtlsTransport := dtls'
          srtpTransport := srtp' }, .error e)
      | .ok moved => ({ s with
          dtlsTransport := dtls'
          srtpTransport := srtp'
          selectedRemoteEndpoint := some remoteEndpoint },
        .ok (if moved then .associationRebound else .selectedFresh)) := by
  cases outcome with
  | error e => simp [SessionTransport.nominateRemoteEndpoint, hidentity, hselected, hne, hrebind]
  | ok moved => simp [SessionTransport.nominateRemoteEndpoint, hidentity, hselected, hne, hrebind]

theorem nominateRemoteEndpoint_spec {environment : Environment} {s : SessionTransport}
    (h : OnlySelected environment s) (setMtu : Except Text Unit) (remoteEndpoint : UdpEndpoint) :
    ∃ s' outcome,
      s.nominateRemoteEndpoint environment setMtu remoteEndpoint = (s', outcome) ∧
      OnlySelected environment s' ∧
      Nominated environment setMtu s remoteEndpoint s' outcome := by
  cases hidentity : s.dtlsIdentity with
  | none =>
      have heq : s.nominateRemoteEndpoint environment setMtu remoteEndpoint =
          (s, .error s.identityUnavailable) := by
        simp [SessionTransport.nominateRemoteEndpoint, hidentity]
      exact ⟨_, _, heq, h, .refused _ rfl rfl fun _ => rfl⟩
  | some identity =>
      cases hselected : s.selectedRemoteEndpoint with
      | none =>
          have heq : s.nominateRemoteEndpoint environment setMtu remoteEndpoint =
              ({ s with selectedRemoteEndpoint := some remoteEndpoint }, .ok .selectedFresh) := by
            simp [SessionTransport.nominateRemoteEndpoint, hidentity, hselected]
          refine ⟨_, _, heq, ?_, .fresh hselected rfl⟩
          cases h with
          | unselected hnone hdtls hsrtp =>
              exact .selected remoteEndpoint identity rfl hidentity (.of_find?_eq_none hdtls)
                (.of_find?_eq_none hsrtp)
          | selected endpoint identity' hendpoint hidentity' hdtls hsrtp =>
              rw [hselected] at hendpoint
              cases hendpoint
      | some previous =>
          by_cases hsame : previous = remoteEndpoint
          · have heq : s.nominateRemoteEndpoint environment setMtu remoteEndpoint =
                (s, .ok .unchanged) := by
              simp [SessionTransport.nominateRemoteEndpoint, hidentity, hselected, hsame]
            subst hsame
            exact ⟨_, _, heq, h, .unchanged hselected rfl⟩
          · obtain ⟨identity', hidentity', hdtls, hsrtp⟩ := h.of_selected hselected
            obtain rfl := Option.some.inj (hidentity.symm.trans hidentity')
            obtain ⟨dtls', srtp', outcome, hrebind, hrebound⟩ :=
              rebindRemotes_rebound setMtu s.dtlsTransport (networkFamilyOf remoteEndpoint) identity
                (formatUdpEndpoint_ne_nil environment previous)
                (formatUdpEndpoint_ne_nil environment remoteEndpoint)
                (fun peer hpeer => (hsrtp _ peer hpeer).2)
            change rebindSessionTransportPeer environment setMtu s.dtlsTransport s.srtpTransport
              previous remoteEndpoint identity identity = _ at hrebind
            have hmove := nominateRemoteEndpoint_move hidentity hselected hsame hrebind
            have hok : ∀ moved, outcome = .ok moved →
                (rebindSessionTransportPeer environment setMtu s.dtlsTransport s.srtpTransport
                  previous remoteEndpoint identity identity).2.2 = .ok moved := by
              intro moved hmoved
              rw [hrebind, hmoved]
            cases hrebound with
            | refused e hsame' hlookups =>
                subst hsame'
                refine ⟨_, _, hmove, ?_, .refused e rfl rfl hlookups⟩
                exact .selected previous identity hselected hidentity hdtls (hsrtp.congr hlookups)
            | moved peer udpPayloadMtu hmoved hmovedSrtp hnone =>
                refine ⟨_, _, hmove, ?_, .rebound previous identity true hselected hidentity
                  (hok true rfl) rfl⟩
                refine .selected remoteEndpoint identity rfl hidentity ?_ ?_
                · exact hmoved.only hdtls
                · cases hfind : s.srtpTransport.find? (formatUdpEndpoint environment previous) with
                  | none =>
                      rw [hnone hfind]
                      exact hsrtp.of_none hfind _ _
                  | some peer => exact (hmovedSrtp peer hfind).only hsrtp
            | forgotten hdtls' hsrtp' =>
                refine ⟨_, _, hmove, ?_, .rebound previous identity false hselected hidentity
                  (hok false rfl) rfl⟩
                refine .selected remoteEndpoint identity rfl hidentity ?_ ?_
                · exact AssocMap.Only.of_erased hdtls hdtls'
                · exact AssocMap.Only.of_erased hsrtp hsrtp'

/-! ## Packets -/

/-- How an event may leave the selection. -/
inductive Selects (environment : Environment) (s : SessionTransport) :
    Event → Option UdpEndpoint → Prop
  | same (event : Event) : Selects environment s event s.selectedRemoteEndpoint
  | context (localIcePwd : Text) (identity : DtlsPeerIdentity) :
      Selects environment s (.setPeerContext localIcePwd identity) none
  | closed (ready : LibSrtpAnswers) (byes : List (LibSrtpAnswers × List UInt8)) :
      Selects environment s (.close ready byes) none
  | nominated (answers : Answers) (data : List UInt8) (remoteEndpoint : UdpEndpoint) :
      (handleSessionStunBinding environment data remoteEndpoint s.stunContext).response.isSome =
        true →
      (handleSessionStunBinding environment data remoteEndpoint s.stunContext).nominated = true →
      (∀ previous, s.selectedRemoteEndpoint = some previous →
        previous = remoteEndpoint ∨ ∃ identity moved, s.dtlsIdentity = some identity ∧
          (rebindSessionTransportPeer environment answers.setMtu s.dtlsTransport s.srtpTransport
            previous remoteEndpoint identity identity).2.2 = .ok moved) →
      Selects environment s (.udpPacket answers data remoteEndpoint) (some remoteEndpoint)

section Packets
variable {environment : Environment} {s : SessionTransport} {remoteEndpoint : UdpEndpoint}

/-- A STUN packet does nothing to the peers but nominate. -/
theorem handleStunResult_spec (h : OnlySelected environment s) (answers : Answers)
    (remoteEndpoint : UdpEndpoint) (result : SessionStunBindingResult) :
    OnlySelected environment (s.handleStunResult environment answers remoteEndpoint result).1 ∧
      ((s.handleStunResult environment answers remoteEndpoint result).1.selectedRemoteEndpoint =
          s.selectedRemoteEndpoint ∨
        result.response.isSome = true ∧ result.nominated = true ∧
          (s.handleStunResult environment answers remoteEndpoint result).1.selectedRemoteEndpoint =
            some remoteEndpoint ∧
          ∀ previous, s.selectedRemoteEndpoint = some previous →
            previous = remoteEndpoint ∨ ∃ identity moved, s.dtlsIdentity = some identity ∧
              (rebindSessionTransportPeer environment answers.setMtu s.dtlsTransport
                s.srtpTransport previous remoteEndpoint identity identity).2.2 = .ok moved) := by
  unfold SessionTransport.handleStunResult
  cases hresponse : result.response with
  | none => exact ⟨h.congr rfl rfl rfl rfl, .inl rfl⟩
  | some response =>
      cases hnominated : result.nominated with
      | false => exact ⟨h.congr rfl rfl rfl rfl, .inl rfl⟩
      | true =>
          have hcounted : OnlySelected environment
              ((s.countStatistics fun c => { c with stunReceived := c.stunReceived + 1
                }).recordValidInboundActivity answers.now) := h.congr rfl rfl rfl rfl
          obtain ⟨s', outcome, heq, honly, hdone⟩ :=
            nominateRemoteEndpoint_spec hcounted answers.setMtu remoteEndpoint
          simp only [heq, if_true]
          refine ⟨honly, ?_⟩
          cases hdone with
          | refused e hsame hdtls hsrtp => exact .inl hsame
          | unchanged hselected heq' =>
              left
              rw [heq']
              rfl
          | fresh hnone heq' =>
              right
              refine ⟨rfl, trivial, by rw [heq'], ?_⟩
              intro previous hprevious
              rw [show s.selectedRemoteEndpoint = none from hnone] at hprevious
              cases hprevious
          | rebound previous identity moved hprevious hidentity hrebound hselected =>
              right
              refine ⟨rfl, trivial, hselected, ?_⟩
              intro previous' hprevious'
              obtain rfl := Option.some.inj
                ((show s.selectedRemoteEndpoint = some previous from hprevious).symm.trans
                  hprevious')
              exact .inr ⟨identity, moved, hidentity, hrebound⟩

theorem handleDtlsPacket_spec (h : OnlySelected environment s)
    (hselected : s.selectedRemoteEndpoint = some remoteEndpoint) (answers : Answers)
    (data : List UInt8) :
    OnlySelected environment (s.handleDtlsPacket environment answers data remoteEndpoint).1 ∧
      (s.handleDtlsPacket environment answers data remoteEndpoint).1.selectedRemoteEndpoint =
        s.selectedRemoteEndpoint := by
  obtain ⟨identity, hidentity, hdtls, hsrtp⟩ := h.of_selected hselected
  have hhandled := hdtls.rememberPeer.handleUdpPacket answers.openSsl data
    (networkFamilyOf remoteEndpoint)
  unfold SessionTransport.handleDtlsPacket
  simp only [SessionTransport.countStatistics, hidentity]
  generalize ((s.dtlsTransport.rememberPeer (formatUdpEndpoint environment remoteEndpoint)
    identity).handleUdpPacket answers.openSsl data (formatUdpEndpoint environment remoteEndpoint)
      (networkFamilyOf remoteEndpoint)) = handled at hhandled
  obtain ⟨dtls', packets⟩ := handled
  cases packets with
  | error e => exact ⟨.selected remoteEndpoint identity hselected rfl hhandled hsrtp, rfl⟩
  | ok packets => exact ⟨.selected remoteEndpoint identity hselected rfl hhandled hsrtp, rfl⟩

theorem handleSrtpPacket_spec (h : OnlySelected environment s)
    (hselected : s.selectedRemoteEndpoint = some remoteEndpoint) (answers : Answers)
    (data : List UInt8) :
    OnlySelected environment (s.handleSrtpPacket environment answers data remoteEndpoint).1 ∧
      (s.handleSrtpPacket environment answers data remoteEndpoint).1.selectedRemoteEndpoint =
        s.selectedRemoteEndpoint := by
  obtain ⟨identity, hidentity, hdtls, hsrtp⟩ := h.of_selected hselected
  have hhandled := hsrtp.served hdtls (SrtpTransport.handleInboundPacket_served s.srtpTransport
    s.dtlsTransport answers.libSrtp data (formatUdpEndpoint environment remoteEndpoint))
  unfold SessionTransport.handleSrtpPacket
  generalize SrtpTransport.handleInboundPacket s.srtpTransport s.dtlsTransport answers.libSrtp data
    (formatUdpEndpoint environment remoteEndpoint) = handled at hhandled
  obtain ⟨srtp', inbound⟩ := handled
  have honly : OnlySelected environment { s with srtpTransport := srtp' } :=
    .selected remoteEndpoint identity hselected hidentity hdtls hhandled
  cases inbound with
  | error e => exact ⟨honly.congr rfl rfl rfl rfl, rfl⟩
  | ok result =>
      simp only
      split_ifs
      · exact ⟨honly.congr rfl rfl rfl rfl, rfl⟩
      · exact ⟨honly, rfl⟩
      · exact ⟨honly.congr rfl rfl rfl rfl, rfl⟩

/-- A packet from elsewhere which is not a STUN packet is only counted. -/
theorem handleUdpPacket_unselected (answers : Answers) {data : List UInt8}
    (hstun : isStunPacket data = false) (hselected : s.selectedRemoteEndpoint ≠ some remoteEndpoint) :
    ∃ statistics, s.handleUdpPacket environment answers data remoteEndpoint =
      ({ s with statistics }, {}) := by
  unfold SessionTransport.handleUdpPacket
  simp only [handleSessionStunBinding, hstun, if_true, Bool.false_eq_true, if_false]
  split_ifs with hclosed hother
  · exact ⟨_, rfl⟩
  · exact ⟨_, rfl⟩
  · exact absurd hselected hother
  · exact absurd hselected hother

theorem handleUdpPacket_spec (h : OnlySelected environment s) (answers : Answers)
    (data : List UInt8) :
    OnlySelected environment (s.handleUdpPacket environment answers data remoteEndpoint).1 ∧
      Selects environment s (.udpPacket answers data remoteEndpoint)
        (s.handleUdpPacket environment answers data remoteEndpoint).1.selectedRemoteEndpoint := by
  unfold SessionTransport.handleUdpPacket
  generalize hcounted : (s.countStatistics fun c => { c with
    receivedPacketCount := c.receivedPacketCount + 1
    udpReceived := c.udpReceived + 1 }) = counted
  have honly : OnlySelected environment counted := by
    rw [← hcounted]
    exact h.congr rfl rfl rfl rfl
  have hselected : counted.selectedRemoteEndpoint = s.selectedRemoteEndpoint := by
    rw [← hcounted]
    rfl
  simp only
  split_ifs with hhandled hclosed hother hdtls
  · obtain ⟨honly', hselects⟩ := handleStunResult_spec honly answers remoteEndpoint
      (handleSessionStunBinding environment data remoteEndpoint counted.stunContext)
    refine ⟨honly', ?_⟩
    cases hselects with
    | inl hsame =>
        rw [hsame, hselected]
        exact .same _
    | inr hnew =>
        obtain ⟨hresponse, hnominated, hnew, hprevious⟩ := hnew
        rw [hnew]
        subst hcounted
        exact .nominated answers data remoteEndpoint hresponse hnominated hprevious
  · refine ⟨honly, ?_⟩
    rw [hselected]
    exact .same _
  · refine ⟨honly.congr rfl rfl rfl rfl, ?_⟩
    exact hselected ▸ .same _
  · obtain ⟨honly', hsame⟩ := handleDtlsPacket_spec honly (not_not.mp hother) answers data
    refine ⟨honly', ?_⟩
    rw [hsame, hselected]
    exact .same _
  · obtain ⟨honly', hsame⟩ := handleSrtpPacket_spec honly (not_not.mp hother) answers data
    refine ⟨honly', ?_⟩
    rw [hsame, hselected]
    exact .same _

end Packets

/-! ## Runs -/

section Runs
variable {environment : Environment} {s : SessionTransport}

theorem peerReady_spec (h : OnlySelected environment s) (libSrtp : LibSrtpAnswers) :
    OnlySelected environment (s.peerReady environment libSrtp).1 ∧
      (s.peerReady environment libSrtp).1.selectedRemoteEndpoint = s.selectedRemoteEndpoint := by
  unfold SessionTransport.peerReady
  cases hselected : s.selectedRemoteEndpoint with
  | none => exact ⟨h, hselected⟩
  | some endpoint =>
      obtain ⟨identity, hidentity, hdtls, hsrtp⟩ := h.of_selected hselected
      exact ⟨.selected endpoint identity rfl hidentity hdtls (hsrtp.served hdtls (SrtpTransport.peerReady_served ..)), rfl⟩

theorem protectOutbound_spec (h : OnlySelected environment s) (libSrtp : LibSrtpAnswers)
    (kind : SrtpPacketKind) (packet : List UInt8) :
    OnlySelected environment (s.protectOutbound environment libSrtp kind packet).1 ∧
      (s.protectOutbound environment libSrtp kind packet).1.selectedRemoteEndpoint =
        s.selectedRemoteEndpoint := by
  unfold SessionTransport.protectOutbound
  cases hselected : s.selectedRemoteEndpoint with
  | none => exact ⟨h, hselected⟩
  | some endpoint =>
      obtain ⟨identity, hidentity, hdtls, hsrtp⟩ := h.of_selected hselected
      exact ⟨.selected endpoint identity rfl hidentity hdtls
        (hsrtp.served hdtls (SrtpTransport.protectOutboundPacket_served ..)), rfl⟩

theorem sendRtcpBye_spec (h : OnlySelected environment s)
    (byes : List (LibSrtpAnswers × List UInt8)) :
    OnlySelected environment (s.sendRtcpBye environment byes) := by
  unfold SessionTransport.sendRtcpBye
  induction byes generalizing s with
  | nil => exact h
  | cons bye byes ih => exact ih (protectOutbound_spec h bye.1 .rtcp bye.2).1

/-- A session which is closed has no peer, whatever it still sends. -/
theorem close_spec (h : OnlySelected environment s) (ready : LibSrtpAnswers)
    (byes : List (LibSrtpAnswers × List UInt8)) :
    OnlySelected environment (s.close environment ready byes) ∧
      ((s.close environment ready byes).selectedRemoteEndpoint = s.selectedRemoteEndpoint ∨
        (s.close environment ready byes).selectedRemoteEndpoint = none) := by
  have hcleared : ∀ {s : SessionTransport}, OnlySelected environment s →
      OnlySelected environment (s.clearPeerState environment) ∧
        (s.clearPeerState environment).selectedRemoteEndpoint = none := by
    intro s h
    obtain ⟨hnone, hdtls, hsrtp⟩ := h.clearPeerState
    exact ⟨.unselected hnone hdtls hsrtp, hnone⟩
  have hclosed : OnlySelected environment { s with closed := true } := h.congr rfl rfl rfl rfl
  have hready := (peerReady_spec hclosed ready).1
  unfold SessionTransport.close
  split_ifs with hdone
  · exact ⟨h, .inl rfl⟩
  · simp only
    split_ifs
    · obtain ⟨honly, hnone⟩ := hcleared (sendRtcpBye_spec hready byes)
      exact ⟨honly, .inr hnone⟩
    · obtain ⟨honly, hnone⟩ := hcleared hready
      exact ⟨honly, .inr hnone⟩

theorem perform_spec (h : OnlySelected environment s) (event : Event) :
    OnlySelected environment (s.perform environment event) ∧
      Selects environment s event (s.perform environment event).selectedRemoteEndpoint := by
  cases event with
  | setPeerContext localIcePwd identity =>
      have honly := h.setPeerContext localIcePwd identity
      have hnone : (s.setPeerContext environment localIcePwd identity).selectedRemoteEndpoint =
          none := h.clearPeerState.1
      refine ⟨honly, ?_⟩
      rw [SessionTransport.perform, hnone]
      exact .context localIcePwd identity
  | udpPacket answers data remoteEndpoint => exact handleUdpPacket_spec h answers data
  | peerReady libSrtp =>
      obtain ⟨honly, hsame⟩ := peerReady_spec h libSrtp
      refine ⟨honly, ?_⟩
      rw [SessionTransport.perform, hsame]
      exact .same _
  | protectOutbound libSrtp kind packet =>
      obtain ⟨honly, hsame⟩ := protectOutbound_spec h libSrtp kind packet
      refine ⟨honly, ?_⟩
      rw [SessionTransport.perform, hsame]
      exact .same _
  | close ready byes =>
      obtain ⟨honly, hselected⟩ := close_spec h ready byes
      refine ⟨honly, ?_⟩
      rw [SessionTransport.perform]
      cases hselected with
      | inl hsame =>
          rw [hsame]
          exact .same _
      | inr hnone =>
          rw [hnone]
          exact .closed ready byes

theorem run_onlySelected {events : List Event}
    (h : (SessionTransport.system environment).Run events s) : OnlySelected environment s := by
  refine h.invariant ?_ ?_
  · intro s hs
    obtain ⟨kind, ipMtu, rfl⟩ := hs
    exact .unselected rfl (fun _ => rfl) fun _ => rfl
  · intro s event s' hs hstep
    obtain rfl := Option.some.inj hstep
    exact (perform_spec hs event).1

/-- Only the nominated endpoint has peers, only a nomination selects an endpoint, a refused one
changes no peer, and what comes from elsewhere is only counted. -/
theorem run_nominated_only (environment : Environment) (events : List Event) (s : SessionTransport)
    (h : (SessionTransport.system environment).Run events s) :
    (∀ key, s.dtlsTransport.peersByEndpoint.find? key ≠ none ∨ s.srtpTransport.find? key ≠ none →
      ∃ endpoint, s.selectedRemoteEndpoint = some endpoint ∧
        key = formatUdpEndpoint environment endpoint) ∧
    (∀ event, Selects environment s event (s.perform environment event).selectedRemoteEndpoint) ∧
    (∀ setMtu remoteEndpoint s' e,
      s.nominateRemoteEndpoint environment setMtu remoteEndpoint = (s', .error e) →
      s'.selectedRemoteEndpoint = s.selectedRemoteEndpoint ∧ s'.dtlsTransport = s.dtlsTransport ∧
        ∀ key, s'.srtpTransport.find? key = s.srtpTransport.find? key) ∧
    (∀ answers data remoteEndpoint, isStunPacket data = false →
      s.selectedRemoteEndpoint ≠ some remoteEndpoint →
      ∃ statistics, s.handleUdpPacket environment answers data remoteEndpoint =
        ({ s with statistics }, {})) := by
  have honly := run_onlySelected h
  refine ⟨?_, ?_, ?_, ?_⟩
  · intro key hkey
    exact honly.key_selected hkey
  · intro event
    exact (perform_spec honly event).2
  · intro setMtu remoteEndpoint s' e heq
    obtain ⟨s'', outcome, heq', -, hnominated⟩ :=
      nominateRemoteEndpoint_spec honly setMtu remoteEndpoint
    obtain ⟨rfl, rfl⟩ := Prod.mk.inj (heq'.symm.trans heq)
    cases hnominated with
    | refused e hselected hdtls hsrtp => exact ⟨hselected, hdtls, hsrtp⟩
  · intro answers data remoteEndpoint hstun hselected
    exact handleUdpPacket_unselected answers hstun hselected

end Runs

/-! ## A session which is nominated -/

def silentOpenSsl : OpenSslAnswers where
  makeSsl := .ok ()
  writeDatagram := .ok ()
  handshake := .ok []
  initFinished := false
  remoteCertificate := .ok ()
  exportKeys := .ok ⟨[1]⟩
  consumeRecords := .ok []

def silentAnswers : Answers where
  now := 0
  setMtu := .ok ()
  openSsl := silentOpenSsl
  libSrtp := readyLibSrtp

def newSession : SessionTransport where
  kind := .whip
  dtlsTransport := makeDtlsTransport 1200

def nomination : Event := .udpPacket silentAnswers nominatingPacket keyedEndpoint

def contextSession : SessionTransport :=
  newSession.perform loopbackEnvironment (.setPeerContext (ascii "p") keyedIdentity)

def nominatedSession : SessionTransport := contextSession.perform loopbackEnvironment nomination

theorem nominatedSession_run : (SessionTransport.system loopbackEnvironment).Run
    [.setPeerContext (ascii "p") keyedIdentity, nomination] nominatedSession := by
  have hstart : (SessionTransport.system loopbackEnvironment).Run [] newSession :=
    .start ⟨.whip, 1200, rfl⟩
  have hcontext : (SessionTransport.system loopbackEnvironment).Run
      [.setPeerContext (ascii "p") keyedIdentity] contextSession := hstart.step rfl
  exact hcontext.step rfl

theorem run_nominated_only_nominated :
    nominatedSession.selectedRemoteEndpoint = some keyedEndpoint ∧
    (∀ key, nominatedSession.dtlsTransport.peersByEndpoint.find? key ≠ none ∨
        nominatedSession.srtpTransport.find? key ≠ none →
      ∃ endpoint, nominatedSession.selectedRemoteEndpoint = some endpoint ∧
        key = formatUdpEndpoint loopbackEnvironment endpoint) ∧
    ∀ event, Selects loopbackEnvironment nominatedSession event
      (nominatedSession.perform loopbackEnvironment event).selectedRemoteEndpoint := by
  obtain ⟨hkeys, hselects, -⟩ := run_nominated_only loopbackEnvironment _ _ nominatedSession_run
  refine ⟨?_, hkeys, hselects⟩
  decide +kernel

end SimpleWebrtc.SessionPeer
