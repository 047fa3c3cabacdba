import SimpleWebrtc.SessionPeer

/-!
# Rebinding a peer in both transports

The SRTP peer is moved first. Where the DTLS transport then refuses, it is moved
back; nothing stands in the way of that, since the move itself has just emptied
the place, and the peer is the same again as long as it was bound to the identity
it is given back.
-/
namespace SimpleWebrtc.SessionPeer
open Library Library.Text Stun Dtls Srtp

/-! ## Endpoints and their texts -/

/-- Every address is printed, and no two alike. -/
structure PrintsAddresses (environment : Environment) : Prop where
  printed : ∀ address, ∃ text, environment.inetNtop address = some text ∧ text ≠ []
  distinct : ∀ address address', environment.inetNtop address = environment.inetNtop address' →
    address = address'

theorem formatUdpEndpoint_ne_nil (environment : Environment) (endpoint : UdpEndpoint) :
    formatUdpEndpoint environment endpoint ≠ [] := by
  unfold formatUdpEndpoint
  simp only
  split_ifs with hip
  · decide
  · simp [hip]

/-- The digits at the end of a text are told from what stands before the last colon. -/
theorem colon_decimal_injective {text text' : Text} {n n' : ℕ}
    (h : text ++ ascii ":" ++ decimal n = text' ++ ascii ":" ++ decimal n') :
    text = text' ∧ n = n' := by
  have hsplit : ∀ (text : Text) (n : ℕ),
      (text ++ ascii ":" ++ decimal n).reverse =
        (decimal n).reverse ++ (58 :: text.reverse) := by
    intro text n
    simp [ascii]
  have htake : ∀ (text : Text) (n : ℕ),
      ((text ++ ascii ":" ++ decimal n).reverse.takeWhile isDigit = (decimal n).reverse) ∧
        (text ++ ascii ":" ++ decimal n).reverse.dropWhile isDigit = 58 :: text.reverse := by
    intro text n
    rw [hsplit]
    apply takeWhile_digits
    · intro c hc
      exact isDigit_decimal n c (List.mem_reverse.mp hc)
    · intro c hc
      cases hc
      rfl
  constructor
  · have hdrop := (htake text n).2.symm.trans ((congrArg (fun t => t.reverse.dropWhile isDigit)
      h).trans (htake text' n').2)
    exact List.reverse_injective (List.cons.inj hdrop).2
  · have hdigits := (htake text n).1.symm.trans ((congrArg (fun t => t.reverse.takeWhile isDigit)
      h).trans (htake text' n').1)
    exact decimal_injective (List.reverse_injective hdigits)

theorem formatUdpEndpoint_injective {environment : Environment} (h : PrintsAddresses environment)
    {endpoint endpoint' : UdpEndpoint}
    (heq : formatUdpEndpoint environment endpoint = formatUdpEndpoint environment endpoint') :
    endpoint = endpoint' := by
  obtain ⟨address, port⟩ := endpoint
  obtain ⟨address', port'⟩ := endpoint'
  obtain ⟨text, htext, hne⟩ := h.printed address
  obtain ⟨text', htext', hne'⟩ := h.printed address'
  simp only [formatUdpEndpoint, getEndpointIp, htext, htext', Option.getD_some, hne, hne',
    if_false] at heq
  obtain ⟨rfl, hport⟩ := colon_decimal_injective heq
  have haddress := h.distinct address address' (htext.trans htext'.symm)
  rw [haddress, UInt16.toNat_inj.mp hport]

/-! ## The SRTP peer -/

section Srtp
variable {identity : DtlsPeerIdentity} {previous next : Text} {t t' : SrtpTransport}

/-- A peer under one endpoint now stands under another, bound to an identity. -/
structure MovedSrtp (t t' : SrtpTransport) (previous next : Text) (identity : DtlsPeerIdentity)
    (peer : SrtpPeerState) : Prop where
  found : t.find? previous = some peer
  sameSession : peer.sessionId = identity.sessionId ∧ peer.streamId = identity.streamId
  free : previous = next ∨ t.find? next = none
  moved : ∀ key, t'.find? key =
    if key = next then some (peer.bindPeerIdentity identity)
    else if key = previous then none else t.find? key

theorem srtp_rebindPeer_some (h : SrtpTransport.rebindPeer t previous next identity = .ok (some t')) :
    ∃ peer, MovedSrtp t t' previous next identity peer := by
  unfold SrtpTransport.rebindPeer at h
  obtain ⟨_, -, h⟩ := bind_ok.mp h
  cases hfind : t.find? previous with
  | none =>
      rw [hfind] at h
      cases h
  | some peer =>
      rw [hfind] at h
      obtain ⟨_, hsession, h⟩ := bind_ok.mp h
      obtain ⟨_, hfree, h⟩ := bind_ok.mp h
      cases h
      exact ⟨peer, hfind, ensure_ok.mp hsession, ensure_ok.mp hfree,
        AssocMap.find?_insertOrAssign_rekey t previous next _⟩

theorem srtp_rebindPeer_none (h : SrtpTransport.rebindPeer t previous next identity = .ok none) :
    t.find? previous = none := by
  unfold SrtpTransport.rebindPeer at h
  obtain ⟨_, -, h⟩ := bind_ok.mp h
  cases hfind : t.find? previous with
  | none => rfl
  | some peer =>
      rw [hfind] at h
      obtain ⟨_, -, h⟩ := bind_ok.mp h
      obtain ⟨_, -, h⟩ := bind_ok.mp h
      cases h

/-- A peer of the session can be moved wherever there is none. -/
theorem srtp_rebindPeer_ok {peer : SrtpPeerState} (hprevious : previous ≠ []) (hnext : next ≠ [])
    (hfind : t.find? previous = some peer)
    (hsession : peer.sessionId = identity.sessionId ∧ peer.streamId = identity.streamId)
    (hfree : previous = next ∨ t.find? next = none) :
    ∃ t', SrtpTransport.rebindPeer t previous next identity = .ok (some t') := by
  refine ⟨(t.insertOrAssign previous (peer.bindPeerIdentity identity)).rekey previous next, ?_⟩
  simp only [SrtpTransport.rebindPeer, ensure, hprevious, hnext, hfind, hsession, hfree, bind,
    Except.bind, pure, Except.pure, ne_eq, not_false_eq_true, and_self, if_true]

/-- What was moved is moved back under the previous identity where that is one of the same session,
and is given up otherwise. -/
theorem rollBack_cases {moved : SrtpTransport} {peer : SrtpPeerState}
    (previousIdentity : DtlsPeerIdentity) (hprevious : previous ≠ []) (hnext : next ≠ [])
    (h : MovedSrtp t moved previous next identity peer) :
    ((peer.sessionId = previousIdentity.sessionId ∧ peer.streamId = previousIdentity.streamId) ∧
      ∀ key, (rollBack t moved previous next previousIdentity (some moved)).find? key =
        if key = previous then some (peer.bindPeerIdentity previousIdentity) else t.find? key) ∨
    ¬(peer.sessionId = previousIdentity.sessionId ∧ peer.streamId = previousIdentity.streamId) ∧
      ∀ key, (rollBack t moved previous next previousIdentity (some moved)).find? key =
        if key = previous then none else t.find? key := by
  have hthere : moved.find? next = some (peer.bindPeerIdentity identity) := by
    rw [h.moved, if_pos rfl]
  have hempty : ∀ key, key = next → key ≠ previous → t.find? key = none := by
    intro key hkey hne
    cases h.free with
    | inl heq => exact absurd (hkey.trans heq.symm) hne
    | inr hnone => rw [hkey, hnone]
  by_cases hsame : peer.sessionId = previousIdentity.sessionId ∧
      peer.streamId = previousIdentity.streamId
  · refine .inl ⟨hsame, ?_⟩
    have hsession : (peer.bindPeerIdentity identity).sessionId = previousIdentity.sessionId ∧
        (peer.bindPeerIdentity identity).streamId = previousIdentity.streamId :=
      ⟨h.sameSession.1.symm.trans hsame.1, h.sameSession.2.symm.trans hsame.2⟩
    have hfree : next = previous ∨ moved.find? previous = none := by
      by_cases heq : next = previous
      · exact .inl heq
      · right
        rw [h.moved, if_neg (Ne.symm heq), if_pos rfl]
    obtain ⟨back, hback⟩ := srtp_rebindPeer_ok hnext hprevious hthere hsession hfree
    obtain ⟨peer', hagain⟩ := srtp_rebindPeer_some hback
    obtain rfl : peer.bindPeerIdentity identity = peer' :=
      Option.some.inj (hthere.symm.trans hagain.found)
    intro key
    simp only [rollBack, hback]
    rw [hagain.moved, h.moved]
    split_ifs with hkey hkey'
    · rfl
    · exact (hempty key hkey' hkey).symm
    · rfl
  · refine .inr ⟨hsame, ?_⟩
    intro key
    cases hback : SrtpTransport.rebindPeer moved next previous previousIdentity with
    | error e =>
        simp only [rollBack, hback, SrtpTransport.forgetPeer, if_neg hnext, if_neg hprevious,
          AssocMap.find?_erase, h.moved]
        split_ifs with hkey hkey'
        · rfl
        · exact (hempty key hkey' hkey).symm
        · rfl
    | ok outcome =>
        cases outcome with
        | none =>
            rw [srtp_rebindPeer_none hback] at hthere
            cases hthere
        | some back =>
            obtain ⟨peer', hagain⟩ := srtp_rebindPeer_some hback
            obtain rfl : peer.bindPeerIdentity identity = peer' :=
              Option.some.inj (hthere.symm.trans hagain.found)
            exact absurd ⟨h.sameSession.1.trans hagain.sameSession.1,
              h.sameSession.2.trans hagain.sameSession.2⟩ hsame

/-- Moving back what was moved gives the same peers again. -/
theorem rollBack_find? {previousIdentity : DtlsPeerIdentity} (hprevious : previous ≠ [])
    (hnext : next ≠ []) {srtpRebind : Option SrtpTransport}
    (h : SrtpTransport.rebindPeer t previous next identity = .ok srtpRebind)
    (hbound : ∀ peer, t.find? previous = some peer →
      peer.peerIdentityMatches previousIdentity = true) (key : Text) :
    (rollBack t (srtpRebind.getD t) previous next previousIdentity srtpRebind).find? key =
      t.find? key := by
  cases srtpRebind with
  | none => rfl
  | some moved =>
      obtain ⟨peer, hmoved⟩ := srtp_rebindPeer_some h
      have hmatches := hbound peer hmoved.found
      rw [Option.getD_some]
      obtain ⟨-, hback⟩ | ⟨hother, -⟩ := rollBack_cases previousIdentity hprevious hnext hmoved
      · rw [hback, bindPeerIdentity_of_matches hmatches]
        split_ifs with hkey
        · rw [hkey, hmoved.found]
        · rfl
      · simp only [SrtpPeerState.peerIdentityMatches, Bool.and_eq_true, decide_eq_true_eq]
          at hmatches
        exact absurd hmatches.1.1 hother

end Srtp

/-! ## The DTLS peer -/

section Dtls
variable {identity : DtlsPeerIdentity} {setMtu : Except Text Unit} {previous next : Text}
  {family : DtlsNetworkFamily} {t t' : DtlsTransport}

/-- An association under one endpoint now stands under another with an identity. -/
structure MovedDtls (t t' : DtlsTransport) (previous next : Text) (identity : DtlsPeerIdentity)
    (family : DtlsNetworkFamily) (peer : DtlsPeerState) (udpPayloadMtu : UInt16) : Prop where
  found : t.peersByEndpoint.find? previous = some peer
  sameAssociation : sameDtlsAssociation peer.identity identity = true
  keyed : peer.ssl = true ∧ peer.keyingMaterial ≠ none
  free : previous = next ∨ t.peersByEndpoint.find? next = none
  moved : ∀ key, t'.peersByEndpoint.find? key =
    if key = next then some { peer with identity, networkFamily := family, udpPayloadMtu }
    else if key = previous then none else t.peersByEndpoint.find? key
  sameMtu : t'.ipMtu = t.ipMtu

theorem dtls_rebindPeer_some (h : t.rebindPeer setMtu previous next identity family = .ok (some t')) :
    ∃ peer udpPayloadMtu, MovedDtls t t' previous next identity family peer udpPayloadMtu := by
  unfold DtlsTransport.rebindPeer at h
  obtain ⟨_, -, h⟩ := bind_ok.mp h
  obtain ⟨_, -, h⟩ := bind_ok.mp h
  obtain ⟨udpPayloadMtu, -, h⟩ := bind_ok.mp h
  cases hfind : t.peersByEndpoint.find? previous with
  | none =>
      rw [hfind] at h
      cases h
  | some peer =>
      rw [hfind] at h
      obtain ⟨_, hassociation, h⟩ := bind_ok.mp h
      split_ifs at h with hkeyed
      · cases h
      · obtain ⟨_, hfree, h⟩ := bind_ok.mp h
        obtain ⟨_, -, h⟩ := bind_ok.mp h
        cases h
        refine ⟨peer, udpPayloadMtu, hfind, ensure_ok.mp hassociation, ?_, ensure_ok.mp hfree,
          AssocMap.find?_insertOrAssign_rekey t.peersByEndpoint previous next _, rfl⟩
        simpa using hkeyed

end Dtls

/-! ## Both -/

/-- What a rebinding did to the peers of both transports. -/
inductive Rebound (dtls : DtlsTransport) (srtp : SrtpTransport) (dtls' : DtlsTransport)
    (srtp' : SrtpTransport) (previous next : Text) (family : DtlsNetworkFamily)
    (identity : DtlsPeerIdentity) : Except Text Bool → Prop
  | refused (e : Text) : dtls' = dtls → (∀ key, srtp'.find? key = srtp.find? key) →
      Rebound dtls srtp dtls' srtp' previous next family identity (.error e)
  | moved (peer : DtlsPeerState) (udpPayloadMtu : UInt16) :
      MovedDtls dtls dtls' previous next identity family peer udpPayloadMtu →
      (∀ peer, srtp.find? previous = some peer →
        MovedSrtp srtp srtp' previous next identity peer) →
      (srtp.find? previous = none → srtp' = srtp) →
      Rebound dtls srtp dtls' srtp' previous next family identity (.ok true)
  | forgotten :
      (∀ key, dtls'.peersByEndpoint.find? key =
        if key = previous then none else dtls.peersByEndpoint.find? key) →
      (∀ key, srtp'.find? key = if key = previous then none else srtp.find? key) →
      Rebound dtls srtp dtls' srtp' previous next family identity (.ok false)

theorem rebindRemotes_rebound (setMtu : Except Text Unit) (dtls : DtlsTransport)
    {srtp : SrtpTransport} {previous next : Text} (family : DtlsNetworkFamily)
    {previousIdentity : DtlsPeerIdentity} (nextIdentity : DtlsPeerIdentity)
    (hprevious : previous ≠ []) (hnext : next ≠ [])
    (hbound : ∀ peer, srtp.find? previous = some peer →
      peer.peerIdentityMatches previousIdentity = true) :
    ∃ dtls' srtp' outcome,
      rebindRemotes setMtu dtls srtp previous next family previousIdentity nextIdentity =
        (dtls', srtp', outcome) ∧
      Rebound dtls srtp dtls' srtp' previous next family nextIdentity outcome := by
  unfold rebindRemotes
  cases hsrtp : SrtpTransport.rebindPeer srtp previous next nextIdentity with
  | error e => exact ⟨dtls, srtp, .error e, rfl, .refused e rfl fun _ => rfl⟩
  | ok srtpRebind =>
      have hback := rollBack_find? hprevious hnext hsrtp hbound
      cases hdtls : dtls.rebindPeer setMtu previous next nextIdentity family with
      | error e => exact ⟨_, _, _, rfl, .refused e rfl hback⟩
      | ok dtlsRebind =>
          cases dtlsRebind with
          | none =>
              refine ⟨_, _, _, rfl, .forgotten ?_ ?_⟩
              · intro key
                rw [DtlsTransport.forgetPeer, if_neg hprevious]
                exact AssocMap.find?_erase _ _ _
              · intro key
                rw [SrtpTransport.forgetPeer, if_neg hprevious, AssocMap.find?_erase, hback]
          | some dtls' =>
              obtain ⟨peer, udpPayloadMtu, hmoved⟩ := dtls_rebindPeer_some hdtls
              refine ⟨_, _, _, rfl, .moved peer udpPayloadMtu hmoved ?_ ?_⟩
              · intro peer hpeer
                cases srtpRebind with
                | none =>
                    rw [srtp_rebindPeer_none hsrtp] at hpeer
                    cases hpeer
                | some srtp' =>
                    obtain ⟨peer', hmoved'⟩ := srtp_rebindPeer_some hsrtp
                    obtain rfl := Option.some.inj (hpeer.symm.trans hmoved'.found)
                    exact hmoved'
              · intro hnone
                cases srtpRebind with
                | none => rfl
                | some srtp' =>
                    obtain ⟨peer', hmoved'⟩ := srtp_rebindPeer_some hsrtp
                    rw [hmoved'.found] at hnone
                    cases hnone

/-- With different texts nothing stays where the peer was. -/
theorem Rebound.left_behind {dtls dtls' : DtlsTransport} {srtp srtp' : SrtpTransport}
    {previous next : Text} {family : DtlsNetworkFamily} {identity : DtlsPeerIdentity}
    (h : Rebound dtls srtp dtls' srtp' previous next family identity (.ok true))
    (hne : previous ≠ next) :
    dtls'.peersByEndpoint.find? previous = none ∧ srtp'.find? previous = none := by
  cases h with
  | moved peer udpPayloadMtu hdtls hsrtp hnone =>
      constructor
      · rw [hdtls.moved, if_neg hne, if_pos rfl]
      · cases hfind : srtp.find? previous with
        | none =>
            rw [hnone hfind]
            exact hfind
        | some peer => rw [(hsrtp peer hfind).moved, if_neg hne, if_pos rfl]

/-- A rebinding moves the peers of both transports, gives both up, or leaves both alone. -/
theorem rebindSessionTransportPeer_atomic (environment : Environment) (setMtu : Except Text Unit)
    (dtls : DtlsTransport) (srtp : SrtpTransport) (previousEndpoint nextEndpoint : UdpEndpoint)
    (previousIdentity nextIdentity : DtlsPeerIdentity)
    (hbound : ∀ peer, srtp.find? (formatUdpEndpoint environment previousEndpoint) = some peer →
      peer.peerIdentityMatches previousIdentity = true) :
    ∃ dtls' srtp' outcome,
      rebindSessionTransportPeer environment setMtu dtls srtp previousEndpoint nextEndpoint
        previousIdentity nextIdentity = (dtls', srtp', outcome) ∧
      Rebound dtls srtp dtls' srtp' (formatUdpEndpoint environment previousEndpoint)
        (formatUdpEndpoint environment nextEndpoint) (networkFamilyOf nextEndpoint) nextIdentity
        outcome ∧
      (outcome = .ok true → PrintsAddresses environment → previousEndpoint ≠ nextEndpoint →
        dtls'.peersByEndpoint.find? (formatUdpEndpoint environment previousEndpoint) = none ∧
          srtp'.find? (formatUdpEndpoint environment previousEndpoint) = none) := by
  obtain ⟨dtls', srtp', outcome, heq, hrebound⟩ :=
    rebindRemotes_rebound setMtu dtls (networkFamilyOf nextEndpoint) nextIdentity
      (formatUdpEndpoint_ne_nil environment previousEndpoint)
      (formatUdpEndpoint_ne_nil environment nextEndpoint) hbound
  refine ⟨dtls', srtp', outcome, heq, hrebound, ?_⟩
  intro houtcome hprints hne
  rw [houtcome] at hrebound
  apply hrebound.left_behind
  intro htexts
  exact hne (formatUdpEndpoint_injective hprints htexts)

/-! ## A keyed peer which changes its port -/

def readyLibSrtp : LibSrtpAnswers where
  makeInbound := .ok ()
  makeOutbound := .ok ()
  crypt _ := .ok []

def keyedIdentity : DtlsPeerIdentity where
  role := .publisher
  sessionId := ascii "session"
  streamId := ascii "live"
  localIceUfrag := ascii "a"
  remoteIceUfrag := ascii "b"
  remoteFingerprint := {
    algorithm := ascii "sha-256"
    value := ascii "00:11" }

def restartedIdentity : DtlsPeerIdentity := { keyedIdentity with remoteIceUfrag := ascii "c" }

def keyedEndpoint : UdpEndpoint := ⟨loopback, 3478⟩

def keyedRemote : Text := formatUdpEndpoint loopbackEnvironment keyedEndpoint

def keyedDtls : DtlsTransport where
  peersByEndpoint := AssocMap.empty.insertOrAssign keyedRemote {
    identity := keyedIdentity
    ssl := true
    keyingMaterial := some ⟨[1]⟩ }

def keyedPeer : SrtpPeerState :=
  { ({} : SrtpPeerState).bindPeerIdentity keyedIdentity with
    inboundSession := some ⟨[1]⟩
    outboundSession := some ⟨[1]⟩ }

def keyedSrtp : SrtpTransport := AssocMap.empty.insertOrAssign keyedRemote keyedPeer

theorem keyedPeer_bound (peer : SrtpPeerState) (h : keyedSrtp.find? keyedRemote = some peer) :
    peer.peerIdentityMatches keyedIdentity = true := by
  have hpeer : keyedSrtp.find? keyedRemote = some keyedPeer := AssocMap.find?_insertOrAssign_self ..
  rw [← Option.some.inj (hpeer.symm.trans h)]
  decide +kernel

theorem rebindSessionTransportPeer_atomic_keyed : ∃ dtls' srtp',
    rebindSessionTransportPeer loopbackEnvironment (.ok ()) keyedDtls keyedSrtp keyedEndpoint
      ⟨loopback, 3479⟩ keyedIdentity restartedIdentity = (dtls', srtp', .ok true) ∧
    Rebound keyedDtls keyedSrtp dtls' srtp' keyedRemote
      (formatUdpEndpoint loopbackEnvironment ⟨loopback, 3479⟩) .ipv4 restartedIdentity
      (.ok true) := by
  obtain ⟨dtls', srtp', outcome, heq, hrebound, -⟩ :=
    rebindSessionTransportPeer_atomic loopbackEnvironment (.ok ()) keyedDtls keyedSrtp keyedEndpoint
      ⟨loopback, 3479⟩ keyedIdentity restartedIdentity keyedPeer_bound
  have hmoved : (rebindSessionTransportPeer loopbackEnvironment (.ok ()) keyedDtls keyedSrtp
      keyedEndpoint ⟨loopback, 3479⟩ keyedIdentity restartedIdentity).2.2.toOption = some true := by
    decide +kernel
  rw [heq] at hmoved
  cases outcome with
  | error e => cases hmoved
  | ok moved =>
      obtain rfl := Option.some.inj hmoved
      exact ⟨dtls', srtp', heq, hrebound⟩

end SimpleWebrtc.SessionPeer
