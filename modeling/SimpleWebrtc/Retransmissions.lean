import SimpleWebrtc.ConfiguredRetransmission
import SimpleWebrtc.NackRequests
import SimpleWebrtc.OutboundTraces

/-!
# Packets which are sent again

Whatever a subscriber asks for, a packet that is sent again is one of the
publisher's which the subscriber was sent shortly before, and the same one is
not sent again within twenty milliseconds.
-/
namespace SimpleWebrtc.WhepOutbound
open Library RtpPacket RtpRewriter RtpRetransmissionCache RtcpCompoundPacket
  MediaFanout WhepSession WhepMedia

/-! ## Headers -/

/-- A rewritten packet is read with the SSRC and the number it was sent under. -/
theorem rewrite_header {s : Impl} {packet : List UInt8} {given : UInt16}
    {rewritten : RewriteResult} (h : (s.rewrite packet given).2 = .ok rewritten)
    (hstate : rewritten.state = .rewritten) {out : ParsedRtpPacket}
    (hout : parseRewriteableRtpPacket rewritten.packet = .ok out) :
    out.header.ssrc = rewritten.targetSsrc ∧
      out.header.sequenceNumber = rewritten.targetSequenceNumber ∧
      out.header.timestamp = rewritten.targetTimestamp := by
  rcases s.rewrite_cases packet given with ⟨-, hnone⟩ |
    ⟨parsed, resolved, bound, hparse, -, hbind, heq⟩
  · rw [h] at hnone
    have hdropped : rewritten.state = .dropped := hnone
    rw [hstate] at hdropped
    cases hdropped
  · rw [heq] at h
    obtain ⟨-, -, hemit⟩ := rewriteBound_emits hbind h hstate
    obtain ⟨block, targetTimestamp, -, rfl⟩ := emit_result hemit
    obtain ⟨head, sourceBlock, tail, sources, paddingSize, rfl, hwf, rfl⟩ :=
      assembled_of_parse hparse
    have h12 : 12 ≤ head.length := hwf.headLength ▸ baseHeaderSize_ge head
    have hwords := rewrittenHead_words block resolved.payloadType.targetPayloadType
      (bound.current.sequenceNumber resolved.payloadType.rtx) targetTimestamp
      (targetSsrcOf bound.current.mapping resolved.payloadType.rtx) h12
    have hheader := ConfiguredRewriter.parsed_header hout
    simp only [rewrittenResult] at hheader ⊢
    rw [assemblePacket_eq h12, List.append_assoc, readHeader_append _ (by simpa using h12)]
      at hheader
    rw [hheader]
    exact ⟨hwords.2.2, hwords.1, hwords.2.1⟩

/-- A packet is sent again under the names its own header has. -/
theorem buildRetransmission_original {s : Impl} {packet : List UInt8} {given : UInt16}
    {built : RetransmissionResult} (h : (s.buildRetransmission packet given).2 = .ok built) :
    ∃ parsed, parseRewriteableRtpPacket packet = .ok parsed ∧
      built.originalTargetSsrc = parsed.header.ssrc ∧
      built.originalTargetSequenceNumber = parsed.header.sequenceNumber ∧
      built.targetTimestamp = parsed.header.timestamp := by
  obtain ⟨mapping, parsed, result, hparse, hrebuilt, hstamped⟩ := buildRetransmission_rebuilt h
  refine ⟨parsed, hparse, ?_⟩
  have hnames : result.originalTargetSsrc = parsed.header.ssrc ∧
      result.originalTargetSequenceNumber = parsed.header.sequenceNumber ∧
      result.targetTimestamp = parsed.header.timestamp := by
    cases hrebuilt with
    | original => exact ⟨rfl, rfl, rfl⟩
    | rtx => exact ⟨rfl, rfl, rfl⟩
  rcases stampTransportCc_ok hstamped with rfl | ⟨stamped, rfl⟩
  · exact hnames
  · exact hnames

/-! ## What an event does to the cache -/

/-- A packet of the cache is one of the publisher's as it was sent. -/
structure Stores (rewritten : RewriteResult) (packet : CachePacket) : Prop where
  primary : rewritten.rtx = false
  bytes : packet.packet = rewritten.packet
  targetSsrc : packet.targetSsrc = rewritten.targetSsrc
  targetSequenceNumber : packet.targetSequenceNumber = rewritten.targetSequenceNumber
  read : ∀ out, parseRewriteableRtpPacket rewritten.packet = .ok out →
    out.header.ssrc = rewritten.targetSsrc ∧
      out.header.sequenceNumber = rewritten.targetSequenceNumber ∧
      out.header.timestamp = rewritten.targetTimestamp

/-- A packet of the cache is sent again under the names its header has. -/
def SentAgain (now : ℤ) (d : SentDatagram) (cached : CachePacket) : Prop :=
  d.sentAt = now ∧ ∃ built, d.content = .retransmission cached built ∧
    ∃ parsed, parseRewriteableRtpPacket cached.packet = .ok parsed ∧
      built.originalTargetSsrc = parsed.header.ssrc ∧
      built.originalTargetSequenceNumber = parsed.header.sequenceNumber ∧
      built.targetTimestamp = parsed.header.timestamp

/-- What a piece of an event at one time sends, and does to the cache. -/
inductive CacheEmits (now : ℤ) : Cache → List SentDatagram → Cache → Prop
  | same (c : Cache) : CacheEmits now c [] c
  | prunes (c : Cache) : CacheEmits now c [] (c.prune now)
  | reports (c : Cache) {d : SentDatagram} : d.content.rtpFields = none → CacheEmits now c [d] c
  | forwards (c : Cache) {d : SentDatagram} {sourceGeneration : ℕ} {rewritten : RewriteResult} :
      d.content = .rtp sourceGeneration rewritten → CacheEmits now c [d] c
  | stores (c : Cache) {d : SentDatagram} {sourceGeneration : ℕ} {rewritten : RewriteResult}
      {packet : CachePacket} :
      d.content = .rtp sourceGeneration rewritten → d.sentAt = now → Stores rewritten packet →
      CacheEmits now c [d] (c.remember packet now)
  | answers {c : Cache} {session : WhepSessionTransport} {requests : List (UInt32 × UInt16)}
      {step : NackStep} {found : List CachePacket} {sent : List SentDatagram} :
      (Accounted now c → NackProgress now session c requests step) →
      found.Sublist step.retransmissions → List.Forall₂ (SentAgain now) sent found →
      CacheEmits now c sent step.retransmissionCache
  | trans {c c' c'' : Cache} {sent more : List SentDatagram} :
      CacheEmits now c sent c' → CacheEmits now c' more c'' → CacheEmits now c (sent ++ more) c''

namespace CacheEmits
variable {now : ℤ}

theorem sendRetransmissions (srtp : SrtpAnswers) (found : List CachePacket) (index : ℕ)
    (t : MediaTransport) :
    (WhepOutbound.sendRetransmissions now srtp index found t).1.retransmissionCache =
        t.retransmissionCache ∧
      ∃ again, again.Sublist found ∧ List.Forall₂ (SentAgain now)
        (WhepOutbound.sendRetransmissions now srtp index found t).2 again := by
  induction found generalizing index t with
  | nil => exact ⟨rfl, [], .slnil, .nil⟩
  | cons cached found ih =>
      obtain ⟨hcache, again, hsublist, hsent⟩ := ih (index + 1)
        (WhepOutbound.sendRetransmission now (srtp.protect index) t cached).1
      unfold WhepOutbound.sendRetransmissions
      simp only
      rcases sendRetransmission_cases now (srtp.protect index) t cached with
        heq | ⟨built, datagram, hrepeats, heq⟩
      · rw [heq] at hcache hsent ⊢
        exact ⟨hcache, again, hsublist.cons cached, hsent⟩
      · rw [heq] at hcache hsent ⊢
        refine ⟨hcache.trans ?_, cached :: again, hsublist.cons_cons cached, .cons ?_ hsent⟩
        · unfold recordRetransmission MediaTransport.rememberSent
          simp only
          split_ifs <;> rfl
        · obtain ⟨parsed, hparse, hnames⟩ := buildRetransmission_original hrepeats.built
          exact ⟨rfl, built, rfl, parsed, hparse, hnames⟩

theorem handleGenericNacks (srtp : SrtpAnswers) (compound : RtcpCompoundPacket)
    (t : MediaTransport) :
    CacheEmits now t.retransmissionCache (WhepOutbound.handleGenericNacks now srtp compound t).2
      (WhepOutbound.handleGenericNacks now srtp compound t).1.retransmissionCache := by
  unfold WhepOutbound.handleGenericNacks
  obtain ⟨hcache, again, hsublist, hsent⟩ := sendRetransmissions srtp
    (requestedRetransmissions now compound t).retransmissions 0
    { t with retransmissionCache := (requestedRetransmissions now compound t).retransmissionCache }
  rw [hcache]
  exact .answers (fun haccounted => requestedRetransmissions_progress haccounted compound)
    hsublist hsent

theorem forwardRtp (srtp : SrtpAnswers) (sourceGeneration : ℕ) (plainRtp : List UInt8)
    (t : MediaTransport) :
    CacheEmits now t.retransmissionCache
      ((t.forwardRtp now srtp sourceGeneration plainRtp).2.toList.map fun rewritten =>
        { content := .rtp sourceGeneration rewritten
          datagram := (protectedDatagram (srtp.protect 0)).getD []
          sentAt := now })
      (t.forwardRtp now srtp sourceGeneration plainRtp).1.retransmissionCache := by
  rcases MediaTransport.forwardRtp_cases t now srtp sourceGeneration plainRtp with
    heq | heq | ⟨rewritten, datagram, hsends, heq⟩
  · rw [heq]
    exact .same _
  · rw [heq]
    exact .same _
  · rw [heq]
    simp only [Option.toList_some, List.map_singleton]
    have hcache : ((t.rewrote plainRtp).recordSent now sourceGeneration datagram
        rewritten).retransmissionCache = (((t.rewrote plainRtp).rememberSent now datagram.length
          rewritten.rtx rewritten.transportSequenceNumber).cacheRewrittenRtp now sourceGeneration
            rewritten).retransmissionCache := rfl
    have hremembered : ((t.rewrote plainRtp).rememberSent now datagram.length rewritten.rtx
        rewritten.transportSequenceNumber).retransmissionCache = t.retransmissionCache := by
      unfold MediaTransport.rememberSent
      split_ifs <;> rfl
    rw [hcache, MediaTransport.cacheRewrittenRtp]
    split_ifs with hskipped
    · rw [hremembered]
      exact .forwards _ rfl
    · simp only [Bool.or_eq_true, not_or, Bool.not_eq_true] at hskipped
      simp only
      rw [hremembered]
      exact .stores _ rfl rfl ⟨hskipped.1.1, rfl, rfl, rfl,
        fun out hout => rewrite_header hsends.rewrite hsends.state hout⟩

theorem of_unsent {t t' : MediaTransport} (h : Unsent t t') :
    CacheEmits now t.retransmissionCache [] t'.retransmissionCache := by
  rw [h.cache]
  exact .same _

theorem eachSender
    {send : OutboundTransport → ℕ → UInt32 → OutboundTransport × Option SentDatagram}
    (h : ∀ t index ssrc, CacheEmits now t.media.retransmissionCache
      (send t index ssrc).2.toList (send t index ssrc).1.media.retransmissionCache)
    (ssrcs : List UInt32) (index : ℕ) (t : OutboundTransport) :
    CacheEmits now t.media.retransmissionCache (OutboundTransport.eachSender send index ssrcs t).2
      (OutboundTransport.eachSender send index ssrcs t).1.media.retransmissionCache := by
  induction ssrcs generalizing index t with
  | nil => exact .same _
  | cons ssrc ssrcs ih => exact (h t index ssrc).trans (ih (index + 1) _)

theorem reportSender (answer : Except Text Srtp.SrtpPacketProcessResult) (ssrc : UInt32)
    (t : OutboundTransport) :
    CacheEmits now t.media.retransmissionCache (t.reportSender now answer ssrc).2.toList
      (t.reportSender now answer ssrc).1.media.retransmissionCache := by
  unfold OutboundTransport.reportSender
  split
  · exact .same _
  · split
    · exact .same _
    · simp only
      split
      · exact .same _
      · split
        · exact .same _
        · exact .reports _ rfl

theorem byeSender (reason : Text) (answer : Except Text Srtp.SrtpPacketProcessResult)
    (ssrc : UInt32) (t : OutboundTransport) :
    CacheEmits now t.media.retransmissionCache (t.byeSender reason now answer ssrc).2.toList
      (t.byeSender reason now answer ssrc).1.media.retransmissionCache := by
  unfold OutboundTransport.byeSender
  split
  · exact .same _
  · rename_i sender _
    split_ifs
    · exact .same _
    · simp only
      split
      · exact .same _
      · split
        · exact .same _
        · rename_i datagram _
          have hleft : ∀ timing, (t.leaveSender ssrc datagram.length sender
              timing).media.retransmissionCache = t.media.retransmissionCache := by
            intro timing
            cases timing <;> rfl
          simp only
          rw [hleft]
          exact .reports _ rfl

theorem logMediaSummary (active : Bool) (t : OutboundTransport) :
    CacheEmits now t.media.retransmissionCache []
      (t.logMediaSummary active now).media.retransmissionCache := by
  unfold OutboundTransport.logMediaSummary
  split_ifs
  · exact .same _
  · exact .prunes _

theorem close (order : VisitOrder UInt32) (reason : Text) (active : Bool) (srtp : SrtpAnswers)
    (t : OutboundTransport) :
    CacheEmits now t.media.retransmissionCache (t.close order reason active now srtp).2
      (t.close order reason active now srtp).1.media.retransmissionCache := by
  unfold OutboundTransport.close
  split_ifs
  · exact .same _
  · have hbye : CacheEmits now t.media.retransmissionCache
        (t.beginClose.sendRtcpBye order reason now srtp).2
        (t.beginClose.sendRtcpBye order reason now srtp).1.media.retransmissionCache := by
      unfold OutboundTransport.sendRtcpBye
      split_ifs
      · exact .same _
      · exact eachSender (fun t _ ssrc => byeSender reason _ ssrc t) _ _ t.beginClose
    have hclosed := hbye.trans (logMediaSummary active
      (t.beginClose.sendRtcpBye order reason now srtp).1)
    rw [List.append_nil] at hclosed
    exact hclosed

theorem sendRtp (routing : RouterState) (srtp : SrtpAnswers) (sourceGeneration : ℕ)
    (plainRtp : List UInt8) (t : OutboundTransport) :
    CacheEmits now t.media.retransmissionCache
      (t.sendRtp routing now srtp sourceGeneration plainRtp).2
      (t.sendRtp routing now srtp sourceGeneration plainRtp).1.media.retransmissionCache := by
  have hfollowed : (Recovering.sendRtp ⟨routing, t.media⟩ now srtp sourceGeneration
      plainRtp).transport.retransmissionCache =
        (t.media.forwardRtp now srtp sourceGeneration plainRtp).1.retransmissionCache := by
    unfold Recovering.sendRtp
    split
    · rename_i t' heq
      rw [heq]
    · rename_i t' rewritten heq
      rw [heq]
      exact (Unsent.followKeyframes ⟨routing, t'⟩ sourceGeneration rewritten).cache
  unfold OutboundTransport.sendRtp
  simp only
  rw [hfollowed]
  exact forwardRtp srtp sourceGeneration plainRtp t.media

theorem handleInboundRtcp (routing : RouterState) (srtp : SrtpAnswers) (plainRtcp : List UInt8)
    (t : OutboundTransport) :
    CacheEmits now t.media.retransmissionCache (t.handleInboundRtcp routing now srtp plainRtcp).2
      (t.handleInboundRtcp routing now srtp plainRtcp).1.media.retransmissionCache := by
  unfold OutboundTransport.handleInboundRtcp
  split
  · exact .same _
  · rename_i compound _
    have hmedia := (Emits.recordReceiverReports now compound.reportPackets t).2
    simp only
    rw [hmedia, (Unsent.handleKeyframeFeedback compound ⟨routing, _⟩).cache]
    exact handleGenericNacks srtp compound t.media

theorem perform (event : OutboundEvent) (before : ℤ) (t : OutboundTransport) :
    CacheEmits (event.at before) t.media.retransmissionCache (t.perform event).2
      (t.perform event).1.media.retransmissionCache := by
  cases event with
  | publisherSource update =>
      have hsame : (t.handlePublisherSource update).media.retransmissionCache =
          t.media.retransmissionCache := by
        unfold OutboundTransport.handlePublisherSource
        simp only
        split_ifs <;> rfl
      change CacheEmits _ _ [] (t.handlePublisherSource update).media.retransmissionCache
      rw [hsame]
      exact .same _
  | publisherSenderTiming timing => exact .same _
  | publisherSourceBye bye => exact .same _
  | sendRtp routing now srtp sourceGeneration plainRtp =>
      exact sendRtp routing srtp sourceGeneration plainRtp t
  | inboundRtcp routing now srtp plainRtcp => exact handleInboundRtcp routing srtp plainRtcp t
  | nominate routing endpoint rebound => exact of_unsent (.nominate _ _ ⟨routing, t.media⟩)
  | senderReports order now srtp =>
      change CacheEmits now _ (t.sendRtcpSenderReports order now srtp).2
        (t.sendRtcpSenderReports order now srtp).1.media.retransmissionCache
      unfold OutboundTransport.sendRtcpSenderReports
      split_ifs
      · exact .same _
      · exact eachSender (fun t _ ssrc => reportSender _ ssrc t) _ _ t
  | logMediaSummary active now => exact logMediaSummary active t
  | close order reason active now srtp => exact close order reason active srtp t

end CacheEmits

/-! ## What is sent again -/

/-- A datagram as it concerns the packet with a key: a new packet under the key, or the old one
again. -/
def SentDatagram.note (key : UInt64) (times : List ℤ) (d : SentDatagram) : List ℤ :=
  match d.content with
  | .rtp _ rewritten =>
      if makeKey rewritten.targetSsrc rewritten.targetSequenceNumber = key then [] else times
  | .retransmission cached _ => if packetKey cached = key then times ++ [d.sentAt] else times
  | .senderReport _ _ => times
  | .bye _ _ _ => times

/-- The times a packet was sent again since the publisher's last one under its key. -/
def repeats (key : UInt64) (sent : List SentDatagram) : List ℤ :=
  sent.foldl (SentDatagram.note key) []

/-- A packet which is sent again is one of the publisher's that was sent at most two seconds
before. -/
def Repeated (before : List SentDatagram) (d : SentDatagram) : Prop :=
  ∀ cached built, d.content = .retransmission cached built →
    ∃ earlier ∈ before, ∃ sourceGeneration rewritten,
      earlier.content = .rtp sourceGeneration rewritten ∧ rewritten.rtx = false ∧
      cached.packet = rewritten.packet ∧ d.sentAt - earlier.sentAt ≤ 2000 * 1000000 ∧
      built.originalTargetSsrc = rewritten.targetSsrc ∧
      built.originalTargetSequenceNumber = rewritten.targetSequenceNumber ∧
      built.targetTimestamp = rewritten.targetTimestamp

/-- Twenty milliseconds lie between two times a packet is sent again. -/
def Paced (before : List SentDatagram) (d : SentDatagram) : Prop :=
  ∀ cached built, d.content = .retransmission cached built →
    ∀ time ∈ repeats (packetKey cached) before, time + 20 * 1000000 ≤ d.sentAt

theorem repeats_concat (key : UInt64) (sent : List SentDatagram) (d : SentDatagram) :
    repeats key (sent ++ [d]) = d.note key (repeats key sent) := by
  rw [repeats, List.foldl_append]
  rfl

/-- The packet in the cache is one that was sent. -/
def StoredIn (sent : List SentDatagram) (packet : CachePacket) : Prop :=
  ∃ d ∈ sent, ∃ sourceGeneration rewritten, d.content = .rtp sourceGeneration rewritten ∧
    d.sentAt = packet.storedAt ∧ Stores rewritten packet

theorem StoredIn.append {sent : List SentDatagram} {packet : CachePacket}
    (h : StoredIn sent packet) (more : List SentDatagram) : StoredIn (sent ++ more) packet := by
  obtain ⟨d, hd, hstored⟩ := h
  exact ⟨d, List.mem_append_left _ hd, hstored⟩

/-- The cache has packets which were sent, each with a time not before the last one it was sent
again at. -/
structure Remembers (now : ℤ) (sent : List SentDatagram) (c : Cache) : Prop where
  accounted : Accounted now c
  config : c.config = {}
  stored : ∀ key cached, c.entries.find? key = some cached → StoredIn sent cached.packet
  past : ∀ key, ∀ time ∈ repeats key sent, time ≤ now
  marked : ∀ key cached, c.entries.find? key = some cached → ∀ time ∈ repeats key sent,
    ∃ last, cached.lastRetransmittedAt = some last ∧ time ≤ last

structure Repeating (now : ℤ) (sent : List SentDatagram) (c : Cache) : Prop where
  remembers : Remembers now sent c
  repeated : EachAfter Repeated sent
  paced : EachAfter Paced sent

namespace Repeating
variable {now now' : ℤ} {sent : List SentDatagram} {c : Cache}

theorem create (now : ℤ) : Repeating now [] (RtpRetransmissionCache.create {}) := by
  refine ⟨⟨create_accounted {} now, rfl, fun key cached hfind => ?_, fun key time htime => ?_,
    fun key cached hfind => ?_⟩, .nil _, .nil _⟩
  · cases hfind
  · cases htime
  · cases hfind

theorem later (h : Repeating now sent c) (hlater : now ≤ now') : Repeating now' sent c :=
  ⟨{ h.remembers with
      accounted := h.remembers.accounted.later hlater
      past := fun key time htime => (h.remembers.past key time htime).trans hlater },
    h.repeated, h.paced⟩

theorem prune (h : Repeating now sent c) : Repeating now sent (c.prune now) := by
  have hkept := (OldestEvicted.of_pruneSteps h.remembers.accounted (prune_steps now c)).kept
  exact ⟨⟨h.remembers.accounted.prune, (prune_config c now).trans h.remembers.config,
    fun key cached hfind => h.remembers.stored key cached (hkept key cached hfind),
    h.remembers.past,
    fun key cached hfind => h.remembers.marked key cached (hkept key cached hfind)⟩,
    h.repeated, h.paced⟩

/-- A datagram which sends no packet again. -/
theorem concat (h : Repeating now sent c) {d : SentDatagram}
    (hd : ∀ cached built, d.content ≠ .retransmission cached built)
    (hnote : ∀ key, d.note key (repeats key sent) = repeats key sent ∨
      d.note key (repeats key sent) = []) : Repeating now (sent ++ [d]) c := by
  have hsubset : ∀ key, ∀ time ∈ repeats key (sent ++ [d]), time ∈ repeats key sent := by
    intro key time htime
    rw [repeats_concat] at htime
    rcases hnote key with heq | heq
    · rwa [heq] at htime
    · rw [heq] at htime
      cases htime
  exact ⟨⟨h.remembers.accounted, h.remembers.config,
    fun key cached hfind => (h.remembers.stored key cached hfind).append _,
    fun key time htime => h.remembers.past key time (hsubset key time htime),
    fun key cached hfind time htime =>
      h.remembers.marked key cached hfind time (hsubset key time htime)⟩,
    h.repeated.concat fun cached built hcontent => absurd hcontent (hd cached built),
    h.paced.concat fun cached built hcontent => absurd hcontent (hd cached built)⟩

theorem reports (h : Repeating now sent c) {d : SentDatagram} (hd : d.content.rtpFields = none) :
    Repeating now (sent ++ [d]) c := by
  refine h.concat (fun cached built hcontent => ?_) fun key => .inl ?_
  · rw [hcontent] at hd
    cases hd
  · unfold SentDatagram.note
    cases hcontent : d.content with
    | rtp sourceGeneration rewritten =>
        rw [hcontent] at hd
        cases hd
    | retransmission cached built =>
        rw [hcontent] at hd
        cases hd
    | senderReport report compound => rfl
    | bye targetSsrc report compound => rfl

theorem note_rtp {d : SentDatagram} {sourceGeneration : ℕ} {rewritten : RewriteResult}
    (hd : d.content = .rtp sourceGeneration rewritten) (key : UInt64) (times : List ℤ) :
    d.note key times =
      if makeKey rewritten.targetSsrc rewritten.targetSequenceNumber = key then [] else times := by
  unfold SentDatagram.note
  rw [hd]

theorem forwards (h : Repeating now sent c) {d : SentDatagram} {sourceGeneration : ℕ}
    {rewritten : RewriteResult} (hd : d.content = .rtp sourceGeneration rewritten) :
    Repeating now (sent ++ [d]) c := by
  refine h.concat (fun cached built hcontent => ?_) fun key => ?_
  · rw [hd] at hcontent
    cases hcontent
  · rw [note_rtp hd]
    split_ifs
    · exact .inr rfl
    · exact .inl rfl

theorem stores (h : Repeating now sent c) {d : SentDatagram} {sourceGeneration : ℕ}
    {rewritten : RewriteResult} {packet : CachePacket}
    (hd : d.content = .rtp sourceGeneration rewritten) (hnow : d.sentAt = now)
    (hpacket : Stores rewritten packet) : Repeating now (sent ++ [d]) (c.remember packet now) := by
  have hforwarded := h.forwards hd
  unfold Cache.remember
  split_ifs
  · exact hforwarded
  · have hpruned := hforwarded.prune
    have hkey : makeKey rewritten.targetSsrc rewritten.targetSequenceNumber = packetKey packet := by
      rw [packetKey, hpacket.targetSsrc, hpacket.targetSequenceNumber]
    have hstored : Repeating now (sent ++ [d]) ((c.prune now).store packet now) := by
      refine ⟨⟨hpruned.remembers.accounted.store packet,
        ((store_spec _ packet now).2.2.2).trans hpruned.remembers.config,
        fun key cached hfind => ?_, hpruned.remembers.past, fun key cached hfind time htime => ?_⟩,
        hpruned.repeated, hpruned.paced⟩
      · rw [find?_store] at hfind
        split_ifs at hfind with heq
        · rw [← Option.some.inj hfind]
          exact ⟨d, List.mem_append_right _ (List.mem_singleton_self d), sourceGeneration,
            rewritten, hd, hnow, hpacket.primary, hpacket.bytes, hpacket.targetSsrc,
            hpacket.targetSequenceNumber, hpacket.read⟩
        · exact hpruned.remembers.stored key cached hfind
      · rw [find?_store] at hfind
        split_ifs at hfind with heq
        · rw [repeats_concat, note_rtp hd, if_pos (hkey.trans heq.symm)] at htime
          cases htime
        · exact hpruned.remembers.marked key cached hfind time htime
    exact hstored.prune

theorem note_retransmission {d : SentDatagram} {cached : CachePacket} {built : RetransmissionResult}
    (hd : d.content = .retransmission cached built) (key : UInt64) (times : List ℤ) :
    d.note key times = if packetKey cached = key then times ++ [d.sentAt] else times := by
  unfold SentDatagram.note
  rw [hd]

/-- A packet the cache has is sent again, and marked with the time. -/
theorem repeat_one (h : Repeating now sent c) {d : SentDatagram} {packet : CachePacket}
    (hd : SentAgain now d packet) (hstored : StoredIn sent packet)
    (hyoung : now - packet.storedAt ≤ 2000 * 1000000)
    (hrested : ∀ time ∈ repeats (packetKey packet) sent, time + 20 * 1000000 ≤ now)
    (hmarked : ∀ cached, c.entries.find? (packetKey packet) = some cached →
      cached.lastRetransmittedAt = some now) : Repeating now (sent ++ [d]) c := by
  obtain ⟨hnow, built, hcontent, parsed, hparse, hssrc, hseq, htimestamp⟩ := hd
  have hpast : ∀ key, ∀ time ∈ repeats key (sent ++ [d]), time ≤ now := by
    intro key time htime
    rw [repeats_concat, note_retransmission hcontent] at htime
    split_ifs at htime
    · rcases List.mem_append.mp htime with hold | hnew
      · exact h.remembers.past key time hold
      · rw [List.mem_singleton.mp hnew, hnow]
    · exact h.remembers.past key time htime
  refine ⟨⟨h.remembers.accounted, h.remembers.config,
    fun key cached hfind => (h.remembers.stored key cached hfind).append _, hpast,
    fun key cached hfind time htime => ?_⟩,
    h.repeated.concat fun cached built' hcontent' => ?_,
    h.paced.concat fun cached built' hcontent' => ?_⟩
  · by_cases hkey : packetKey packet = key
    · exact ⟨now, hmarked cached (hkey ▸ hfind), hpast key time htime⟩
    · rw [repeats_concat, note_retransmission hcontent, if_neg hkey] at htime
      exact h.remembers.marked key cached hfind time htime
  · rw [hcontent] at hcontent'
    obtain ⟨rfl, rfl⟩ := SentContent.retransmission.inj hcontent'
    obtain ⟨earlier, hearlier, sourceGeneration, rewritten, hrtp, hsentAt, hstores⟩ := hstored
    rw [hstores.bytes] at hparse
    obtain ⟨hssrc', hseq', htimestamp'⟩ := hstores.read parsed hparse
    exact ⟨earlier, hearlier, sourceGeneration, rewritten, hrtp, hstores.primary, hstores.bytes,
      by rwa [hnow, hsentAt], hssrc.trans hssrc', hseq.trans hseq', htimestamp.trans htimestamp'⟩
  · rw [hcontent] at hcontent'
    obtain ⟨rfl, rfl⟩ := SentContent.retransmission.inj hcontent'
    rw [hnow]
    exact hrested

/-- Distinct packets of the cache are sent again at one time. -/
theorem repeat_all {more : List SentDatagram} {found : List CachePacket}
    (hsent : List.Forall₂ (SentAgain now) more found) (h : Repeating now sent c)
    (hdistinct : (found.map packetKey).Nodup)
    (hstored : ∀ packet ∈ found, StoredIn sent packet ∧ now - packet.storedAt ≤ 2000 * 1000000)
    (hrested : ∀ packet ∈ found,
      ∀ time ∈ repeats (packetKey packet) sent, time + 20 * 1000000 ≤ now)
    (hmarked : ∀ packet ∈ found, ∀ cached, c.entries.find? (packetKey packet) = some cached →
      cached.lastRetransmittedAt = some now) : Repeating now (sent ++ more) c := by
  induction hsent generalizing sent with
  | nil => rwa [List.append_nil]
  | @cons d packet more found hd _ ih =>
      rw [List.map_cons, List.nodup_cons] at hdistinct
      rw [List.forall_mem_cons] at hstored hrested hmarked
      rw [List.append_cons]
      have hone := h.repeat_one hd hstored.1.1 hstored.1.2 hrested.1 hmarked.1
      refine ih hone hdistinct.2 (fun packet' hpacket' => ?_) (fun packet' hpacket' => ?_) hmarked.2
      · exact ⟨(hstored.2 packet' hpacket').1.append _, (hstored.2 packet' hpacket').2⟩
      · have hother : packetKey packet ≠ packetKey packet' := by
          intro heq
          rw [heq] at hdistinct
          exact hdistinct.1 (List.mem_map_of_mem hpacket')
        obtain ⟨-, built, hcontent, -⟩ := hd
        rw [repeats_concat, note_retransmission hcontent, if_neg hother]
        exact hrested.2 packet' hpacket'

/-- A packet a NACK finds was sent at most two seconds before, and has rested. -/
theorem of_answer (h : Repeating now sent c) {packet : CachePacket}
    (hanswer : c.answer now packet.targetSsrc packet.targetSequenceNumber = some packet) :
    (StoredIn sent packet ∧ now - packet.storedAt ≤ 2000 * 1000000) ∧
      ∀ time ∈ repeats (packetKey packet) sent, time + 20 * 1000000 ≤ now := by
  have hconfig : (c.prune now).config = {} := (prune_config c now).trans h.remembers.config
  obtain ⟨cached, hfind, hcached⟩ := Option.bind_eq_some_iff.mp hanswer
  split_ifs at hcached with hsuppressed
  have hpacket : cached.packet = packet := Option.some.inj hcached
  have hyoung := h.remembers.accounted.prune_young _ _ hfind
  rw [Cache.withinAge, hconfig, hpacket] at hyoung
  have hkept := h.prune.remembers
  refine ⟨⟨hpacket ▸ hkept.stored _ _ hfind, of_decide_eq_true hyoung⟩, fun time htime => ?_⟩
  obtain ⟨last, hlast, hle⟩ := hkept.marked _ _ hfind time htime
  rw [Cache.suppresses, hlast, hconfig] at hsuppressed
  simp only [decide_eq_true_eq, not_lt] at hsuppressed
  omega

theorem answers (h : Repeating now sent c) {session : WhepSessionTransport}
    {requests : List (UInt32 × UInt16)} {step : NackStep} {found : List CachePacket}
    {more : List SentDatagram} (hprogress : NackProgress now session c requests step)
    (hfound : found.Sublist step.retransmissions)
    (hmore : List.Forall₂ (SentAgain now) more found) :
    Repeating now (sent ++ more) step.retransmissionCache := by
  have hanswered : found.Sublist (answered now session c requests) := by
    rw [hprogress.found] at hfound
    exact hfound.trans (List.take_sublist _ _)
  have hanswer : ∀ packet ∈ found,
      c.answer now packet.targetSsrc packet.targetSequenceNumber = some packet :=
    fun packet hpacket => (mem_answered h.remembers.accounted (hanswered.subset hpacket)).2.2
  have hcache : Repeating now sent step.retransmissionCache := by
    refine ⟨⟨hprogress.accounted, hprogress.config.trans h.remembers.config,
      fun key cached hfind => ?_, h.remembers.past, fun key cached hfind time htime => ?_⟩,
      h.repeated, h.paced⟩
    · obtain ⟨before, hbefore, rfl⟩ := hprogress.kept key cached hfind
      rw [marked_packet]
      exact h.remembers.stored key before hbefore
    · obtain ⟨before, hbefore, rfl⟩ := hprogress.kept key cached hfind
      unfold marked
      split_ifs
      · exact ⟨now, rfl, h.remembers.past key time htime⟩
      · exact h.remembers.marked key before hbefore time htime
  refine repeat_all hmore hcache ?_ (fun packet hpacket => (h.of_answer (hanswer packet hpacket)).1)
    (fun packet hpacket => (h.of_answer (hanswer packet hpacket)).2)
    fun packet hpacket cached hfind => ?_
  · exact (answered_nodup h.remembers.accounted requests).sublist (hanswered.map packetKey)
  · obtain ⟨before, -, rfl⟩ := hprogress.kept _ cached hfind
    rw [marked, if_pos (List.mem_map_of_mem (hfound.subset hpacket))]

theorem emits {c' : Cache} {more : List SentDatagram} (hemits : CacheEmits now c more c')
    (h : Repeating now sent c) : Repeating now (sent ++ more) c' := by
  induction hemits generalizing sent with
  | same c => rwa [List.append_nil]
  | prunes c =>
      rw [List.append_nil]
      exact h.prune
  | reports c hd => exact h.reports hd
  | forwards c hd => exact h.forwards hd
  | stores c hd hnow hpacket => exact h.stores hd hnow hpacket
  | answers hprogress hfound hmore =>
      exact h.answers (hprogress h.remembers.accounted) hfound hmore
  | trans _ _ ih ih' =>
      rw [← List.append_assoc]
      exact ih' (ih h)

theorem run {events : List OutboundEvent} {w : Outbound} (h : Outbound.system.Run events w) :
    Repeating w.now w.sent w.transport.media.retransmissionCache := by
  refine @EventSystem.Run.invariant _ _ _
    (fun w => Repeating w.now w.sent w.transport.media.retransmissionCache) ?_ ?_ _ _ h
  · rintro w ⟨streamId, sessionId, target, now, rfl⟩
    exact create now
  · intro w event w' hw hperformed
    obtain ⟨hlate, heq⟩ := Option.ite_none_right_eq_some.mp hperformed
    obtain rfl := Option.some.inj heq
    exact emits (.perform event w.now w.transport) (hw.later hlate)

end Repeating

/-- In every run, a packet that is sent again is one of the publisher's packets which was sent at
most two seconds before, and is rebuilt from the bytes which were sent then. -/
theorem run_retransmissions_repeat {events : List OutboundEvent} {w : Outbound}
    (h : Outbound.system.Run events w) : EachAfter Repeated w.sent :=
  (Repeating.run h).repeated

theorem run_retransmissions_repeat_played : ∃ w, Outbound.system.Run played w ∧
    w.sent.length = 4 ∧ EachAfter Repeated w.sent := by
  obtain ⟨w, hrun, hsent⟩ := @played_run (fun w => decide (w.sent.length = 4)) (by decide +kernel)
  exact ⟨w, hrun, of_decide_eq_true hsent, run_retransmissions_repeat hrun⟩

/-- In every run, at least twenty milliseconds lie between two times the same packet is sent again,
however often it is asked for. -/
theorem run_paced {events : List OutboundEvent} {w : Outbound}
    (h : Outbound.system.Run events w) : EachAfter Paced w.sent :=
  (Repeating.run h).paced

theorem run_paced_played : ∃ w, Outbound.system.Run played w ∧
    repeats (makeKey 1 1) w.sent = [30000000] ∧ EachAfter Paced w.sent := by
  obtain ⟨w, hrun, hsent⟩ := @played_run
    (fun w => decide (repeats (makeKey 1 1) w.sent = [30000000])) (by decide +kernel)
  exact ⟨w, hrun, of_decide_eq_true hsent, run_paced hrun⟩

/-- In every run, the packets a compound is answered with are the ones the cache has for its
distinct requests of known primary SSRCs, in the order they are asked for and up to a limit. -/
theorem run_nacks_answered {events : List OutboundEvent} {w : Outbound}
    (h : Outbound.system.Run events w) {now : ℤ} (hnow : w.now ≤ now)
    (compound : RtcpCompoundPacket) :
    (requestedRetransmissions now compound w.transport.media).retransmissions =
        (answered now w.transport.media.session w.transport.media.retransmissionCache
          (nackRequests compound)).take 256 ∧
      ((answered now w.transport.media.session w.transport.media.retransmissionCache
        (nackRequests compound)).map packetKey).Nodup := by
  have haccounted := (Repeating.run h).remembers.accounted.later hnow
  exact ⟨(requestedRetransmissions_progress haccounted compound).found,
    answered_nodup haccounted _⟩

/-- One number which is asked for twice, and one which was not sent. -/
def askedTwice : RtcpCompoundPacket where
  blocks := [{ hasGenericNack := true, feedbackMediaSsrc := 1, nackSequenceNumbers := [1, 1, 2] }]

theorem run_nacks_answered_played : ∃ w, Outbound.system.Run played w ∧
    (requestedRetransmissions 60000000 askedTwice
      w.transport.media).retransmissions.length = 1 := by
  obtain ⟨w, hrun, hholds⟩ := @played_run (fun w => decide (w.now = 40000000 ∧
    (answered 60000000 w.transport.media.session w.transport.media.retransmissionCache
      (nackRequests askedTwice)).length = 1)) (by decide +kernel)
  obtain ⟨hnow, hlength⟩ := of_decide_eq_true hholds
  have hlate : w.now ≤ 60000000 := by rw [hnow]; decide
  refine ⟨w, hrun, ?_⟩
  rw [(run_nacks_answered hrun hlate askedTwice).1, List.take_of_length_le (by omega), hlength]

end SimpleWebrtc.WhepOutbound
