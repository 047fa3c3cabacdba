import SimpleWebrtc.KeyframeRecovery
import SimpleWebrtc.Library.Traces
import SimpleWebrtc.ConfiguredRewriter
import SimpleWebrtc.OutboundPackets

/-!
# What an event sends

The events of a subscriber's transport, and what each of them does to the parts
of it which account for the datagrams: the history of transport-wide numbers,
the counts of the senders and the reports they sent. An event is a row of small
steps, most of which send nothing.
-/
namespace SimpleWebrtc.WhepMedia
open Library Library.Text RtpRewriter MediaFanout WhepSession

/-- A sender without its timing: what is counted of it, and what it reported. -/
def untimed (sender : OutboundRtcpSenderState) : OutboundRtcpSenderState :=
  { sender with senderTiming := none }

/-! ## The keyframe recovery sends nothing -/

/-- A transport which rewrites, counts and remembers as before. -/
structure Unsent (t t' : MediaTransport) : Prop where
  history : t'.transportFeedbackHistory = t.transportFeedbackHistory
  cache : t'.retransmissionCache = t.retransmissionCache
  senders : t'.session.outboundRtcpSenders = t.session.outboundRtcpSenders
  rewriter : t'.session.rtpRewriter = t.session.rtpRewriter

namespace Unsent
variable {t t' t'' : MediaTransport}

theorem refl (t : MediaTransport) : Unsent t t := ⟨rfl, rfl, rfl, rfl⟩

theorem trans (h : Unsent t t') (h' : Unsent t' t'') : Unsent t t'' :=
  ⟨h'.history.trans h.history, h'.cache.trans h.cache, h'.senders.trans h.senders,
    h'.rewriter.trans h.rewriter⟩

theorem prepareKeyframeRequest (t : MediaTransport) (sourceGeneration : ℕ)
    (sourceSsrc targetSsrc : UInt32) (forceDispatch coalesceIfWaiting : Bool) :
    Unsent t (t.prepareKeyframeRequest sourceGeneration sourceSsrc targetSsrc forceDispatch
      coalesceIfWaiting).1 := by
  rcases prepareKeyframeRequest_cases t.session sourceGeneration sourceSsrc targetSsrc
    forceDispatch coalesceIfWaiting with heq | ⟨source, -, heq⟩
  · rw [MediaTransport.prepareKeyframeRequest, heq]
    exact ⟨rfl, rfl, rfl, rfl⟩
  · rw [MediaTransport.prepareKeyframeRequest, heq]
    exact ⟨rfl, rfl, rfl, rfl⟩

theorem observeKeyframe (t : MediaTransport) (source : MediaPublisherSource)
    (sourceGeneration : ℕ) (rewritten : RewriteResult) :
    Unsent t (t.observeKeyframe source sourceGeneration rewritten).transport := by
  unfold MediaTransport.observeKeyframe
  split
  · exact ⟨rfl, rfl, rfl, rfl⟩
  · rename_i observation tracker _
    have htracked : Unsent t { t with keyframeTracker := tracker } := ⟨rfl, rfl, rfl, rfl⟩
    simp only
    split
    · exact ⟨rfl, rfl, rfl, rfl⟩
    · exact htracked.trans (.prepareKeyframeRequest _ _ _ _ _ _)
    · exact htracked
    · exact htracked
    · exact htracked

theorem askUnlessReady (step : MediaTransport.RecoveryStep) (sourceGeneration : ℕ)
    (rewritten : RewriteResult) :
    Unsent step.transport (step.askUnlessReady sourceGeneration rewritten).transport := by
  unfold MediaTransport.RecoveryStep.askUnlessReady
  split_ifs
  · exact .prepareKeyframeRequest _ _ _ _ _ _
  · exact refl _

theorem dispatchKeyframeRequest (w : Recovering) (context : KeyframeRequestContext) :
    Unsent w.transport (w.dispatchKeyframeRequest context).transport := by
  unfold Recovering.dispatchKeyframeRequest
  simp only
  split_ifs
  · split
    · exact refl _
    · exact ⟨rfl, rfl, rfl, rfl⟩
  · exact refl _

theorem dispatchAll (requests : List KeyframeRequestContext) (w : Recovering) :
    Unsent w.transport
      (requests.foldl Recovering.dispatchKeyframeRequest w).transport := by
  induction requests generalizing w with
  | nil => exact refl _
  | cons context requests ih => exact (dispatchKeyframeRequest w context).trans (ih _)

theorem completeKeyframeRequest (w : Recovering) (context : KeyframeRequestContext) :
    Unsent w.transport (w.completeKeyframeRequest context).transport := by
  unfold Recovering.completeKeyframeRequest
  simp only
  split_ifs
  · exact refl _
  · exact refl _

theorem finishRecovery (w : Recovering) (step : MediaTransport.RecoveryStep) :
    Unsent step.transport (w.finishRecovery step).transport := by
  let observed : Recovering := { w with transport := step.transport }
  unfold Recovering.finishRecovery
  cases step.completed with
  | none =>
      cases step.request with
      | none => exact refl _
      | some context => exact dispatchKeyframeRequest observed context
  | some completed =>
      have hcompleted := completeKeyframeRequest observed completed
      cases step.request with
      | none => exact hcompleted
      | some context => exact hcompleted.trans (dispatchKeyframeRequest _ context)

theorem beginRecovery (w : Recovering) (rewritten : RewriteResult) :
    Unsent w.transport (w.beginRecovery rewritten).transport := by
  unfold Recovering.beginRecovery
  split_ifs
  · exact ⟨rfl, rfl, rfl, rfl⟩
  · exact refl _

theorem followKeyframes (w : Recovering) (sourceGeneration : ℕ) (rewritten : RewriteResult) :
    Unsent w.transport (w.followKeyframes sourceGeneration rewritten).transport := by
  unfold Recovering.followKeyframes
  split
  · exact refl _
  · split_ifs
    · exact refl _
    · exact (beginRecovery w rewritten).trans ((observeKeyframe _ _ _ _).trans
        ((askUnlessReady _ _ _).trans (finishRecovery _ _)))

theorem accept (step : FeedbackStep) (feedback : InboundKeyframeFeedback) :
    Unsent step.transport (step.accept feedback).transport := by
  unfold FeedbackStep.accept
  simp only
  split
  · exact refl _
  · rename_i sourceSsrc _
    have htracked : ∀ tracker, Unsent step.transport
        { step.transport with session := { step.transport.session with
            firSequenceTracker := tracker } } := fun _ => ⟨rfl, rfl, rfl, rfl⟩
    split_ifs
    · exact refl _
    · exact htracked _
    · exact (htracked _).trans (.prepareKeyframeRequest _ _ _ _ _ _)

theorem acceptAll (feedback : List InboundKeyframeFeedback) (step : FeedbackStep) :
    Unsent step.transport (feedback.foldl FeedbackStep.accept step).transport := by
  induction feedback generalizing step with
  | nil => exact refl _
  | cons first feedback ih => exact (accept step first).trans (ih _)

theorem handleKeyframeFeedback (compound : RtcpCompoundPacket.RtcpCompoundPacket)
    (w : Recovering) :
    Unsent w.transport (Recovering.handleKeyframeFeedback compound w).transport := by
  have haccepted := acceptAll (inboundKeyframeFeedback compound) ⟨w.transport, ∅, []⟩
  exact haccepted.trans (dispatchAll _ { w with transport := _ })

theorem nominate (endpoint : Stun.UdpEndpoint) (rebound : Except Text Bool) (w : Recovering) :
    Unsent w.transport (w.nominate endpoint rebound).transport := by
  unfold Recovering.nominate
  simp only
  split_ifs
  · exact refl _
  · exact refl _
  · exact ⟨rfl, rfl, rfl, rfl⟩

end Unsent
end SimpleWebrtc.WhepMedia

namespace SimpleWebrtc.WhepOutbound
open Library Library.Text RtpPacket RewrittenExtensions RtpRewriter RewriterConfig
  RtpRetransmissionCache RtcpReport RtcpCompoundPacket RtcpPacketBuilder TransportFeedbackHistory
  TransportFeedbackCodec MediaFanout WhepSession WhepMedia

/-! ## Datagrams -/

/-- What is known of a packet that was sent. -/
structure RtpFields where
  targetSsrc : UInt32
  targetTimestamp : UInt32
  payloadSize : ℕ
  transportSequenceNumber : Option UInt16
  retransmission : Bool

def rewrittenFields (rewritten : RewriteResult) : RtpFields where
  targetSsrc := rewritten.targetSsrc
  targetTimestamp := rewritten.targetTimestamp
  payloadSize := rewritten.payloadSize
  transportSequenceNumber := rewritten.transportSequenceNumber
  retransmission := rewritten.rtx

def builtFields (built : RetransmissionResult) : RtpFields where
  targetSsrc := built.targetSsrc
  targetTimestamp := built.targetTimestamp
  payloadSize := built.payloadSize
  transportSequenceNumber := built.transportSequenceNumber
  retransmission := true

def SentContent.rtpFields : SentContent → Option RtpFields
  | .rtp _ rewritten => some (rewrittenFields rewritten)
  | .retransmission _ built => some (builtFields built)
  | .senderReport _ _ => none
  | .bye _ _ _ => none

/-- What a sender counts of a packet that was sent under its SSRC. -/
def counted (fields : RtpFields) (sender : OutboundRtcpSenderState) : OutboundRtcpSenderState :=
  { sender with
    packetCount := sender.packetCount + 1
    octetCount := sender.octetCount + fields.payloadSize
    lastTargetRtpTimestamp :=
      if sender.lastTargetRtpTimestamp.all fun last =>
          timestampIsNewer fields.targetTimestamp last
      then some fields.targetTimestamp
      else sender.lastTargetRtpTimestamp }

/-! ## Small steps -/

def OutboundTransport.history (t : OutboundTransport) : SendHistory :=
  t.media.transportFeedbackHistory

def OutboundTransport.senders (t : OutboundTransport) : AssocMap UInt32 OutboundRtcpSenderState :=
  t.media.session.outboundRtcpSenders

/-- The senders count and have reported as before. -/
structure SameAccounts (t t' : OutboundTransport) : Prop where
  senders : ∀ ssrc, (t'.senders.find? ssrc).map untimed = (t.senders.find? ssrc).map untimed
  reports : ∀ ssrc,
    (t'.reportState ssrc).sentSenderReports = (t.reportState ssrc).sentSenderReports

/-- A history in which nothing was sent. -/
inductive HistoryKept (now : ℤ) : SendHistory → SendHistory → Prop
  | same (history : SendHistory) : HistoryKept now history history
  | observes (history : SendHistory) (feedback : ParsedRtcpTransportFeedback) :
      HistoryKept now history (history.observe feedback now).1
  | expires (history : SendHistory) : HistoryKept now history (history.expire now)

/-- A packet is sent: it takes the next transport-wide number if it has one, and is counted with
the sender of its SSRC. -/
structure Forwards (now : ℤ) (d : SentDatagram) (fields : RtpFields) (t t' : OutboundTransport) :
    Prop where
  sentAt : d.sentAt = now
  said : d.content.rtpFields = some fields
  number : ∀ number ∈ fields.transportSequenceNumber, number = t.history.nextSequenceNumber
  history : t'.history =
    if fields.transportSequenceNumber.isSome then
      t.history.rememberSent
        { packetSize := d.datagram.length
          retransmission := fields.retransmission
          sentAt := now }
    else t.history
  senders : ∀ ssrc, (t'.senders.find? ssrc).map untimed =
    (t.senders.find? ssrc).map fun sender =>
      untimed (if ssrc = fields.targetSsrc then counted fields sender else sender)
  reports : ∀ ssrc,
    (t'.reportState ssrc).sentSenderReports = (t.reportState ssrc).sentSenderReports

/-- A sender reports the timing which is due, and what it has counted. -/
structure ReportsOn (now : ℤ) (ssrc : UInt32) (sender : OutboundRtcpSenderState)
    (timing : OutboundRtcpSenderTiming) (d : SentDatagram) (t t' : OutboundTransport) : Prop where
  sentAt : d.sentAt = now
  found : t.senders.find? ssrc = some sender
  due : dueTiming t.media.session.publisherSourceGeneration sender = some timing
  said : ∃ compound, buildSenderReportDatagram sender (makeSenderReport sender timing) =
    .ok compound ∧ d.content = .senderReport (makeSenderReport sender timing) compound
  history : t'.history = t.history
  senders : ∀ ssrc', t'.senders.find? ssrc' =
    if ssrc' = ssrc then some (reported timing sender) else t.senders.find? ssrc'
  reports : ∀ ssrc', (t'.reportState ssrc').sentSenderReports =
    if ssrc' = ssrc then
      ((t.reportState ssrc').remember now d.datagram.length timing).sentSenderReports
    else (t.reportState ssrc').sentSenderReports

/-- A sender leaves, with a last report if it has a timing of the current source. -/
structure LeavesWith (now : ℤ) (ssrc : UInt32) (sender : OutboundRtcpSenderState)
    (timing : Option OutboundRtcpSenderTiming) (d : SentDatagram) (t t' : OutboundTransport) :
    Prop where
  sentAt : d.sentAt = now
  found : t.senders.find? ssrc = some sender
  used : sender.packetCount ≠ 0
  said : ∃ reason compound, OutboundTransport.buildByeDatagram reason sender timing = .ok compound ∧
    d.content = .bye ssrc (timing.map (makeSenderReport sender)) compound
  history : t'.history = t.history
  senders : ∀ ssrc', t'.senders.find? ssrc' =
    if ssrc' = ssrc then some (timing.elim sender fun timing => reported timing sender)
    else t.senders.find? ssrc'
  reports : ∀ ssrc',
    (t'.reportState ssrc').sentSenderReports = (t.reportState ssrc').sentSenderReports

/-- What a transport does at one time, with what it sends there. -/
inductive Emits (now : ℤ) : OutboundTransport → List SentDatagram → OutboundTransport → Prop
  | silent {t t' : OutboundTransport} :
      SameAccounts t t' → HistoryKept now t.history t'.history → Emits now t [] t'
  | forwards {t t' : OutboundTransport} {d : SentDatagram} {fields : RtpFields} :
      Forwards now d fields t t' → Emits now t [d] t'
  | reports {t t' : OutboundTransport} {d : SentDatagram} {ssrc : UInt32}
      {sender : OutboundRtcpSenderState} {timing : OutboundRtcpSenderTiming} :
      ReportsOn now ssrc sender timing d t t' → Emits now t [d] t'
  | leaves {t t' : OutboundTransport} {d : SentDatagram} {ssrc : UInt32}
      {sender : OutboundRtcpSenderState} {timing : Option OutboundRtcpSenderTiming} :
      LeavesWith now ssrc sender timing d t t' → Emits now t [d] t'
  | trans {t t' t'' : OutboundTransport} {sent more : List SentDatagram} :
      Emits now t sent t' → Emits now t' more t'' → Emits now t (sent ++ more) t''

namespace SameAccounts
variable {t t' t'' : OutboundTransport}

theorem refl (t : OutboundTransport) : SameAccounts t t := ⟨fun _ => rfl, fun _ => rfl⟩

theorem trans (h : SameAccounts t t') (h' : SameAccounts t' t'') : SameAccounts t t'' :=
  ⟨fun ssrc => (h'.senders ssrc).trans (h.senders ssrc),
    fun ssrc => (h'.reports ssrc).trans (h.reports ssrc)⟩

theorem of_senders {media : MediaTransport}
    (h : ∀ ssrc, (media.session.outboundRtcpSenders.find? ssrc).map untimed =
      (t.senders.find? ssrc).map untimed) : SameAccounts t { t with media } :=
  ⟨h, fun _ => rfl⟩

theorem of_unsent {media : MediaTransport} (h : Unsent t.media media) :
    SameAccounts t { t with media } :=
  of_senders fun ssrc => by rw [h.senders]; rfl

end SameAccounts

namespace Emits
variable {now : ℤ} {t t' t'' : OutboundTransport}

theorem of_unsent {media : MediaTransport} (h : Unsent t.media media) :
    Emits now t [] { t with media } := by
  refine .silent (.of_unsent h) ?_
  have hhistory : ({ t with media } : OutboundTransport).history = t.history := h.history
  rw [hhistory]
  exact .same _

theorem refl (t : OutboundTransport) : Emits now t [] t := .silent (.refl t) (.same _)

/-- A step which sends nothing in front of the others. -/
theorem after {sent : List SentDatagram} (h : Emits now t [] t') (h' : Emits now t' sent t'') :
    Emits now t sent t'' :=
  h.trans h'

/-- A step which sends nothing behind the others. -/
theorem andThen {sent : List SentDatagram} (h : Emits now t sent t') (h' : Emits now t' [] t'') :
    Emits now t sent t'' := by
  have htrans := h.trans h'
  rwa [List.append_nil] at htrans

end Emits

/-! ## Timings -/

theorem find?_retimed (senders : AssocMap UInt32 OutboundRtcpSenderState)
    (f : UInt32 → OutboundRtcpSenderState → OutboundRtcpSenderState)
    (h : ∀ ssrc sender, untimed (f ssrc sender) = untimed sender) (ssrc : UInt32) :
    ((senders.mapValues f).find? ssrc).map untimed = (senders.find? ssrc).map untimed := by
  rw [AssocMap.find?_mapValues, Option.map_map]
  cases senders.find? ssrc with
  | none => rfl
  | some sender => simp only [Option.map_some, Function.comp_apply, h]

theorem refreshSenderTiming_untimed (t : WhepSessionTransport) (sourceSsrc ssrc : UInt32) :
    ((t.refreshSenderTiming sourceSsrc).outboundRtcpSenders.find? ssrc).map untimed =
      (t.outboundRtcpSenders.find? ssrc).map untimed := by
  rcases refreshSenderTiming_cases t sourceSsrc with heq | ⟨known, mapped, -, -, heq⟩
  · rw [heq]
  · rw [heq]
    refine find?_retimed _ _ (fun ssrc sender => ?_) ssrc
    split_ifs <;> rfl

theorem handlePublisherSenderTiming_untimed (t : WhepSessionTransport)
    (timing : MediaPublisherSenderTiming) (ssrc : UInt32) :
    ((t.handlePublisherSenderTiming timing).outboundRtcpSenders.find? ssrc).map untimed =
      (t.outboundRtcpSenders.find? ssrc).map untimed := by
  unfold WhepSessionTransport.handlePublisherSenderTiming
  split
  · rfl
  · split_ifs
    · rfl
    · exact refreshSenderTiming_untimed _ _ ssrc

theorem handlePublisherSourceBye_untimed (t : WhepSessionTransport)
    (bye : MediaPublisherSourceBye) (ssrc : UInt32) :
    ((t.handlePublisherSourceBye bye).outboundRtcpSenders.find? ssrc).map untimed =
      (t.outboundRtcpSenders.find? ssrc).map untimed := by
  unfold WhepSessionTransport.handlePublisherSourceBye
  split
  · rfl
  · split_ifs
    · rfl
    · refine find?_retimed _ _ (fun ssrc sender => ?_) ssrc
      split_ifs <;> rfl

theorem acceptPublisherSource_untimed (t : WhepSessionTransport)
    (update : MediaPublisherSourceUpdate) (ssrc : UInt32) :
    ((t.acceptPublisherSource update).1.outboundRtcpSenders.find? ssrc).map untimed =
      (t.outboundRtcpSenders.find? ssrc).map untimed := by
  have hrebuilt : ∀ t : WhepSessionTransport,
      t.rebuildRtpRewriter.1.outboundRtcpSenders = t.outboundRtcpSenders := by
    intro t
    unfold WhepSessionTransport.rebuildRtpRewriter
    split
    · rfl
    · split <;> rfl
  unfold WhepSessionTransport.acceptPublisherSource
  simp only
  rw [hrebuilt]
  split_ifs
  · exact find?_retimed t.outboundRtcpSenders
      (fun _ sender => { sender with senderTiming := none }) (fun _ _ => rfl) ssrc
  · rfl

/-! ## Packets -/

theorem find?_countOutboundRtp (t : WhepSessionTransport) (fields : RtpFields) (ssrc : UInt32) :
    (t.countOutboundRtp fields.targetSsrc fields.payloadSize
        fields.targetTimestamp).outboundRtcpSenders.find? ssrc =
      (t.outboundRtcpSenders.find? ssrc).map fun sender =>
        if ssrc = fields.targetSsrc then counted fields sender else sender :=
  AssocMap.find?_mapValues _ _ _

theorem recordOutboundRtpSent_untimed (t : WhepSessionTransport) (rewritten : RewriteResult)
    (ssrc : UInt32) :
    ((t.recordOutboundRtpSent rewritten).outboundRtcpSenders.find? ssrc).map untimed =
      ((t.countOutboundRtp rewritten.targetSsrc rewritten.payloadSize
        rewritten.targetTimestamp).outboundRtcpSenders.find? ssrc).map untimed := by
  unfold WhepSessionTransport.recordOutboundRtpSent
  simp only
  split
  · rfl
  · split_ifs
    · exact refreshSenderTiming_untimed _ _ ssrc
    · rfl

theorem history_rememberSent (t : MediaTransport) (now : ℤ) (packetSize : ℕ) (rtx : Bool)
    (number : Option UInt16) :
    (t.rememberSent now packetSize rtx number).transportFeedbackHistory =
      if number.isSome then
        t.transportFeedbackHistory.rememberSent
          { packetSize, retransmission := rtx, sentAt := now }
      else t.transportFeedbackHistory := by
  unfold MediaTransport.rememberSent
  split_ifs <;> rfl

theorem history_cacheRewrittenRtp (t : MediaTransport) (now : ℤ) (sourceGeneration : ℕ)
    (rewritten : RewriteResult) :
    (t.cacheRewrittenRtp now sourceGeneration rewritten).transportFeedbackHistory =
      t.transportFeedbackHistory := by
  unfold MediaTransport.cacheRewrittenRtp
  split_ifs <;> rfl

/-- A packet the rewriter returns carries the number it was given, or none. -/
theorem rewrite_transportSequenceNumber {s : Impl} {packet : List UInt8} {given : UInt16}
    {rewritten : RewriteResult} (h : (s.rewrite packet given).2 = .ok rewritten)
    (hstate : rewritten.state = .rewritten) :
    ∀ number ∈ rewritten.transportSequenceNumber, number = given := by
  intro number hnumber
  rcases s.rewrite_cases packet given with ⟨-, hnone⟩ |
    ⟨parsed, resolved, bound, -, -, hbind, heq⟩
  · rw [h] at hnone
    have hdropped : rewritten.state = .dropped := hnone
    rw [hstate] at hdropped
    cases hdropped
  · rw [heq] at h
    obtain ⟨-, -, hemit⟩ := rewriteBound_emits hbind h hstate
    obtain ⟨block, targetTimestamp, -, rfl⟩ := emit_result hemit
    simp only [rewrittenResult, Option.mem_def] at hnumber
    split_ifs at hnumber
    exact (Option.some.inj hnumber).symm

/-- The packet as its section sends it again, before the transport-wide number is written. -/
inductive Rebuilt (mapping : MediaMapping) (packet : List UInt8) (parsed : ParsedRtpPacket) :
    RetransmissionResult → Prop
  | original (primary : PayloadTypeMapping) :
      Rebuilt mapping packet parsed (originalResult mapping primary packet parsed)
  | rtx (primary rtx : PayloadTypeMapping) (sequenceNumber : UInt16) :
      Rebuilt mapping packet parsed (rtxResult mapping primary rtx packet parsed sequenceNumber)

theorem buildRetransmission_rebuilt {s : Impl} {packet : List UInt8} {given : UInt16}
    {built : RetransmissionResult} (h : (s.buildRetransmission packet given).2 = .ok built) :
    ∃ mapping parsed result, parseRewriteableRtpPacket packet = .ok parsed ∧
      Rebuilt mapping packet parsed result ∧ stampTransportCc mapping given result = .ok built := by
  rcases s.buildRetransmission_cases packet given with ⟨-, hnone⟩ |
    ⟨parsed, index, current, hparse, -, -, heq⟩
  · rw [h] at hnone
    cases hnone
  · rw [heq] at h
    unfold retransmit at h
    simp only at h
    split at h
    · cases h
    · split_ifs at h
      split at h
      · exact ⟨_, parsed, _, hparse, .original _, h⟩
      · exact ⟨_, parsed, _, hparse, .rtx _ _ _, h⟩

/-- A number is written, or the section has none. -/
theorem stampTransportCc_ok {mapping : MediaMapping} {given : UInt16}
    {result stamped : RetransmissionResult}
    (h : stampTransportCc mapping given result = .ok stamped) :
    stamped = result ∨ ∃ packet,
      stamped = { result with packet, transportSequenceNumber := some given } := by
  unfold stampTransportCc at h
  split_ifs at h
  · exact .inl (Except.ok.inj h).symm
  · split at h
    · cases h
    · exact .inr ⟨_, (Except.ok.inj h).symm⟩

/-- So does a packet which is sent again. -/
theorem buildRetransmission_transportSequenceNumber {s : Impl} {packet : List UInt8}
    {given : UInt16} {built : RetransmissionResult}
    (h : (s.buildRetransmission packet given).2 = .ok built) :
    ∀ number ∈ built.transportSequenceNumber, number = given := by
  obtain ⟨mapping, parsed, result, -, hrebuilt, hstamped⟩ := buildRetransmission_rebuilt h
  have hnone : result.transportSequenceNumber = none := by
    cases hrebuilt with
    | original => rfl
    | rtx => rfl
  intro number hnumber
  rcases stampTransportCc_ok hstamped with rfl | ⟨stamped, rfl⟩
  · rw [hnone] at hnumber
    cases hnumber
  · exact (Option.some.inj hnumber).symm

/-- The transport once the rewriter has built a packet to send again. -/
def rebuilt (t : MediaTransport) (cached : CachePacket) : MediaTransport :=
  { t with
    session := { t.session with
      rtpRewriter := (t.session.rtpRewriter.buildRetransmission cached.packet
        t.transportFeedbackHistory.nextSequenceNumber).1 } }

/-- A packet which is sent again is one the rewriter has built and the SRTP transport
protected. -/
structure Repeats (t : MediaTransport) (answer : Except Text Srtp.SrtpPacketProcessResult)
    (cached : CachePacket) (built : RetransmissionResult) (datagram : List UInt8) : Prop where
  built : (t.session.rtpRewriter.buildRetransmission cached.packet
    t.transportFeedbackHistory.nextSequenceNumber).2 = .ok built
  opened : t.session.closed = false
  datagram : protectedDatagram answer = some datagram

theorem sendRetransmission_cases (now : ℤ) (answer : Except Text Srtp.SrtpPacketProcessResult)
    (t : MediaTransport) (cached : CachePacket) :
    sendRetransmission now answer t cached = (rebuilt t cached, none) ∨
    ∃ built datagram, Repeats t answer cached built datagram ∧
      sendRetransmission now answer t cached =
        (recordRetransmission now datagram built (rebuilt t cached),
          some
            { content := .retransmission cached built
              datagram
              sentAt := now }) := by
  unfold sendRetransmission
  cases hbuilt : (t.session.rtpRewriter.buildRetransmission cached.packet
      t.transportFeedbackHistory.nextSequenceNumber).2 with
  | error e => exact .inl (by simp only [hbuilt]; rfl)
  | ok built =>
      simp only [hbuilt]
      split_ifs with hopen
      · exact .inl rfl
      · rw [not_or, Bool.not_eq_true] at hopen
        cases hdatagram : protectedDatagram answer with
        | none => exact .inl rfl
        | some datagram => exact .inr ⟨built, datagram, ⟨hbuilt, hopen.1, hdatagram⟩, rfl⟩

/-! ## Events -/

namespace Emits
variable {now : ℤ} {t : OutboundTransport}

theorem sendRtp (routing : RouterState) (now : ℤ) (srtp : SrtpAnswers) (sourceGeneration : ℕ)
    (plainRtp : List UInt8) (t : OutboundTransport) :
    Emits now t (t.sendRtp routing now srtp sourceGeneration plainRtp).2
      (t.sendRtp routing now srtp sourceGeneration plainRtp).1 := by
  have hrewrote : Emits now t [] { t with media := t.media.rewrote plainRtp } :=
    .silent (.of_senders fun _ => rfl) (.same _)
  unfold OutboundTransport.sendRtp Recovering.sendRtp
  rcases MediaTransport.forwardRtp_cases t.media now srtp sourceGeneration plainRtp with
    heq | heq | ⟨rewritten, datagram, hsends, heq⟩
  · simp only [heq, Option.toList_none, List.map_nil]
    exact refl t
  · simp only [heq, Option.toList_none, List.map_nil]
    exact hrewrote
  · simp only [heq, Option.toList_some, List.map_singleton, hsends.datagram, Option.getD_some]
    let recorded : OutboundTransport := { t with
      media := (t.media.rewrote plainRtp).recordSent now sourceGeneration datagram rewritten }
    let sent : SentDatagram :=
      { content := .rtp sourceGeneration rewritten, datagram, sentAt := now }
    have hforwards : Forwards now sent (rewrittenFields rewritten)
        { t with media := t.media.rewrote plainRtp } recorded := by
      refine ⟨rfl, rfl, rewrite_transportSequenceNumber hsends.rewrite hsends.state, ?_,
        fun ssrc => ?_, fun _ => rfl⟩
      · change ((t.media.rewrote plainRtp).recordSent now sourceGeneration datagram
          rewritten).transportFeedbackHistory = _
        rw [MediaTransport.recordSent]
        simp only
        rw [history_cacheRewrittenRtp, history_rememberSent]
        rfl
      · change (((t.media.rewrote plainRtp).recordSent now sourceGeneration datagram
          rewritten).session.outboundRtcpSenders.find? ssrc).map untimed = _
        rw [MediaTransport.recordSent_session, recordOutboundRtpSent_untimed]
        have hcounted := find?_countOutboundRtp (t.media.rewrote plainRtp).session
          (rewrittenFields rewritten) ssrc
        refine (congrArg (Option.map untimed) hcounted).trans ?_
        rw [Option.map_map]
        rfl
    exact hrewrote.after ((forwards hforwards).andThen
      (of_unsent (.followKeyframes ⟨routing, recorded.media⟩ sourceGeneration rewritten)))

theorem sendRetransmission (now : ℤ) (answer : Except Text Srtp.SrtpPacketProcessResult)
    (cached : CachePacket) (t : OutboundTransport) :
    Emits now t (WhepOutbound.sendRetransmission now answer t.media cached).2.toList
      { t with media := (WhepOutbound.sendRetransmission now answer t.media cached).1 } := by
  have hrebuilt : Emits now t [] { t with media := rebuilt t.media cached } :=
    .silent (.of_senders fun _ => rfl) (.same _)
  rcases sendRetransmission_cases now answer t.media cached with
    heq | ⟨built, datagram, hrepeats, heq⟩
  · rw [heq]
    exact hrebuilt
  · rw [heq]
    refine hrebuilt.after (.forwards ⟨rfl, rfl, ?_, ?_, ?_, fun _ => rfl⟩)
    · exact buildRetransmission_transportSequenceNumber hrepeats.built
    · exact history_rememberSent (rebuilt t.media cached) _ _ _ _
    · intro ssrc
      have hsession : ((rebuilt t.media cached).rememberSent now datagram.length true
          built.transportSequenceNumber).session = (rebuilt t.media cached).session :=
        MediaTransport.rememberSent_session _ _ _ _ _
      have hcounted := find?_countOutboundRtp (rebuilt t.media cached).session (builtFields built)
        ssrc
      rw [← hsession] at hcounted
      refine (congrArg (Option.map untimed) hcounted).trans ?_
      rw [hsession, Option.map_map]
      rfl

theorem sendRetransmissions (now : ℤ) (srtp : SrtpAnswers) (retransmissions : List CachePacket)
    (index : ℕ) (t : OutboundTransport) :
    Emits now t (WhepOutbound.sendRetransmissions now srtp index retransmissions t.media).2
      { t with
        media :=
          (WhepOutbound.sendRetransmissions now srtp index retransmissions t.media).1 } := by
  induction retransmissions generalizing index t with
  | nil => exact refl t
  | cons cached retransmissions ih =>
      exact (sendRetransmission now (srtp.protect index) cached t).trans
        (ih (index + 1) { t with media := _ })

theorem handleGenericNacks (now : ℤ) (srtp : SrtpAnswers)
    (compound : RtcpCompoundPacket.RtcpCompoundPacket) (t : OutboundTransport) :
    Emits now t (WhepOutbound.handleGenericNacks now srtp compound t.media).2
      { t with media := (WhepOutbound.handleGenericNacks now srtp compound t.media).1 } := by
  have hlookups : ∀ retransmissionCache,
      Emits now t [] { t with media := { t.media with retransmissionCache } } :=
    fun _ => .silent (.of_senders fun _ => rfl) (.same _)
  exact (hlookups _).after (sendRetransmissions now srtp _ 0 { t with media := _ })

theorem observes (feedback : ParsedRtcpTransportFeedback) (now : ℤ) (t : OutboundTransport) :
    Emits now t [] { t with
      media := { t.media with
        transportFeedbackHistory := (t.history.observe feedback now).1 } } :=
  .silent (.of_senders fun _ => rfl) (.observes _ _)

theorem handleTransportFeedback (now : ℤ) (compound : RtcpCompoundPacket.RtcpCompoundPacket)
    (t : OutboundTransport) :
    Emits now t []
      { t with media := WhepOutbound.handleTransportFeedback now compound t.media } := by
  unfold WhepOutbound.handleTransportFeedback
  generalize compound.blocks.filterMap RtcpCompoundBlock.transportFeedback = reported
  induction reported generalizing t with
  | nil => exact refl t
  | cons feedback reported ih => exact (observes feedback now t).after (ih _)

theorem recordReportBlock (now : ℤ) (t : OutboundTransport) (block : RtcpReportBlock) :
    SameAccounts t (t.recordReportBlock now block) := by
  unfold OutboundTransport.recordReportBlock
  split_ifs
  · exact .refl t
  · refine ⟨fun _ => rfl, fun ssrc => ?_⟩
    rw [OutboundTransport.reportState, AssocMap.find?_insertOrAssign]
    split_ifs with heq
    · rw [heq]
      rfl
    · rfl

theorem recordReceiverReports (now : ℤ) (reports : List RtcpReportPacket) (t : OutboundTransport) :
    SameAccounts t (t.recordReceiverReports now reports) ∧
      (t.recordReceiverReports now reports).media = t.media := by
  unfold OutboundTransport.recordReceiverReports
  generalize reports.flatMap RtcpReportPacket.reportBlocks = blocks
  induction blocks generalizing t with
  | nil => exact ⟨.refl t, rfl⟩
  | cons block blocks ih =>
      have hmedia : (t.recordReportBlock now block).media = t.media := by
        unfold OutboundTransport.recordReportBlock
        split_ifs <;> rfl
      obtain ⟨hsame, hrest⟩ := ih (t.recordReportBlock now block)
      exact ⟨(recordReportBlock now t block).trans hsame, hrest.trans hmedia⟩

theorem handleInboundRtcp (routing : RouterState) (now : ℤ) (srtp : SrtpAnswers)
    (plainRtcp : List UInt8) (t : OutboundTransport) :
    Emits now t (t.handleInboundRtcp routing now srtp plainRtcp).2
      (t.handleInboundRtcp routing now srtp plainRtcp).1 := by
  unfold OutboundTransport.handleInboundRtcp
  split
  · exact refl t
  · rename_i compound _
    obtain ⟨hsame, hmedia⟩ := recordReceiverReports now compound.reportPackets t
    have hhistory : (t.recordReceiverReports now compound.reportPackets).history = t.history := by
      rw [OutboundTransport.history, hmedia]
      rfl
    have hrecorded : Emits now t [] (t.recordReceiverReports now compound.reportPackets) :=
      .silent hsame (hhistory ▸ .same _)
    have hnacks := handleGenericNacks now srtp compound
      (t.recordReceiverReports now compound.reportPackets)
    have hfeedback := handleTransportFeedback now compound
      { t.recordReceiverReports now compound.reportPackets with
        media := (WhepOutbound.handleGenericNacks now srtp compound
          (t.recordReceiverReports now compound.reportPackets).media).1 }
    exact hrecorded.after ((hnacks.andThen hfeedback).andThen
      (of_unsent (.handleKeyframeFeedback compound ⟨routing, _⟩)))

theorem reportSender (now : ℤ) (answer : Except Text Srtp.SrtpPacketProcessResult)
    (ssrc : UInt32) (t : OutboundTransport) :
    Emits now t (t.reportSender now answer ssrc).2.toList (t.reportSender now answer ssrc).1 := by
  unfold OutboundTransport.reportSender
  cases hsender : t.media.session.outboundRtcpSenders.find? ssrc with
  | none => exact refl t
  | some sender =>
      simp only
      cases hdue : dueTiming t.media.session.publisherSourceGeneration sender with
      | none => exact refl t
      | some timing =>
          simp only
          cases hbuilt : buildSenderReportDatagram sender (makeSenderReport sender timing) with
          | error e => exact refl t
          | ok compound =>
              simp only
              cases protectedDatagram answer with
              | none => exact refl t
              | some datagram =>
                  refine .reports ⟨rfl, hsender, hdue, ⟨compound, hbuilt, rfl⟩, rfl,
                    fun ssrc' => ?_, fun ssrc' => ?_⟩
                  · exact (AssocMap.find?_insertOrAssign _ _ _ _).trans
                      (by simp only [eq_comm]; rfl)
                  · rw [OutboundTransport.reportState, AssocMap.find?_insertOrAssign]
                    by_cases heq : ssrc' = ssrc
                    · rw [heq, if_pos rfl, if_pos rfl]
                      rfl
                    · rw [if_neg heq, if_neg heq]
                      rfl

theorem leaveSender (ssrc : UInt32) (size : ℕ) (sender : OutboundRtcpSenderState)
    (timing : Option OutboundRtcpSenderTiming) (t : OutboundTransport)
    (hsender : t.senders.find? ssrc = some sender) :
    (t.leaveSender ssrc size sender timing).history = t.history ∧
      (∀ ssrc', (t.leaveSender ssrc size sender timing).senders.find? ssrc' =
        if ssrc' = ssrc then some (timing.elim sender fun timing => reported timing sender)
        else t.senders.find? ssrc') ∧
      ∀ ssrc', ((t.leaveSender ssrc size sender timing).reportState ssrc').sentSenderReports =
        (t.reportState ssrc').sentSenderReports := by
  unfold OutboundTransport.leaveSender
  cases timing with
  | none =>
      refine ⟨rfl, fun ssrc' => ?_, fun _ => rfl⟩
      split_ifs with heq
      · rw [heq]
        exact hsender
      · rfl
  | some timing =>
      refine ⟨rfl, fun ssrc' => ?_, fun ssrc' => ?_⟩
      · exact (AssocMap.find?_insertOrAssign _ _ _ _).trans (by simp only [eq_comm]; rfl)
      · rw [OutboundTransport.reportState, AssocMap.find?_insertOrAssign]
        split_ifs with heq
        · rw [← heq]
          rfl
        · rfl

theorem byeSender (reason : Text) (now : ℤ) (answer : Except Text Srtp.SrtpPacketProcessResult)
    (ssrc : UInt32) (t : OutboundTransport) :
    Emits now t (t.byeSender reason now answer ssrc).2.toList
      (t.byeSender reason now answer ssrc).1 := by
  unfold OutboundTransport.byeSender
  cases hsender : t.media.session.outboundRtcpSenders.find? ssrc with
  | none => exact refl t
  | some sender =>
      simp only
      split_ifs with hunused
      · exact refl t
      · obtain ⟨-, -, hused⟩ : ¬_ ∧ ¬_ ∧ ¬_ := by rwa [not_or, not_or] at hunused
        cases hbuilt : OutboundTransport.buildByeDatagram reason sender
          (OutboundTransport.closingTiming t.media.session.publisherSourceGeneration sender) with
        | error e => exact refl t
        | ok compound =>
            simp only
            cases protectedDatagram answer with
            | none => exact refl t
            | some datagram =>
                obtain ⟨hhistory, hsenders, hreports⟩ := leaveSender ssrc datagram.length sender
                  (OutboundTransport.closingTiming t.media.session.publisherSourceGeneration sender)
                  t hsender
                exact .leaves ⟨rfl, hsender, hused, ⟨reason, compound, hbuilt, rfl⟩, hhistory,
                  hsenders, hreports⟩

theorem eachSender
    {send : OutboundTransport → ℕ → UInt32 → OutboundTransport × Option SentDatagram}
    (h : ∀ t index ssrc, Emits now t (send t index ssrc).2.toList (send t index ssrc).1)
    (ssrcs : List UInt32) (index : ℕ) (t : OutboundTransport) :
    Emits now t (OutboundTransport.eachSender send index ssrcs t).2
      (OutboundTransport.eachSender send index ssrcs t).1 := by
  induction ssrcs generalizing index t with
  | nil => exact refl t
  | cons ssrc ssrcs ih => exact (h t index ssrc).trans (ih (index + 1) _)

theorem sendRtcpSenderReports (order : VisitOrder UInt32) (now : ℤ) (srtp : SrtpAnswers)
    (t : OutboundTransport) :
    Emits now t (t.sendRtcpSenderReports order now srtp).2
      (t.sendRtcpSenderReports order now srtp).1 := by
  unfold OutboundTransport.sendRtcpSenderReports
  split_ifs
  · exact refl t
  · exact eachSender (fun t _ ssrc => reportSender now _ ssrc t) _ _ t

theorem sendRtcpBye (order : VisitOrder UInt32) (reason : Text) (now : ℤ) (srtp : SrtpAnswers)
    (t : OutboundTransport) :
    Emits now t (t.sendRtcpBye order reason now srtp).2
      (t.sendRtcpBye order reason now srtp).1 := by
  unfold OutboundTransport.sendRtcpBye
  split_ifs
  · exact refl t
  · exact eachSender (fun t _ ssrc => byeSender reason now _ ssrc t) _ _ t

theorem logMediaSummary (active : Bool) (now : ℤ) (t : OutboundTransport) :
    Emits now t [] (t.logMediaSummary active now) := by
  unfold OutboundTransport.logMediaSummary
  split_ifs
  · exact refl t
  · exact .silent (.of_senders fun _ => rfl) (.expires _)

theorem close (order : VisitOrder UInt32) (reason : Text) (active : Bool) (now : ℤ)
    (srtp : SrtpAnswers) (t : OutboundTransport) :
    Emits now t (t.close order reason active now srtp).2
      (t.close order reason active now srtp).1 := by
  unfold OutboundTransport.close
  split_ifs
  · exact refl t
  · have hbegun : Emits now t [] t.beginClose := .silent (.of_senders fun _ => rfl) (.same _)
    have hfinal : ∀ t : OutboundTransport, Emits now t [] (t.logFinalSummary now) :=
      fun _ => .silent (.of_senders fun _ => rfl) (.expires _)
    have hshut : ∀ t : OutboundTransport, Emits now t [] { t with
        media := { t.media with session := t.media.session.shutDown } } :=
      fun _ => .silent (.of_senders fun _ => rfl) (.same _)
    exact hbegun.after ((((sendRtcpBye order reason now srtp _).andThen
      (logMediaSummary active now _)).andThen (hfinal _)).andThen (hshut _))

end Emits

/-! ## Runs -/

/-- What a subscriber's transport meets. The source update which the source's offer is
incompatible with takes the failure handler; what the handler then does is an event of its own. -/
inductive OutboundEvent where
  | publisherSource (update : MediaPublisherSourceUpdate)
  | publisherSenderTiming (timing : MediaPublisherSenderTiming)
  | publisherSourceBye (bye : MediaPublisherSourceBye)
  | sendRtp (routing : RouterState) (now : ℤ) (srtp : SrtpAnswers) (sourceGeneration : ℕ)
      (plainRtp : List UInt8)
  | inboundRtcp (routing : RouterState) (now : ℤ) (srtp : SrtpAnswers) (plainRtcp : List UInt8)
  | nominate (routing : RouterState) (endpoint : Stun.UdpEndpoint) (rebound : Except Text Bool)
  | senderReports (order : VisitOrder UInt32) (now : ℤ) (srtp : SrtpAnswers)
  | logMediaSummary (active : Bool) (now : ℤ)
  | close (order : VisitOrder UInt32) (reason : Text) (active : Bool) (now : ℤ)
      (srtp : SrtpAnswers)

namespace OutboundTransport
variable (t : OutboundTransport)

/-- `handle_publisher_source`. -/
def handlePublisherSource (update : MediaPublisherSourceUpdate) : OutboundTransport :=
  if update.generation < t.media.session.publisherSourceGeneration then t
  else
    let accepted := t.media.acceptPublisherSource update
    { t with
      media :=
        if accepted.2 then accepted.1
        else { accepted.1 with session := accepted.1.session.takeFailureHandler } }

def perform : OutboundEvent → OutboundTransport × List SentDatagram
  | .publisherSource update => (t.handlePublisherSource update, [])
  | .publisherSenderTiming timing =>
      ({ t with media := t.media.handlePublisherSenderTiming timing }, [])
  | .publisherSourceBye bye => ({ t with media := t.media.handlePublisherSourceBye bye }, [])
  | .sendRtp routing now srtp sourceGeneration plainRtp =>
      t.sendRtp routing now srtp sourceGeneration plainRtp
  | .inboundRtcp routing now srtp plainRtcp => t.handleInboundRtcp routing now srtp plainRtcp
  | .nominate routing endpoint rebound =>
      ({ t with media := (Recovering.nominate endpoint rebound ⟨routing, t.media⟩).transport }, [])
  | .senderReports order now srtp => t.sendRtcpSenderReports order now srtp
  | .logMediaSummary active now => (t.logMediaSummary active now, [])
  | .close order reason active now srtp => t.close order reason active now srtp

end OutboundTransport

/-- The time an event reads off the steady clock, which does not go back. -/
def OutboundEvent.at (before : ℤ) : OutboundEvent → ℤ
  | .publisherSource _ => before
  | .publisherSenderTiming _ => before
  | .publisherSourceBye _ => before
  | .sendRtp _ now _ _ _ => now
  | .inboundRtcp _ now _ _ => now
  | .nominate _ _ _ => before
  | .senderReports _ now _ => now
  | .logMediaSummary _ now => now
  | .close _ _ _ now _ => now

/-- A transport next to what it has sent so far. -/
structure Outbound where
  transport : OutboundTransport
  sent : List SentDatagram := []
  now : ℤ

namespace Outbound

def step (w : Outbound) (event : OutboundEvent) : Option Outbound :=
  if w.now ≤ event.at w.now then
    some
      { transport := (w.transport.perform event).1
        sent := w.sent ++ (w.transport.perform event).2
        now := event.at w.now }
  else none

/-- A session begins with the peer it was answered for, and nothing sent. -/
def initial (w : Outbound) : Prop :=
  ∃ streamId sessionId target now,
    w = { transport := { media := .create streamId sessionId target }, now }

def system : EventSystem Outbound OutboundEvent := .ofStep initial step

end Outbound

theorem Emits.perform (event : OutboundEvent) (before : ℤ) (t : OutboundTransport) :
    Emits (event.at before) t (t.perform event).2 (t.perform event).1 := by
  cases event with
  | publisherSource update =>
      have haccepted : ∀ session : WhepSessionTransport,
          session.outboundRtcpSenders =
            (t.media.session.acceptPublisherSource update).1.outboundRtcpSenders →
          ∀ ssrc, (session.outboundRtcpSenders.find? ssrc).map untimed =
            (t.senders.find? ssrc).map untimed := by
        intro session hsame ssrc
        rw [hsame]
        exact acceptPublisherSource_untimed _ _ ssrc
      change Emits _ t [] (t.handlePublisherSource update)
      unfold OutboundTransport.handlePublisherSource
      simp only
      split_ifs
      · exact refl t
      · exact .silent (.of_senders (haccepted _ rfl)) (.same _)
      · exact .silent (.of_senders (haccepted _ rfl)) (.same _)
  | publisherSenderTiming timing =>
      exact .silent (.of_senders fun ssrc => handlePublisherSenderTiming_untimed _ _ ssrc) (.same _)
  | publisherSourceBye bye =>
      exact .silent (.of_senders fun ssrc => handlePublisherSourceBye_untimed _ _ ssrc) (.same _)
  | sendRtp routing now srtp sourceGeneration plainRtp =>
      exact sendRtp routing now srtp sourceGeneration plainRtp t
  | inboundRtcp routing now srtp plainRtcp => exact handleInboundRtcp routing now srtp plainRtcp t
  | nominate routing endpoint rebound => exact of_unsent (.nominate _ _ ⟨routing, t.media⟩)
  | senderReports order now srtp => exact sendRtcpSenderReports order now srtp t
  | logMediaSummary active now => exact logMediaSummary active now t
  | close order reason active now srtp => exact close order reason active now srtp t

/-- What every kind of small step keeps. -/
theorem Emits.kept {now : ℤ} {kept : List SentDatagram → OutboundTransport → Prop}
    (hsilent : ∀ {sent t t'}, SameAccounts t t' → HistoryKept now t.history t'.history →
      kept sent t → kept sent t')
    (hforwards : ∀ {sent t t' d fields}, Forwards now d fields t t' → kept sent t →
      kept (sent ++ [d]) t')
    (hreports : ∀ {sent t t' d ssrc sender timing}, ReportsOn now ssrc sender timing d t t' →
      kept sent t → kept (sent ++ [d]) t')
    (hleaves : ∀ {sent t t' d ssrc sender timing}, LeavesWith now ssrc sender timing d t t' →
      kept sent t → kept (sent ++ [d]) t')
    {t t' : OutboundTransport} {more : List SentDatagram} (h : Emits now t more t')
    (sent : List SentDatagram) (hkept : kept sent t) : kept (sent ++ more) t' := by
  induction h generalizing sent with
  | silent hsame hhistory =>
      rw [List.append_nil]
      exact hsilent hsame hhistory hkept
  | forwards hd => exact hforwards hd hkept
  | reports hd => exact hreports hd hkept
  | leaves hd => exact hleaves hd hkept
  | trans _ _ ih ih' =>
      rw [← List.append_assoc]
      exact ih' _ (ih _ hkept)

/-- What holds of a transport with nothing sent, and is kept while time passes and by what is done
at one time, holds in every run. -/
theorem Outbound.run_kept {kept : ℤ → List SentDatagram → OutboundTransport → Prop}
    (hinitial : ∀ now streamId sessionId target,
      kept now [] { media := .create streamId sessionId target })
    (hlater : ∀ {now now' sent t}, now ≤ now' → kept now sent t → kept now' sent t)
    (hstep : ∀ {now t more t'}, Emits now t more t' → ∀ sent, kept now sent t →
      kept now (sent ++ more) t')
    {events : List OutboundEvent} {w : Outbound} (h : Outbound.system.Run events w) :
    kept w.now w.sent w.transport := by
  refine @EventSystem.Run.invariant _ _ _ (fun w => kept w.now w.sent w.transport) ?_ ?_ _ _ h
  · intro w hw
    obtain ⟨streamId, sessionId, target, now, rfl⟩ := hw
    exact hinitial now streamId sessionId target
  · intro w event w' hw hperformed
    obtain ⟨hlate, heq⟩ := Option.ite_none_right_eq_some.mp hperformed
    obtain rfl := Option.some.inj heq
    exact hstep (.perform event w.now w.transport) _ (hlater hlate hw)

/-! ## A packet which is asked for again -/

/-- VP8 with generic NACK and transport-wide numbers. -/
def numberedTarget : WhepRtpRewriterTarget where
  subscriberOffer :=
    { bundleMids := [ascii "v"]
      media := [{ ConfiguredRewriter.vp8Media (ascii "v") .recvOnly 72 with
        codecs := [{ payloadType := 72
                     name := ascii "VP8"
                     clockRate := 90000
                     rtcpFeedback := [ascii "nack", ascii "transport-cc"] }]
        headerExtensions := [{ id := 5, uri := SdpAnswer.kTransportWideCcExtensionUri }] }] }
  acceptedMlineIndexes := [0]
  acceptedMediaSources :=
    [{ mid := ascii "v", kind := ascii "video", ssrc := 1, cname := ascii "c" }]

def vp8Source : MediaPublisherSource where
  streamId := ascii "live"
  sessionId := ascii "p"
  generation := 1
  offer := ConfiguredRewriter.vp8Publisher

def protecting : SrtpAnswers where
  peerReady := .ok true
  protect _ := .ok { state := .protectedPacket, protectedPacket := [1, 2, 3] }

/-- The number 1 of the SSRC 1 is missing. -/
def nackBytes : List UInt8 := [129, 205, 0, 3, 0, 0, 0, 5, 0, 0, 0, 1, 0, 1, 0, 0]

/-- A packet is sent, reported on and sent again, and the session leaves. -/
def played : List OutboundEvent :=
  [.publisherSource { generation := 1, source := some vp8Source },
    .nominate {} ⟨Stun.loopback, 9⟩ (.ok false),
    .sendRtp {} 0 protecting 1 plainPacket,
    .publisherSenderTiming
      { publisherSessionId := ascii "p"
        sourceGeneration := 1
        sourceSsrc := 9
        ntpTimestamp := 7 * 4294967296
        sourceRtpTimestamp := 100 },
    .senderReports .asStored 1000000 protecting,
    .inboundRtcp {} 30000000 protecting nackBytes,
    .close .asStored (ascii "over") true 40000000 protecting]

def outset : Outbound where
  transport := { media := .create (ascii "live") (ascii "w") numberedTarget }
  now := 0

/-- What can be checked of the state the events lead to. -/
theorem played_run {holds : Outbound → Bool}
    (h : (played.foldlM Outbound.step outset).any holds = true) :
    ∃ w, Outbound.system.Run played w ∧ holds w = true := by
  obtain ⟨w, hw, hholds⟩ := Option.any_eq_true _ _ |>.mp h
  have hstart : Outbound.system.Run [] outset := .start ⟨_, _, _, _, rfl⟩
  exact ⟨w, hstart.exec hw, hholds⟩

end SimpleWebrtc.WhepOutbound
