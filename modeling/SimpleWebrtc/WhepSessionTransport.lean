import SimpleWebrtc.MediaFanoutRouter
import SimpleWebrtc.RewriterConfig
import SimpleWebrtc.RewriterTimestamps
import SimpleWebrtc.SessionStunBinding

/-!
# The transport of a WHEP session

What a subscriber's transport keeps between two events, and what an update of
its publisher source, a sender timing or a BYE of the source changes in it. The
transport reaches the fanout router and the session registry only through
callbacks, so the functions here work on the transport alone; the parts which
call back are put together where all sessions are known.
-/
namespace SimpleWebrtc.WhepSession
open Library Library.Text SdpSummary SdpAnswer RewriterConfig RtpRewriter MediaFanout

structure OutboundRtcpSenderTiming where
  publisherSessionId : Text
  sourceGeneration : ℕ := 0
  sourceSsrc : UInt32 := 0
  ntpTimestamp : UInt64 := 0
  targetRtpTimestamp : UInt32 := 0
  sourceSenderPacketCount : UInt32 := 0
  sourceSenderOctetCount : UInt32 := 0
deriving DecidableEq

structure OutboundRtcpSenderState where
  kind : Text := []
  mid : Text := []
  cname : Text := []
  targetSsrc : UInt32 := 0
  rtx : Bool := false
  associatedPrimarySsrc : UInt32 := 0
  rtcpMux : Bool := false
  rtcpRsize : Bool := false
  packetCount : ℕ := 0
  octetCount : ℕ := 0
  lastTargetRtpTimestamp : Option UInt32 := none
  senderTiming : Option OutboundRtcpSenderTiming := none
  senderReportCount : ℕ := 0
  lastSenderReportSourceGeneration : ℕ := 0
  lastSenderReportNtpTimestamp : UInt64 := 0
  lastSenderReportRtpTimestamp : UInt32 := 0
deriving DecidableEq

structure KeyframeRequestContext where
  publisherSessionId : Text
  sourceGeneration : ℕ
  sourceSsrc : UInt32
  targetSsrc : UInt32
deriving DecidableEq

/-- The last sequence number of the FIR commands of a sender for a media SSRC. -/
abbrev RtcpFirSequenceTracker := AssocMap (UInt32 × UInt32) UInt8

def RtcpFirSequenceTracker.accept (tracker : RtcpFirSequenceTracker) (senderSsrc mediaSsrc : UInt32)
    (sequenceNumber : UInt8) : RtcpFirSequenceTracker × Bool :=
  if tracker.find? (senderSsrc, mediaSsrc) = some sequenceNumber then (tracker, false)
  else (tracker.insertOrAssign (senderSsrc, mediaSsrc) sequenceNumber, true)

/-- `owned` says whether the session refers to the transport yet. The two handlers are held as
the ids they captured. -/
structure WhepSessionTransport where
  streamId : Text := []
  sessionId : Text := []
  closed : Bool := false
  owned : Bool := false
  inactivityTimeoutHandler : Option Text := none
  publisherFailureHandler : Option Text := none
  rtpRewriterTarget : WhepRtpRewriterTarget
  publisherSource : Option MediaPublisherSource := none
  publisherSourceGeneration : ℕ := 0
  publisherSenderTimings : AssocMap UInt32 MediaPublisherSenderTiming := AssocMap.empty
  outboundRtcpSenders : AssocMap UInt32 OutboundRtcpSenderState := AssocMap.empty
  rtpRewriter : Impl := {}
  keyframeWaitingSourceSsrcs : Finset UInt32 := ∅
  keyframeReadySourceSsrcs : Finset UInt32 := ∅
  firSequenceTracker : RtcpFirSequenceTracker := AssocMap.empty
  selectedRemoteEndpoint : Option Stun.UdpEndpoint := none
deriving DecidableEq

namespace WhepSessionTransport
variable (t : WhepSessionTransport)

/-! ## Senders and their timings -/

def clearPublisherSenderTimings : WhepSessionTransport :=
  { t with
    publisherSenderTimings := AssocMap.empty
    outboundRtcpSenders :=
      t.outboundRtcpSenders.mapValues fun _ sender => { sender with senderTiming := none } }

/-- Whether a target SSRC of the rewriter is the sender's own or the one it repairs. -/
def senderFollows (targetSsrc : UInt32) (sender : OutboundRtcpSenderState)
    (primarySsrc : UInt32) : Bool :=
  (!sender.rtx && decide (targetSsrc = primarySsrc)) ||
    (sender.rtx && decide (sender.associatedPrimarySsrc = primarySsrc))

def makeSenderTiming (timing : MediaPublisherSenderTiming) (targetTimestamp : UInt32) :
    OutboundRtcpSenderTiming where
  publisherSessionId := timing.publisherSessionId
  sourceGeneration := timing.sourceGeneration
  sourceSsrc := timing.sourceSsrc
  ntpTimestamp := timing.ntpTimestamp
  targetRtpTimestamp := targetTimestamp
  sourceSenderPacketCount := timing.senderPacketCount
  sourceSenderOctetCount := timing.senderOctetCount

def refreshSenderTiming (sourceSsrc : UInt32) : WhepSessionTransport :=
  match t.publisherSenderTimings.find? sourceSsrc with
  | none => t
  | some timing =>
      match t.rtpRewriter.mapSourceTimestamp sourceSsrc timing.sourceRtpTimestamp with
      | none => t
      | some mapped =>
          { t with
            outboundRtcpSenders := t.outboundRtcpSenders.mapValues fun targetSsrc sender =>
              if senderFollows targetSsrc sender mapped.targetSsrc then
                { sender with
                  senderTiming := some (makeSenderTiming timing mapped.targetTimestamp) }
              else sender }

def handlePublisherSenderTiming (timing : MediaPublisherSenderTiming) : WhepSessionTransport :=
  match t.publisherSource with
  | none => t
  | some source =>
      if timing.sourceGeneration ≠ t.publisherSourceGeneration ∨
          timing.publisherSessionId ≠ source.sessionId then t
      else
        { t with
          publisherSenderTimings :=
            t.publisherSenderTimings.insertOrAssign timing.sourceSsrc timing }.refreshSenderTiming
          timing.sourceSsrc

def findSubscriberMedia (target : WhepRtpRewriterTarget) (mid : Text) : Option MediaSummary :=
  target.subscriberOffer.media.find? fun media => decide (media.mid = mid)

def makeSenderState (target : WhepRtpRewriterTarget) (source : SdpAnswerMediaSource)
    (targetSsrc : UInt32) (rtx : Bool) (associatedPrimarySsrc : UInt32) :
    OutboundRtcpSenderState :=
  let media := findSubscriberMedia target source.mid
  { kind := source.kind
    mid := source.mid
    cname := source.cname
    targetSsrc
    rtx
    associatedPrimarySsrc
    rtcpMux := media.isSome
    rtcpRsize := media.any MediaSummary.rtcpRsize }

/-- The senders of one media source: none without an SSRC, a second one for its repair SSRC. -/
def addSenders (target : WhepRtpRewriterTarget)
    (senders : AssocMap UInt32 OutboundRtcpSenderState) (source : SdpAnswerMediaSource) :
    AssocMap UInt32 OutboundRtcpSenderState :=
  if source.ssrc = 0 then senders
  else
    let senders :=
      senders.insertOrAssign source.ssrc (makeSenderState target source source.ssrc false 0)
    if source.rtxRepairSsrc = 0 then senders
    else senders.insertOrAssign source.rtxRepairSsrc
      (makeSenderState target source source.rtxRepairSsrc true source.ssrc)

def configureOutboundRtcpSenders (target : WhepRtpRewriterTarget) :
    AssocMap UInt32 OutboundRtcpSenderState :=
  target.acceptedMediaSources.foldl (addSenders target) AssocMap.empty

/-! ## The publisher source -/

def resetKeyframeRecovery : WhepSessionTransport :=
  { t with keyframeWaitingSourceSsrcs := ∅, keyframeReadySourceSsrcs := ∅ }

/-- The rewriter for the current source; it fails where the subscriber's answer has nothing to
take from the source's offer. -/
def rebuildRtpRewriter : WhepSessionTransport × Bool :=
  match t.publisherSource with
  | none => ({ t.resetKeyframeRecovery with rtpRewriter := t.rtpRewriter.clearSource }, true)
  | some source =>
      match makeWhepRtpRewriterConfig source.sessionId source.offer t.rtpRewriterTarget with
      | .error _ =>
          ({ t.resetKeyframeRecovery with rtpRewriter := t.rtpRewriter.clearSource }, false)
      | .ok config => ({ t with rtpRewriter := t.rtpRewriter.setConfig config }, true)

/-- The part of a source update which concerns the transport, once the update is known to be of
the current generation or a later one. The flag is false where the source is incompatible. -/
def acceptPublisherSource (update : MediaPublisherSourceUpdate) : WhepSessionTransport × Bool :=
  let t := t.resetKeyframeRecovery
  let t :=
    if update.generation ≠ t.publisherSourceGeneration then
      { t.clearPublisherSenderTimings with firSequenceTracker := AssocMap.empty }
    else t
  rebuildRtpRewriter
    { t with publisherSourceGeneration := update.generation, publisherSource := update.source }

/-- The part of `set_peer_context` between leaving the old subscription and the new one. -/
def setPeerContext (streamId sessionId : Text) (target : WhepRtpRewriterTarget) :
    WhepSessionTransport :=
  let t : WhepSessionTransport :=
    { t with
      streamId
      sessionId
      selectedRemoteEndpoint := none
      outboundRtcpSenders := configureOutboundRtcpSenders target
      rtpRewriterTarget := target
      publisherSource := none
      publisherSourceGeneration := 0
      firSequenceTracker := AssocMap.empty }
  t.clearPublisherSenderTimings.resetKeyframeRecovery.rebuildRtpRewriter.1

/-- A handler is taken out before it is called. -/
def takeFailureHandler : WhepSessionTransport := { t with publisherFailureHandler := none }

def takeInactivityHandler : WhepSessionTransport := { t with inactivityTimeoutHandler := none }

/-- The session refers to the transport from now on. -/
def adopt : WhepSessionTransport := { t with owned := true }

/-- The part of `close` which concerns the transport. -/
def shutDown : WhepSessionTransport :=
  { t with
    closed := true
    inactivityTimeoutHandler := none
    publisherFailureHandler := none
    selectedRemoteEndpoint := none }

def handlePublisherSourceBye (bye : MediaPublisherSourceBye) : WhepSessionTransport :=
  match t.publisherSource with
  | none => t
  | some source =>
      if bye.publisherSessionId ≠ source.sessionId ∨
          bye.sourceGeneration ≠ t.publisherSourceGeneration ∨ bye.sourceSsrc = 0 then t
      else
        { t with
          publisherSenderTimings := t.publisherSenderTimings.erase bye.sourceSsrc
          keyframeWaitingSourceSsrcs := t.keyframeWaitingSourceSsrcs.erase bye.sourceSsrc
          keyframeReadySourceSsrcs := t.keyframeReadySourceSsrcs.erase bye.sourceSsrc
          outboundRtcpSenders := t.outboundRtcpSenders.mapValues fun targetSsrc sender =>
            if t.rtpRewriter.sourceSsrcForTargetSsrc targetSsrc = some bye.sourceSsrc then
              { sender with senderTiming := none }
            else sender }

/-! ## What an update does -/

/-- The configuration of the rewriter for a source. -/
def configFor (source : MediaPublisherSource) : Except Text RtpRewriter.RewriterConfig :=
  makeWhepRtpRewriterConfig source.sessionId source.offer t.rtpRewriterTarget

theorem acceptPublisherSource_compatible_iff {t : WhepSessionTransport}
    {update : MediaPublisherSourceUpdate} {source : MediaPublisherSource}
    (hsource : update.source = some source) :
    (t.acceptPublisherSource update).2 = true ↔ ∃ config, t.configFor source = .ok config := by
  unfold acceptPublisherSource rebuildRtpRewriter configFor
  simp only [hsource]
  split_ifs
  all_goals
    simp only [clearPublisherSenderTimings, resetKeyframeRecovery]
    split
    · rename_i heq
      simp [heq]
    · rename_i heq
      simp [heq]

/-- A compatible source is forwarded from now on. -/
theorem acceptPublisherSource_configured {t : WhepSessionTransport}
    {update : MediaPublisherSourceUpdate} {source : MediaPublisherSource}
    {config : RtpRewriter.RewriterConfig} (hsource : update.source = some source)
    (hconfig : t.configFor source = .ok config) :
    (t.acceptPublisherSource update).1.publisherSource = some source ∧
      (t.acceptPublisherSource update).1.publisherSourceGeneration = update.generation ∧
      (t.acceptPublisherSource update).1.rtpRewriter = t.rtpRewriter.setConfig config := by
  unfold acceptPublisherSource rebuildRtpRewriter
  unfold configFor at hconfig
  simp only [hsource]
  split_ifs
  all_goals simp [clearPublisherSenderTimings, resetKeyframeRecovery, hconfig]

end WhepSessionTransport
end SimpleWebrtc.WhepSession
