import SimpleWebrtc.OfferFacts
import SimpleWebrtc.SdpOfferValidator
import SimpleWebrtc.WhepConfiguration
import SimpleWebrtc.WhipConfiguration

/-!
# The configuration after a publisher came back

A subscriber is answered once, against the publisher it found. When another
publisher takes the stream over, the rewriter is configured from the whole offer
of the subscriber and from the new publisher's offer. The new configuration
keeps to the answer exactly where the later publisher feeds nothing that the
first one did not.
-/
namespace SimpleWebrtc.RewriterConfig
open Library Library.Text SdpSummary SdpCodecNegotiator SdpAnswer SdpOfferValidator
  RewrittenExtensions RtpRewriter ConfiguredRewriter WhipPublisher

/-! ## What the answer allows -/

def AnswersExtensionId (answered : MediaDescription) (id : ℕ) : Prop :=
  ∃ uri, ⟨ascii "extmap", decimal id ++ ascii " " ++ uri⟩ ∈ answered.attributes

/-- Everything the mapping sends is in the section of the answer. -/
structure SectionAnswers (answered : MediaDescription) (mapping : MediaMapping) : Prop where
  payloadTypes : ∀ p ∈ mapping.payloadTypes,
    decimal p.targetPayloadType.toNat ∈ answered.mediaName.formats
  headerExtensions : ∀ e ∈ mapping.headerExtensions, AnswersExtensionId answered e.targetId.toNat
  transportCc : mapping.targetTransportCcExtensionId ≠ 0 →
    AnswersExtensionId answered mapping.targetTransportCcExtensionId.toNat

def ConfigAnswered (answer : BuiltSdpAnswer) (config : RtpRewriter.RewriterConfig) : Prop :=
  List.Forall₂ (fun index mapping => ∃ answered,
    answer.description.mediaDescriptions[index]? = some answered ∧ SectionAnswers answered mapping)
    answer.acceptedMlineIndexes config.media

/-- A subscriber's answer, and the configuration it gets for a later publisher. -/
structure Republished (subscriberOffer first later : WebrtcOfferSummary)
    (options : SdpAnswerOptions) (answer : BuiltSdpAnswer) (sources : List SdpAnswerMediaSource)
    (publisherSessionId : Text) (config : RtpRewriter.RewriterConfig) : Prop where
  subscriber : ∃ description, extractWebrtcOfferSummary description = .ok subscriberOffer
  validSubscriber : validateWhepOffer subscriberOffer = .ok ()
  validFirst : validateWhipOffer first = .ok ()
  validLater : validateWhipOffer later = .ok ()
  answered : buildWhepAnswer subscriberOffer first options = .ok answer
  configured : makeWhepRtpRewriterConfig publisherSessionId later
    { subscriberOffer := subscriberOffer
      acceptedMlineIndexes := answer.acceptedMlineIndexes.map Int.ofNat
      acceptedMediaSources := sources } = .ok config

/-! ## When it is kept -/

/-- What the later publisher feeds in a section has a payload type, or an extension id, of
something which the first publisher could feed. -/
structure Covers (media first later : MediaSummary) (rtxSsrc : UInt32) : Prop where
  codecs : ∀ codec ∈ whepCodecs media later, (isRtxCodec codec = true → rtxSsrc ≠ 0) →
    ∃ fed ∈ whepCodecs media first, fed.payloadType = codec.payloadType
  extensions : ∀ e ∈ whepExtensions media later, ∃ fed ∈ whepExtensions media first, fed.id = e.id

/-- An accepted section is covered, as far as both publishers have a section for it. -/
def CoversAt (subscriberOffer first later : WebrtcOfferSummary)
    (accepted : ℕ × SdpAnswerMediaSource) : Prop :=
  ∀ media firstMedia laterMedia, subscriberOffer.media[accepted.1]? = some media →
    findWhepForwardedPublisherMedia media accepted.1 subscriberOffer first = some firstMedia →
    findWhepForwardedPublisherMedia media accepted.1 subscriberOffer later = some laterMedia →
    Covers media firstMedia laterMedia accepted.2.rtxRepairSsrc

/-! ## Sections -/

theorem accepted_format {options : SdpAnswerOptions} {media publisher : MediaSummary}
    {codecs : List CodecInfo} {n : ℕ} :
    decimal n ∈ (makeAcceptedAnswerMedia options media (some publisher) codecs).mediaName.formats ↔
      ∃ codec ∈ codecs, codec.payloadType.toNat = n := by
  simp only [makeAcceptedAnswerMedia, List.mem_map, payloadTypeText]
  constructor
  · intro hcase
    obtain ⟨codec, hcodec, htext⟩ := hcase
    exact ⟨codec, hcodec, decimal_injective htext⟩
  · intro hcase
    obtain ⟨codec, hcodec, hn⟩ := hcase
    exact ⟨codec, hcodec, by rw [hn]⟩

theorem accepted_extensionId {options : SdpAnswerOptions} {media publisher : MediaSummary}
    {n : ℕ} :
    AnswersExtensionId (makeAcceptedAnswerMedia options media (some publisher)
        (whepCodecs media publisher)) n ↔
      ∃ e ∈ whepExtensions media publisher, e.id.toNat = n := by
  have hspace : ascii " " = [32] := by decide
  constructor
  · intro hcase
    obtain ⟨uri, hmem⟩ := hcase
    obtain ⟨e, he, hvalue⟩ := mem_whep_extmap.mp hmem
    simp only [makeExtmapValue, hspace, List.append_assoc, List.singleton_append] at hvalue
    exact ⟨e, he, (decimal_append_inj (by decide) hvalue).1⟩
  · intro hcase
    obtain ⟨e, he, hn⟩ := hcase
    exact ⟨e.uri, mem_whep_extmap.mpr ⟨e, he, by rw [makeExtmapValue, hn]⟩⟩

/-- A mapping keeps to the answer exactly where its publisher is covered. -/
theorem Configures.sectionAnswers_iff {options : SdpAnswerOptions}
    {media first later : MediaSummary} {source : SdpAnswerMediaSource} {mapping : MediaMapping}
    (hwell : media.WellFormed) (h : Configures media later source mapping) :
    SectionAnswers (makeAcceptedAnswerMedia options media (some first) (whepCodecs media first))
        mapping ↔ Covers media first later source.rtxRepairSsrc := by
  have hids : ∀ a ∈ media.headerExtensions, ∀ b ∈ media.headerExtensions,
      a.id.toNat = b.id.toNat ↔ a.id = b.id := by
    intro a ha b hb
    have hpositive := hwell.extensionIds a ha
    have hpositive' := hwell.extensionIds b hb
    omega
  have hfed : ∀ publisher, ∀ e ∈ whepExtensions media publisher, e ∈ media.headerExtensions :=
    fun _ _ he => (List.mem_filter.mp he).1
  constructor
  · intro hsection
    constructor
    · intro codec hcodec hrtx
      obtain ⟨p, hp, htarget⟩ := (h.payloadTypes codec.payloadType.toNat).mpr
        ⟨codec, hcodec, rfl, hrtx⟩
      have hformat := hsection.payloadTypes p hp
      rw [htarget] at hformat
      obtain ⟨fed, hmem, hn⟩ := accepted_format.mp hformat
      exact ⟨fed, hmem, UInt16.toNat_inj.mp hn⟩
    · intro e he
      have hsends := (h.extensions fun id _ => AnswersExtensionId _ id).mp
        ⟨hsection.headerExtensions, hsection.transportCc⟩ e he
      obtain ⟨fed, hmem, hn⟩ := accepted_extensionId.mp hsends
      exact ⟨fed, hmem, (hids _ (hfed _ _ hmem) _ (hfed _ _ he)).mp hn⟩
  · intro hcovers
    have hsends : SendsOnly (fun id _ => AnswersExtensionId (makeAcceptedAnswerMedia options media
        (some first) (whepCodecs media first)) id) mapping := by
      rw [h.extensions]
      intro e he
      obtain ⟨fed, hmem, hid⟩ := hcovers.extensions e he
      exact accepted_extensionId.mpr ⟨fed, hmem, by rw [hid]⟩
    refine ⟨?_, hsends.1, hsends.2⟩
    intro p hp
    obtain ⟨codec, hcodec, hn, hrtx⟩ := (h.payloadTypes _).mp ⟨p, hp, rfl⟩
    obtain ⟨fed, hmem, hpayloadType⟩ := hcovers.codecs codec hcodec hrtx
    exact accepted_format.mpr ⟨fed, hmem, by rw [hpayloadType, hn]⟩

/-! ## Configurations -/

/-- The configurations keep to the answer in exactly those cases in which the later publisher
feeds nothing new in any accepted section. -/
theorem republished_answered_iff {subscriberOffer first later : WebrtcOfferSummary}
    {options : SdpAnswerOptions} {answer : BuiltSdpAnswer} {sources : List SdpAnswerMediaSource}
    {publisherSessionId : Text} {config : RtpRewriter.RewriterConfig}
    (h : Republished subscriberOffer first later options answer sources publisherSessionId
      config) :
    ConfigAnswered answer config ↔
      ∀ accepted ∈ answer.acceptedMlineIndexes.zip sources,
        CoversAt subscriberOffer first later accepted := by
  obtain ⟨description, hsubscriber⟩ := h.subscriber
  have hwell := extractWebrtcOfferSummary_wellFormed hsubscriber
  obtain ⟨_, _, hconfig⟩ := bind_ok.mp h.configured
  obtain ⟨_, hlength, hconfig⟩ := bind_ok.mp hconfig
  obtain ⟨media, hmedia, hconfig⟩ := bind_ok.mp hconfig
  obtain ⟨_, _, hconfig⟩ := bind_ok.mp hconfig
  cases hconfig
  have hsame : answer.acceptedMlineIndexes.length = sources.length := by
    simpa using ensure_ok.mp hlength
  have hforall := mapM_ok.mp hmedia
  rw [List.zip_map_left, List.forall₂_map_left_iff] at hforall
  have hanswered : ConfigAnswered answer ⟨publisherSessionId, media⟩ ↔
      List.Forall₂ (fun (accepted : ℕ × SdpAnswerMediaSource) mapping => ∃ answered,
        answer.description.mediaDescriptions[accepted.1]? = some answered ∧
          SectionAnswers answered mapping) (answer.acceptedMlineIndexes.zip sources) media := by
    have hfst : (answer.acceptedMlineIndexes.zip sources).map Prod.fst =
        answer.acceptedMlineIndexes := List.map_fst_zip hsame.le
    rw [ConfigAnswered, ← hfst, List.forall₂_map_left_iff, hfst]
  rw [hanswered]
  apply forall₂_iff_forall_mem hforall
  intro accepted haccepted mapping hmapping
  obtain ⟨index, source⟩ := accepted
  obtain ⟨subscriberMedia, firstMedia, hplace, hfirst, -, hsection⟩ :=
    whep_accepted_section h.answered (List.of_mem_zip haccepted).1
  have hmediaWell := hwell subscriberMedia (List.mem_of_getElem? hplace)
  obtain ⟨laterMedia, hlater, hconfigures⟩ :=
    makeMediaMapping_configures hplace hmediaWell hmapping
  have hiff := @Configures.sectionAnswers_iff options _ firstMedia _ _ _ hmediaWell hconfigures
  simp only [hsection, Option.some.injEq, exists_eq_left', hiff, CoversAt, hplace]
  constructor
  · intro hcovers media firstMedia' laterMedia' hplace' hfirst' hlater'
    cases hplace'
    rw [hfirst] at hfirst'
    cases hfirst'
    rw [hlater] at hlater'
    cases hlater'
    exact hcovers
  · intro hcovers
    exact hcovers _ _ _ rfl hfirst hlater

/-! ## A publisher which retransmits -/

def extractedOffer (description : SessionDescription) : WebrtcOfferSummary :=
  ((extractWebrtcOfferSummary description).toOption).getD {}

/-- A section with VP8 and a retransmission codec for it. -/
def vp8RtxDescription (mid direction : String) : SessionDescription :=
  publisherDescription ("BUNDLE " ++ mid) [{
    mediaName := { media := ascii "video", port := 9, formats := [ascii "96", ascii "97"] }
    attributes :=
      [⟨ascii "mid", ascii mid⟩, { key := ascii direction }, { key := ascii "rtcp-mux" },
        ⟨ascii "rtpmap", ascii "96 VP8/90000"⟩, ⟨ascii "rtpmap", ascii "97 rtx/90000"⟩,
        ⟨ascii "fmtp", ascii "97 apt=96"⟩] }]

def rtxSubscriber : WebrtcOfferSummary := extractedOffer (vp8RtxDescription "v" "recvonly")

def rtxPublisher : WebrtcOfferSummary := extractedOffer (vp8RtxDescription "0" "sendonly")

def plainPublisher : WebrtcOfferSummary :=
  extractedOffer (publisherDescription "BUNDLE 0" [vp8Section "0"])

def plainAnswer : BuiltSdpAnswer :=
  ((buildWhepAnswer rtxSubscriber plainPublisher localOptions).toOption).getD ⟨{}, []⟩

def videoSources : List SdpAnswerMediaSource :=
  [{ mid := ascii "v", kind := kVideo, ssrc := 1, rtxRepairSsrc := 2 }]

def rtxConfig (later : WebrtcOfferSummary) : RtpRewriter.RewriterConfig :=
  ((makeWhepRtpRewriterConfig (ascii "publisher") later {
    subscriberOffer := rtxSubscriber
    acceptedMlineIndexes := plainAnswer.acceptedMlineIndexes.map Int.ofNat
    acceptedMediaSources := videoSources }).toOption).getD ⟨[], []⟩

theorem republished_of_configured {later : WebrtcOfferSummary}
    (hvalid : validateWhipOffer later = .ok ())
    (h : makeWhepRtpRewriterConfig (ascii "publisher") later {
      subscriberOffer := rtxSubscriber
      acceptedMlineIndexes := plainAnswer.acceptedMlineIndexes.map Int.ofNat
      acceptedMediaSources := videoSources } = .ok (rtxConfig later)) :
    Republished rtxSubscriber plainPublisher later localOptions plainAnswer videoSources
      (ascii "publisher") (rtxConfig later) := by
  constructor
  · exact ⟨vp8RtxDescription "v" "recvonly", by decide +kernel⟩
  · decide +kernel
  · decide +kernel
  · exact hvalid
  · decide +kernel
  · exact h

theorem republished_answered_iff_plain :
    ConfigAnswered plainAnswer (rtxConfig plainPublisher) ↔
      ∀ accepted ∈ plainAnswer.acceptedMlineIndexes.zip videoSources,
        CoversAt rtxSubscriber plainPublisher plainPublisher accepted :=
  republished_answered_iff (republished_of_configured (by decide +kernel) (by decide +kernel))

/-- The answer has VP8 alone, and the publisher which comes later also retransmits. -/
theorem republished_not_answered :
    ¬ ∀ (subscriberOffer first later : WebrtcOfferSummary) (options : SdpAnswerOptions)
      (answer : BuiltSdpAnswer) (sources : List SdpAnswerMediaSource)
      (publisherSessionId : Text) (config : RtpRewriter.RewriterConfig),
      Republished subscriberOffer first later options answer sources publisherSessionId config →
      ConfigAnswered answer config := by
  intro hall
  have hanswered := hall _ _ _ _ _ _ _ _
    (@republished_of_configured rtxPublisher (by decide +kernel) (by decide +kernel))
  have hanswer : plainAnswer.acceptedMlineIndexes = [0] ∧
      plainAnswer.description.mediaDescriptions.map
        (fun answered => answered.mediaName.formats) = [[ascii "96"]] := by decide +kernel
  have htargets : (rtxConfig rtxPublisher).media.map
      (fun mapping => mapping.payloadTypes.map PayloadTypeMapping.targetPayloadType) =
        [[96, 97]] := by decide +kernel
  rw [ConfigAnswered, hanswer.1] at hanswered
  cases hmedia : (rtxConfig rtxPublisher).media with
  | nil =>
      rw [hmedia] at htargets
      cases htargets
  | cons mapping rest =>
      rw [hmedia] at htargets hanswered
      obtain ⟨answered, hplace, hsection⟩ := (List.forall₂_cons.mp hanswered).1
      have hformat := congrArg (fun formats => formats[0]?) hanswer.2
      simp only [List.getElem?_map, hplace, Option.map_some, List.getElem?_cons_zero,
        Option.some.injEq] at hformat
      have htarget : mapping.payloadTypes.map PayloadTypeMapping.targetPayloadType = [96, 97] :=
        (List.cons.inj htargets).1
      obtain ⟨p, hp, hn⟩ := List.mem_map.mp
        (show (97 : UInt8) ∈ mapping.payloadTypes.map PayloadTypeMapping.targetPayloadType by
          simp [htarget])
      have hlisted := hsection.payloadTypes p hp
      rw [hn, hformat] at hlisted
      revert hlisted
      decide +kernel

end SimpleWebrtc.RewriterConfig
