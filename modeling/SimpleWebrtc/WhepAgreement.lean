import SimpleWebrtc.RepublishedConfiguration
import SimpleWebrtc.WhepMediaSources

/-!
# The subscriber's answer and its runtime configuration

The answer and the configuration of the rewriter are computed from the same two
offers. Where a payload type of a section has one codec only, the configuration
never fails after the answer succeeded, and it sends what the section of the
answer says: a retransmission entry under the name of the codec it repairs.
-/
namespace SimpleWebrtc.RewriterConfig
open Library Library.Text SdpSummary SdpCodecNegotiator SdpAnswer SdpOfferValidator
  RewrittenExtensions RtpRewriter ConfiguredRewriter WhepHandler WhipPublisher

/-! ## What is to agree -/

/-- The `rtpmap` attributes a section has for a payload type give it one name and clock rate. -/
structure RtpMapSays (answered : MediaDescription) (payloadType : ℕ) (name : Text)
    (clockRate : UInt32) : Prop where
  present : ∃ value codec, ⟨ascii "rtpmap", value⟩ ∈ answered.attributes ∧
    parseRtpMapAttribute value = .ok codec ∧ codec.payloadType.toNat = payloadType
  every : ∀ value codec, ⟨ascii "rtpmap", value⟩ ∈ answered.attributes →
    parseRtpMapAttribute value = .ok codec → codec.payloadType.toNat = payloadType →
    codec.name = name ∧ codec.clockRate = clockRate

/-- A mapping sends what the section of the answer lists. Of its codecs that is left open. -/
structure SectionListed (answered : MediaDescription) (mapping : MediaMapping) : Prop where
  formats : ∀ format, format ∈ answered.mediaName.formats ↔
    ∃ p ∈ mapping.payloadTypes, decimal p.targetPayloadType.toNat = format
  headerExtensions : ∀ e ∈ mapping.headerExtensions,
    ⟨ascii "extmap", decimal e.targetId.toNat ++ ascii " " ++ e.uri⟩ ∈ answered.attributes
  transportCc : mapping.targetTransportCcExtensionId ≠ 0 →
    ⟨ascii "extmap", decimal mapping.targetTransportCcExtensionId.toNat ++ ascii " " ++
      RewrittenExtensions.kTransportWideCcExtensionUri⟩ ∈ answered.attributes
  ssrcGroup : ∀ value, ⟨ascii "ssrc-group", value⟩ ∈ answered.attributes ↔
    (∃ p ∈ mapping.payloadTypes, p.rtx = true) ∧
      fidValue mapping.targetSsrc mapping.targetRtxSsrc = value

structure SectionAgrees (answered : MediaDescription) (mapping : MediaMapping) : Prop extends
    SectionListed answered mapping where
  primary : ∀ p ∈ mapping.payloadTypes, p.rtx = false →
    RtpMapSays answered p.targetPayloadType.toNat p.codecName p.clockRate
  rtx : ∀ p ∈ mapping.payloadTypes, p.rtx = true →
    RtpMapSays answered p.targetAssociatedPayloadType.toNat p.codecName p.clockRate ∧
    ∃ name, iequals name (ascii "rtx") = true ∧
      RtpMapSays answered p.targetPayloadType.toNat name p.clockRate

/-- Two codecs of a section with one payload type are the same codec. -/
def OneCodecPerPayloadType (media : MediaSummary) : Prop :=
  ∀ a ∈ media.codecs, ∀ b ∈ media.codecs, a.payloadType = b.payloadType →
    a.name = b.name ∧ a.clockRate = b.clockRate

/-- A subscriber's offer which was answered, with the sources made for it. -/
structure Answered (subscriberOffer publisherOffer : WebrtcOfferSummary)
    (options : SdpAnswerOptions) (answer : BuiltSdpAnswer) : Prop where
  subscriber : ∃ description, extractWebrtcOfferSummary description = .ok subscriberOffer
  publisher : ∃ description, extractWebrtcOfferSummary description = .ok publisherOffer
  validSubscriber : validateWhepOffer subscriberOffer = .ok ()
  validPublisher : validateWhipOffer publisherOffer = .ok ()
  sources : ∃ cnameValues g,
    options.mediaSources = makeWhepOutboundMediaSources cnameValues g subscriberOffer
  answered : buildWhepAnswer subscriberOffer publisherOffer options = .ok answer

/-- The target a subscriber session is created with. -/
def answeredTarget (subscriberOffer : WebrtcOfferSummary) (options : SdpAnswerOptions)
    (answer : BuiltSdpAnswer) : WhepRtpRewriterTarget where
  subscriberOffer := subscriberOffer
  acceptedMlineIndexes := answer.acceptedMlineIndexes.map Int.ofNat
  acceptedMediaSources :=
    filterWhepOutboundMediaSources options.mediaSources answer.acceptedMlineIndexes

/-! ## Negotiated codecs are offered -/

section
variable {media publisher : MediaSummary}

theorem whepCodecs_origin {codec : CodecInfo} (h : codec ∈ whepCodecs media publisher) :
    codec.clockRate ≠ 0 ∧
      ∃ original ∈ media.codecs, ∃ fmtp, codec = CodecInfo.withFmtp original fmtp := by
  rcases List.mem_append.mp h with h | h
  · obtain ⟨⟨original, horiginal, hlisted⟩, -⟩ := mem_whepPrimaries.mp h
    have hsupported := (normalizeListedCodec_some hlisted).2
    exact ⟨normalizeSupportedCodec_clockRate hsupported, original, horiginal,
      normalizeSupportedCodec_origin hsupported⟩
  · have hrtx := whepRtxCodecs_rtx h
    rw [isRtxCodec_eq, Bool.and_eq_true, decide_eq_true_eq] at hrtx
    refine ⟨?_, codec, (List.mem_filter.mp h).1, codec.fmtp, rfl⟩
    rw [hrtx.2]
    decide

theorem whepCodecs_payloadType {codec : CodecInfo} (hwell : media.WellFormed)
    (h : codec ∈ whepCodecs media publisher) : codec.payloadType ≤ 127 := by
  obtain ⟨-, original, horiginal, fmtp, rfl⟩ := whepCodecs_origin h
  exact hwell.payloadTypes _ (hwell.listed original horiginal)

/-- An offered codec with the payload type of a negotiated one has its name and clock rate. -/
theorem offered_eq {codec described : CodecInfo} (hone : OneCodecPerPayloadType media)
    (hcodec : codec ∈ whepCodecs media publisher) (hdescribed : described ∈ media.codecs)
    (hsame : described.payloadType = codec.payloadType) :
    described.name = codec.name ∧ described.clockRate = codec.clockRate := by
  obtain ⟨-, original, horiginal, fmtp, rfl⟩ := whepCodecs_origin hcodec
  exact hone described hdescribed original horiginal hsame

theorem findSelectedCodec_ok {codec : CodecInfo} (hone : OneCodecPerPayloadType media)
    (hcodec : codec ∈ whepCodecs media publisher) :
    ∃ described, (findSelectedCodecByPayloadType media.codecs codec.payloadType).filter
      (fun codec => codec.clockRate != 0) = some described := by
  obtain ⟨hrate, original, horiginal, fmtp, hfmtp⟩ := whepCodecs_origin hcodec
  cases hfind : findSelectedCodecByPayloadType media.codecs codec.payloadType with
  | none =>
      have hnot := List.find?_eq_none.mp hfind original horiginal
      rw [hfmtp] at hnot
      exact absurd (decide_eq_true rfl) hnot
  | some described =>
      have hsame := List.find?_some hfind
      rw [decide_eq_true_eq] at hsame
      have heq := offered_eq hone hcodec (List.mem_of_find?_eq_some hfind) hsame
      refine ⟨described, ?_⟩
      rw [Option.filter_some, heq.2]
      simp [hrate]

/-! ## The configuration succeeds -/

theorem makePayloadTypeMapping_ok {codec : CodecInfo} {mapping : CodecPayloadTypeMapping}
    (hwell : media.WellFormed) (hpublisher : publisher.WellFormed)
    (hone : OneCodecPerPayloadType media) (hcodec : codec ∈ whepCodecs media publisher)
    (hmaps : MapsCodec media publisher codec mapping) (targetRtxSsrc : UInt32) :
    ∃ entry, makePayloadTypeMapping media targetRtxSsrc mapping = .ok entry := by
  have hrange : mapping.publisherPayloadType ≤ 127 ∧ mapping.subscriberPayloadType ≤ 127 := by
    rw [hmaps.subscriber]
    exact ⟨hpublisher.payloadTypes _ hmaps.publisher, whepCodecs_payloadType hwell hcodec⟩
  unfold makePayloadTypeMapping
  simp only [hrange, and_self, ensure, if_true, bind, Except.bind, hmaps.rtx_eq]
  split_ifs with hskip
  · exact ⟨none, rfl⟩
  · cases hrtx : isRtxCodec codec with
    | false =>
        obtain ⟨described, hdescribed⟩ := findSelectedCodec_ok hone hcodec
        simp [associatedPayloadTypes, (hmaps.primary hrtx).1, hmaps.subscriber, hdescribed,
          orError, pure, Except.pure]
    | true =>
        obtain ⟨⟨a, ha, hassociated⟩, repaired, hrepaired, -, hsubscriber⟩ := hmaps.rtx hrtx
        have hmem : repaired ∈ whepCodecs media publisher := List.mem_append_left _ hrepaired
        have hle : a ≤ 127 ∧ repaired.payloadType ≤ 127 :=
          ⟨hpublisher.payloadTypes _ ha, whepCodecs_payloadType hwell hmem⟩
        obtain ⟨described, hdescribed⟩ := findSelectedCodec_ok hone hmem
        simp [associatedPayloadTypes, hassociated, hsubscriber, hle, ensure, hdescribed, orError,
          bind, Except.bind, pure, Except.pure]

theorem addHeaderExtensionMapping_succeeds {selected : List RtpHeaderExtension}
    (h : ∀ e ∈ selected, e.uri = RewrittenExtensions.kTransportWideCcExtensionUri ∨
      ∃ source, findHeaderExtension publisher e.uri = some source) (start : MediaMapping) :
    ∃ mapping, selected.foldlM (addHeaderExtensionMapping publisher) start = .ok mapping := by
  induction selected generalizing start with
  | nil => exact ⟨start, rfl⟩
  | cons e rest ih =>
      have hnext : ∃ next, addHeaderExtensionMapping publisher start e = .ok next := by
        unfold addHeaderExtensionMapping
        split_ifs with hwide
        · exact ⟨_, rfl⟩
        · obtain ⟨source, hsource⟩ := (h e (by simp)).resolve_left hwide
          simp [hsource]
      obtain ⟨next, hnext⟩ := hnext
      obtain ⟨mapping, hmapping⟩ := ih (fun e he => h e (List.mem_cons_of_mem _ he)) next
      exact ⟨mapping, by rw [List.foldlM_cons, hnext]; exact hmapping⟩

theorem whepExtensions_found {e : RtpHeaderExtension} (hpublisher : publisher.WellFormed)
    (he : e ∈ whepExtensions media publisher) :
    e.uri = RewrittenExtensions.kTransportWideCcExtensionUri ∨
      ∃ source, findHeaderExtension publisher e.uri = some source := by
  have hanswers := (List.mem_filter.mp he).2
  simp only [answersHeaderExtension, Bool.and_eq_true, Option.all_some, Bool.or_eq_true,
    decide_eq_true_eq] at hanswers
  rcases hanswers.1.2 with hwide | hforwarded
  · exact Or.inl hwide
  · right
    obtain ⟨source, hsource, huri⟩ := List.any_eq_true.mp hforwarded
    apply Option.isSome_iff_exists.mp
    rw [findHeaderExtension, List.find?_isSome]
    refine ⟨source, hsource, ?_⟩
    simpa [hpublisher.extensionIds source hsource] using huri

theorem exists_primary_entry {rtxSsrc : UInt32} {entries : List (Option PayloadTypeMapping)}
    (hne : whepPrimaries media publisher ≠ [])
    (h : List.Forall₂ (ConfiguresCodec media publisher rtxSsrc) (whepCodecs media publisher)
      entries) : ((entries.filterMap id).any fun p => !p.rtx) = true := by
  obtain ⟨codec, hcodec⟩ := List.exists_mem_of_ne_nil _ hne
  have hprimary := whepPrimaries_not_rtx hcodec
  obtain ⟨entry, hentry, hconfigures⟩ := forall₂_mem_left h
    (show codec ∈ whepCodecs media publisher from List.mem_append_left _ hcodec)
  cases entry with
  | none =>
      have hrtx := (hconfigures.left_out.mp rfl).1
      rw [hprimary] at hrtx
      cases hrtx
  | some p =>
      rw [List.any_eq_true]
      refine ⟨p, List.mem_filterMap.mpr ⟨some p, hentry, rfl⟩, ?_⟩
      rw [hconfigures.rtx p rfl, hprimary]
      rfl

theorem makeMediaMapping_ok {publisherOffer subscriberOffer : WebrtcOfferSummary} {index : ℕ}
    {source : SdpAnswerMediaSource} (hplace : subscriberOffer.media[index]? = some media)
    (hwell : media.WellFormed) (hpublisher : publisher.WellFormed)
    (hone : OneCodecPerPayloadType media) (hsource : SourceOf media source)
    (hforwarded : findWhepForwardedPublisherMedia media index subscriberOffer publisherOffer =
      some publisher)
    (hcodecs : negotiateCodecs media publisher = .ok (whepCodecs media publisher)) :
    ∃ mapping, makeMediaMapping publisherOffer subscriberOffer (Int.ofNat index, source) =
      .ok mapping := by
  have hat : subscriberMediaAt subscriberOffer (Int.ofNat index) = some media := by
    simpa [subscriberMediaAt] using hplace
  obtain ⟨mappings, hmappings, hmaps⟩ := negotiateCodecPayloadTypeMappings_ok hcodecs
  obtain ⟨entries, hentries, hconfigures⟩ := exists_mapM_ok
    (f := makePayloadTypeMapping media source.rtxRepairSsrc)
    (S := ConfiguresCodec media publisher source.rtxRepairSsrc) hmaps
    fun codec hcodec mapping hmap => by
      obtain ⟨entry, hentry⟩ :=
        makePayloadTypeMapping_ok hwell hpublisher hone hcodec hmap source.rtxRepairSsrc
      exact ⟨entry, hentry, makePayloadTypeMapping_configures hmap hentry⟩
  have hselected : selectWhepAnswerHeaderExtensions media publisher =
      whepExtensions media publisher := by
    rw [selectWhepAnswerHeaderExtensions, hcodecs, whepExtensions]
  have hprimary := exists_primary_entry (negotiateCodecs_ok hcodecs).2 hconfigures
  obtain ⟨mapping, hmapping⟩ := addHeaderExtensionMapping_succeeds
    (fun e he => whepExtensions_found hpublisher he)
    { kind := media.kind
      sourceMid := publisher.mid
      targetMid := media.mid
      targetSsrc := source.ssrc
      targetRtxSsrc := source.rtxRepairSsrc
      targetExtmapAllowMixed := media.extmapAllowMixed
      payloadTypes := entries.filterMap id }
  refine ⟨mapping, ?_⟩
  apply bind_ok.mpr ⟨media, orError_ok.mpr hat, _⟩
  apply bind_ok.mpr ⟨⟨⟩, ensure_ok.mpr hsource.ssrc, _⟩
  apply bind_ok.mpr ⟨⟨⟩, ensure_ok.mpr ⟨hsource.mid, hsource.kind⟩, _⟩
  apply bind_ok.mpr ⟨publisher, orError_ok.mpr hforwarded, _⟩
  apply bind_ok.mpr ⟨mappings, by rw [hmappings]; rfl, _⟩
  apply bind_ok.mpr ⟨entries, hentries, _⟩
  apply bind_ok.mpr ⟨⟨⟩, ensure_ok.mpr hprimary, _⟩
  rw [hselected]
  exact hmapping

/-! ## Codecs -/

theorem negotiated_eq {codec other : CodecInfo} (hone : OneCodecPerPayloadType media)
    (hcodec : codec ∈ whepCodecs media publisher) (hother : other ∈ whepCodecs media publisher)
    (hsame : other.payloadType = codec.payloadType) :
    other.name = codec.name ∧ other.clockRate = codec.clockRate := by
  obtain ⟨-, original, horiginal, fmtp, rfl⟩ := whepCodecs_origin hother
  have heq := offered_eq hone hcodec horiginal hsame
  exact heq

theorem whepCodecs_wellFormed {codec : CodecInfo} (hwell : media.WellFormed)
    (h : codec ∈ whepCodecs media publisher) : codec.WellFormed := by
  obtain ⟨-, original, horiginal, fmtp, rfl⟩ := whepCodecs_origin h
  have horiginalWell := hwell.codecs original horiginal
  exact ⟨horiginalWell.name_ne_nil, horiginalWell.name, horiginalWell.encodingParameters⟩

/-- The answer's section says the name and the clock rate of every negotiated codec. -/
theorem rtpMapSays_negotiated {options : SdpAnswerOptions} {codec : CodecInfo}
    (hwell : media.WellFormed) (hone : OneCodecPerPayloadType media)
    (hcodec : codec ∈ whepCodecs media publisher) :
    RtpMapSays (makeAcceptedAnswerMedia options media (some publisher) (whepCodecs media publisher))
      codec.payloadType.toNat codec.name codec.clockRate := by
  have hparse : ∀ c ∈ whepCodecs media publisher, parseRtpMapAttribute (makeRtpMapValue c) =
      .ok { c with
        fmtp := [], rtcpFeedback := [] } := fun c hc =>
    parseRtpMapAttribute_text (whepCodecs_wellFormed hwell hc) (whepCodecs_payloadType hwell hc)
  constructor
  · exact ⟨_, _, mem_whep_rtpmap.mpr ⟨codec, hcodec, rfl⟩, hparse codec hcodec, rfl⟩
  · intro value read hmem hread hpayloadType
    obtain ⟨other, hother, rfl⟩ := mem_whep_rtpmap.mp hmem
    rw [hparse other hother] at hread
    cases hread
    have heq := negotiated_eq hone hcodec hother (UInt16.toNat_inj.mp hpayloadType)
    exact heq

theorem whepRtxCodecs_video {codec : CodecInfo} (h : codec ∈ whepRtxCodecs media publisher) :
    media.kind = kVideo := by
  have hanswerable := (List.mem_filter.mp h).2
  unfold rtxCodecIsAnswerable rtxPrimary at hanswerable
  split_ifs at hanswerable with hvideo
  · exact hvideo.1
  · simp at hanswerable

theorem mem_whepRtxCodecs {codec : CodecInfo} (h : codec ∈ whepCodecs media publisher)
    (hrtx : isRtxCodec codec = true) : codec ∈ whepRtxCodecs media publisher := by
  rcases List.mem_append.mp h with h | h
  · rw [whepPrimaries_not_rtx h] at hrtx
    cases hrtx
  · exact h

/-- The codecs of a video section all have the clock rate of video. -/
theorem whepCodecs_video_clockRate {codec : CodecInfo} (hvideo : media.kind = kVideo)
    (h : codec ∈ whepCodecs media publisher) : codec.clockRate = 90000 := by
  rcases List.mem_append.mp h with h | h
  · obtain ⟨⟨original, -, hlisted⟩, -⟩ := mem_whepPrimaries.mp h
    have hsupported := (normalizeListedCodec_some hlisted).2
    have hrate := supported_video_clockRate hvideo (normalizeSupportedCodec_supported hsupported)
    obtain ⟨fmtp, rfl⟩ := normalizeSupportedCodec_origin hsupported
    exact hrate
  · have hrtx := whepRtxCodecs_rtx h
    rw [isRtxCodec_eq, Bool.and_eq_true, decide_eq_true_eq] at hrtx
    exact hrtx.2

/-- The two readers of an `apt` parameter agree on what the stricter one takes. -/
theorem findRtxAptPayloadType_of_apt {codec : CodecInfo} {apt : UInt16}
    (h : findCodecAptPayloadType codec = some apt) : findRtxAptPayloadType codec = some apt := by
  unfold findCodecAptPayloadType at h
  obtain ⟨value, hvalue, hread⟩ := Option.bind_eq_some_iff.mp h
  rw [findRtxAptPayloadType, hvalue, Option.bind_some]
  unfold parsePayloadTypeText at hread
  cases hnumber : readUInt32 (trim isBlank value) with
  | none =>
      rw [hnumber] at hread
      cases hread
  | some number =>
      rw [hnumber] at hread
      simp only at hread
      split_ifs at hread with hle
      cases hread
      obtain ⟨hne, hdigits, hdecimal⟩ := readUInt32_digits hnumber
      have hsmall : number.toNat ≤ 127 := UInt32.le_iff_toNat_le.mp hle
      have hvalueEq : UInt16.ofNat number.toNat = number.toUInt16 := by
        rw [← UInt16.toNat_inj, UInt32.toNat_toUInt16, UInt16.toNat_ofNat']
      simp [parseFmtpPayloadType, hne, hdigits, hdecimal, hsmall, hvalueEq]

/-- The answer sees a usable retransmission codec exactly where one was negotiated. -/
theorem answerCodecsIncludeUsableRtx_iff :
    answerCodecsIncludeUsableRtx (whepCodecs media publisher) = true ↔
      ∃ codec ∈ whepCodecs media publisher, isRtxCodec codec = true := by
  simp only [answerCodecsIncludeUsableRtx, List.any_eq_true, Bool.and_eq_true, isRtxCodec_eq]
  constructor
  · intro hcase
    obtain ⟨codec, hcodec, hrtx, _⟩ := hcase
    exact ⟨codec, hcodec, hrtx⟩
  · intro hcase
    obtain ⟨codec, hcodec, hrtx⟩ := hcase
    refine ⟨codec, hcodec, hrtx, ?_⟩
    have hmem := mem_whepRtxCodecs hcodec (by rw [isRtxCodec_eq, Bool.and_eq_true]; exact hrtx)
    obtain ⟨apt, repaired, _, _, hapt, hrepaired, _⟩ :=
      rtxCodecIsAnswerable_parts (List.mem_filter.mp hmem).2
    have hprimary := List.mem_of_find?_eq_some hrepaired
    obtain ⟨⟨original, -, hlisted⟩, -⟩ := mem_whepPrimaries.mp hprimary
    have hname := normalized_not_rtxName (normalizeListedCodec_some hlisted).2
    rw [findRtxAptPayloadType_of_apt hapt]
    simp only [answerPrimaryPayloadTypeExists, List.any_eq_true]
    refine ⟨repaired, List.mem_append_left _ hprimary, ?_⟩
    have hsame := List.find?_some hrepaired
    rw [hsame, hname]
    rfl

/-! ## Sections -/

theorem Configures.entry {source : SdpAnswerMediaSource} {mapping : MediaMapping}
    (h : Configures media publisher source mapping) {p : PayloadTypeMapping}
    (hp : p ∈ mapping.payloadTypes) :
    ∃ codec ∈ whepCodecs media publisher,
      ConfiguresCodec media publisher source.rtxRepairSsrc codec (some p) := by
  obtain ⟨entries, hforall, heq⟩ := h.entries
  rw [heq] at hp
  obtain ⟨entry, hentry, hsome⟩ := List.mem_filterMap.mp hp
  cases hsome
  exact forall₂_mem_right hforall hentry

theorem Configures.rtx_iff {source : SdpAnswerMediaSource} {mapping : MediaMapping}
    (h : Configures media publisher source mapping) :
    (∃ p ∈ mapping.payloadTypes, p.rtx = true) ↔
      (∃ codec ∈ whepCodecs media publisher, isRtxCodec codec = true) ∧
        source.rtxRepairSsrc ≠ 0 := by
  constructor
  · intro hcase
    obtain ⟨p, hp, hrtx⟩ := hcase
    obtain ⟨codec, hcodec, hconfigures⟩ := h.entry hp
    have hcodecRtx : isRtxCodec codec = true := by rw [← hconfigures.rtx p rfl, hrtx]
    refine ⟨⟨codec, hcodec, hcodecRtx⟩, ?_⟩
    intro hzero
    cases hconfigures.left_out.mpr ⟨hcodecRtx, hzero⟩
  · intro hcase
    obtain ⟨⟨codec, hcodec, hrtx⟩, hne⟩ := hcase
    obtain ⟨entries, hforall, heq⟩ := h.entries
    obtain ⟨entry, hentry, hconfigures⟩ := forall₂_mem_left hforall hcodec
    cases entry with
    | none => exact absurd (hconfigures.left_out.mp rfl).2 hne
    | some p =>
        refine ⟨p, ?_, by rw [hconfigures.rtx p rfl, hrtx]⟩
        rw [heq]
        exact List.mem_filterMap.mpr ⟨some p, hentry, rfl⟩

theorem Configures.sectionListed {options : SdpAnswerOptions} {source : SdpAnswerMediaSource}
    {mapping : MediaMapping} (h : Configures media publisher source mapping)
    (hsource : SourceOf media source)
    (hfind : findAnswerMediaSource options media publisher = some source) :
    SectionListed (makeAcceptedAnswerMedia options media (some publisher)
      (whepCodecs media publisher)) mapping := by
  have hextensions := (h.extensions fun id uri => ⟨ascii "extmap", decimal id ++ ascii " " ++ uri⟩ ∈
    (makeAcceptedAnswerMedia options media (some publisher)
      (whepCodecs media publisher)).attributes).mpr
    fun e he => mem_whep_extmap.mpr ⟨e, he, rfl⟩
  refine ⟨?_, hextensions.1, hextensions.2, ?_⟩
  · intro format
    constructor
    · intro hformat
      obtain ⟨codec, hcodec, rfl⟩ := List.mem_map.mp hformat
      obtain ⟨p, hp, htarget⟩ := (h.payloadTypes codec.payloadType.toNat).mpr
        ⟨codec, hcodec, rfl, fun hrtx => hsource.rtxRepairSsrc.mpr
          (whepRtxCodecs_video (mem_whepRtxCodecs hcodec hrtx))⟩
      exact ⟨p, hp, by rw [htarget]; rfl⟩
    · intro hcase
      obtain ⟨p, hp, htext⟩ := hcase
      obtain ⟨codec, hcodec, htarget, -⟩ := (h.payloadTypes _).mp ⟨p, hp, rfl⟩
      exact List.mem_map.mpr ⟨codec, hcodec, by rw [← htext, ← htarget]; rfl⟩
  · intro value
    rw [mem_whep_ssrcGroup, h.rtx_iff, h.targetSsrc, h.targetRtxSsrc,
      answerCodecsIncludeUsableRtx_iff]
    simp only [hfind, Option.some.injEq, exists_eq_left', and_assoc]

theorem Configures.sectionAgrees {options : SdpAnswerOptions} {source : SdpAnswerMediaSource}
    {mapping : MediaMapping} (h : Configures media publisher source mapping)
    (hwell : media.WellFormed) (hone : OneCodecPerPayloadType media)
    (hsource : SourceOf media source)
    (hfind : findAnswerMediaSource options media publisher = some source) :
    SectionAgrees (makeAcceptedAnswerMedia options media (some publisher)
      (whepCodecs media publisher)) mapping := by
  refine ⟨h.sectionListed hsource hfind, ?_, ?_⟩
  · intro p hp hprimary
    obtain ⟨codec, hcodec, hconfigures⟩ := h.entry hp
    have hnot : isRtxCodec codec = false := by rw [← hconfigures.rtx p rfl, hprimary]
    obtain ⟨described, hdescribed, hrate, hname, hsame, -⟩ := hconfigures.described p rfl
    have heq := offered_eq hone hcodec hdescribed (hsame hnot)
    rw [hrate, hname, heq.1, heq.2, hconfigures.target p rfl]
    exact rtpMapSays_negotiated hwell hone hcodec
  · intro p hp hrtx
    obtain ⟨codec, hcodec, hconfigures⟩ := h.entry hp
    have hyes : isRtxCodec codec = true := by rw [← hconfigures.rtx p rfl, hrtx]
    have hvideo := whepRtxCodecs_video (mem_whepRtxCodecs hcodec hyes)
    obtain ⟨described, hdescribed, hrate, hname, -, hrepairs⟩ := hconfigures.described p rfl
    obtain ⟨repaired, hrepaired, hsame, hassociated⟩ := hrepairs hyes
    have hmem : repaired ∈ whepCodecs media publisher := List.mem_append_left _ hrepaired
    have heq := offered_eq hone hmem hdescribed hsame
    have hrates : codec.clockRate = repaired.clockRate :=
      (whepCodecs_video_clockRate hvideo hcodec).trans
        (whepCodecs_video_clockRate hvideo hmem).symm
    rw [hrate, hname, heq.1, heq.2, hassociated, hconfigures.target p rfl]
    refine ⟨rtpMapSays_negotiated hwell hone hmem, codec.name, ?_, ?_⟩
    · rw [isRtxCodec_eq, Bool.and_eq_true] at hyes
      exact hyes.1
    · rw [← hrates]
      exact rtpMapSays_negotiated hwell hone hcodec

end

/-! ## Configurations -/

theorem findWhepForwardedPublisherMedia_mem {media publisher : MediaSummary} {index : ℕ}
    {subscriberOffer publisherOffer : WebrtcOfferSummary}
    (h : findWhepForwardedPublisherMedia media index subscriberOffer publisherOffer =
      some publisher) : publisher ∈ publisherOffer.media := by
  simp only [findWhepForwardedPublisherMedia, Option.bind_eq_bind, Option.bind_eq_some_iff] at h
  obtain ⟨_, _, ordinal, _, _, _, hplace⟩ := h
  exact (List.mem_filter.mp (List.mem_of_getElem? hplace)).1

/-- An answered offer can be configured, and the configuration agrees with the answer. -/
theorem configuration_agrees {subscriberOffer publisherOffer : WebrtcOfferSummary}
    {options : SdpAnswerOptions} {answer : BuiltSdpAnswer} {publisherSessionId : Text}
    (h : Answered subscriberOffer publisherOffer options answer)
    (hone : ∀ index ∈ answer.acceptedMlineIndexes, ∀ media,
      subscriberOffer.media[index]? = some media → OneCodecPerPayloadType media)
    (hsession : publisherSessionId ≠ []) :
    ∃ config, makeWhepRtpRewriterConfig publisherSessionId publisherOffer
        (answeredTarget subscriberOffer options answer) = .ok config ∧
      List.Forall₂ (fun index mapping => ∃ answered,
        answer.description.mediaDescriptions[index]? = some answered ∧
          SectionAgrees answered mapping) answer.acceptedMlineIndexes config.media := by
  obtain ⟨description, hsubscriber⟩ := h.subscriber
  obtain ⟨publisherDescription, hpublisher⟩ := h.publisher
  obtain ⟨cnameValues, g, hsources⟩ := h.sources
  have hwell := extractWebrtcOfferSummary_wellFormed hsubscriber
  have hpublisherWell := extractWebrtcOfferSummary_wellFormed hpublisher
  have hsourceOf := makeWhepOutboundMediaSources_sourceOf cnameValues g subscriberOffer
  rw [← hsources] at hsourceOf
  have hmids := validateWhepOffer_mids h.validSubscriber
  have hinRange : ∀ index ∈ answer.acceptedMlineIndexes, index < subscriberOffer.media.length := by
    intro index hindex
    obtain ⟨media, _, hplace, _⟩ := whep_accepted_section h.answered hindex
    exact (List.getElem?_eq_some_iff.mp hplace).1
  have hpaired := forall₂_zip_map Int.ofNat
    (filterWhepOutboundMediaSources_forall₂ hsourceOf hinRange)
  obtain ⟨media, hmedia, hforall⟩ := exists_mapM_ok
    (f := makeMediaMapping publisherOffer subscriberOffer)
    (S := fun index mapping => ∃ answered,
      answer.description.mediaDescriptions[index]? = some answered ∧
        SectionAgrees answered mapping) hpaired fun index hindex pair hpair => by
      obtain ⟨place, source⟩ := pair
      obtain ⟨rfl, hsource⟩ := hpair
      obtain ⟨media, publisher, hplace, hforwarded, hcodecs, hsection⟩ :=
        whep_accepted_section h.answered hindex
      have hmediaWell := hwell media (List.mem_of_getElem? hplace)
      have hpublisherMedia := hpublisherWell publisher (findWhepForwardedPublisherMedia_mem hforwarded)
      have hmediaOne := hone index hindex media hplace
      have hmediaSource := forall₂_getElem? hsourceOf hplace hsource
      obtain ⟨mapping, hmapping⟩ := makeMediaMapping_ok hplace hmediaWell hpublisherMedia hmediaOne
        hmediaSource hforwarded hcodecs
      obtain ⟨other, hother, hconfigures⟩ :=
        makeMediaMapping_configures hplace hmediaWell hmapping
      rw [hforwarded] at hother
      cases hother
      have hfind : findAnswerMediaSource options media publisher = some source := by
        rw [findAnswerMediaSource, find?_sourceOf hsourceOf hmids hplace hsource]
        rfl
      exact ⟨mapping, hmapping, _, hsection,
        hconfigures.sectionAgrees hmediaWell hmediaOne hmediaSource hfind⟩
  refine ⟨⟨publisherSessionId, media⟩, ?_, hforall⟩
  have hlength : (answeredTarget subscriberOffer options answer).acceptedMlineIndexes.length =
      (answeredTarget subscriberOffer options answer).acceptedMediaSources.length := by
    rw [answeredTarget, List.length_map]
    exact (filterWhepOutboundMediaSources_forall₂ hsourceOf hinRange).length_eq
  have hne : media ≠ [] := by
    intro hnil
    rw [hnil, List.forall₂_nil_right_iff] at hforall
    exact (buildAnswer_ok h.answered).2.2 hforall
  apply bind_ok.mpr ⟨⟨⟩, ensure_ok.mpr hsession, _⟩
  apply bind_ok.mpr ⟨⟨⟩, ensure_ok.mpr hlength, _⟩
  apply bind_ok.mpr ⟨media, hmedia, _⟩
  exact bind_ok.mpr ⟨⟨⟩, ensure_ok.mpr hne, rfl⟩

/-- A section which gives the payload type 96 two codecs, the first without a clock rate. -/
def twoCodecsSubscriber : WebrtcOfferSummary :=
  extractedOffer (publisherDescription "BUNDLE v" [{
    mediaName := { media := ascii "video", port := 9, formats := [ascii "96"] }
    attributes :=
      [⟨ascii "mid", ascii "v"⟩, { key := ascii "recvonly" }, { key := ascii "rtcp-mux" },
        ⟨ascii "rtpmap", ascii "96 other/0"⟩, ⟨ascii "rtpmap", ascii "96 VP8/90000"⟩] }])

/-- Such a section is answered and cannot be configured. -/
example : ((buildWhepAnswer twoCodecsSubscriber plainPublisher localOptions).toOption.map
      fun answer => (answer.acceptedMlineIndexes,
        (makeWhepRtpRewriterConfig (ascii "publisher") plainPublisher
          { subscriberOffer := twoCodecsSubscriber
            acceptedMlineIndexes := [0]
            acceptedMediaSources := videoSources }).toOption)) = some ([0], none) := by
  decide +kernel

/-! ## A section with a retransmission codec -/

def twoSsrcs : SsrcGenerator where
  draw := fun n => if n = 0 then 1 else 2
  draw_ne_zero := by
    intro n
    split <;> decide

def rtxOptions : SdpAnswerOptions :=
  { localOptions with
    mediaSources := makeWhepOutboundMediaSources id twoSsrcs rtxSubscriber }

def rtxAnswer : BuiltSdpAnswer :=
  ((buildWhepAnswer rtxSubscriber rtxPublisher rtxOptions).toOption).getD ⟨{}, []⟩

theorem rtx_answered : Answered rtxSubscriber rtxPublisher rtxOptions rtxAnswer := by
  constructor
  · exact ⟨vp8RtxDescription "v" "recvonly", by decide +kernel⟩
  · exact ⟨vp8RtxDescription "0" "sendonly", by decide +kernel⟩
  · decide +kernel
  · decide +kernel
  · exact ⟨id, twoSsrcs, rfl⟩
  · decide +kernel

theorem configuration_agrees_rtx :
    ∃ config, makeWhepRtpRewriterConfig (ascii "publisher") rtxPublisher
        (answeredTarget rtxSubscriber rtxOptions rtxAnswer) = .ok config ∧
      List.Forall₂ (fun index mapping => ∃ answered,
        rtxAnswer.description.mediaDescriptions[index]? = some answered ∧
          SectionAgrees answered mapping) rtxAnswer.acceptedMlineIndexes config.media := by
  apply configuration_agrees rtx_answered _ (by decide)
  have hmedia : ∀ media ∈ rtxSubscriber.media, ∀ a ∈ media.codecs, ∀ b ∈ media.codecs,
      a.payloadType = b.payloadType → a.name = b.name ∧ a.clockRate = b.clockRate := by
    decide +kernel
  intro index _ media hplace
  exact hmedia media (List.mem_of_getElem? hplace)

def entryNames (mapping : MediaMapping) : List (UInt8 × Text) :=
  mapping.payloadTypes.map fun p => (p.targetPayloadType, p.codecName)

/-- The entry of the retransmission codec has the name VP8. -/
theorem configuration_not_rtpmap :
    ¬ ∀ (subscriberOffer publisherOffer : WebrtcOfferSummary) (options : SdpAnswerOptions)
      (answer : BuiltSdpAnswer) (publisherSessionId : Text),
      Answered subscriberOffer publisherOffer options answer → publisherSessionId ≠ [] →
      ∃ config, makeWhepRtpRewriterConfig publisherSessionId publisherOffer
          (answeredTarget subscriberOffer options answer) = .ok config ∧
        List.Forall₂ (fun index mapping => ∃ answered,
          answer.description.mediaDescriptions[index]? = some answered ∧
            SectionListed answered mapping ∧ ∀ p ∈ mapping.payloadTypes,
              RtpMapSays answered p.targetPayloadType.toNat p.codecName p.clockRate)
          answer.acceptedMlineIndexes config.media := by
  intro hall
  obtain ⟨config, hconfig, hforall⟩ := hall _ _ _ _ (ascii "publisher") rtx_answered (by decide)
  have haccepted : rtxAnswer.acceptedMlineIndexes = [0] ∧
      rtxAnswer.description.mediaDescriptions.all (fun answered => decide
        (⟨ascii "rtpmap", ascii "97 rtx/90000"⟩ ∈ answered.attributes)) = true := by
    decide +kernel
  have hentries : ((makeWhepRtpRewriterConfig (ascii "publisher") rtxPublisher
      (answeredTarget rtxSubscriber rtxOptions rtxAnswer)).toOption.map fun config =>
        config.media.map entryNames) =
      some [[(96, ascii "VP8"), (97, ascii "VP8")]] := by decide +kernel
  rw [hconfig] at hentries
  have hnames : config.media.map entryNames = [[(96, ascii "VP8"), (97, ascii "VP8")]] :=
    Option.some.inj hentries
  rw [haccepted.1] at hforall
  cases hmedia : config.media with
  | nil =>
      rw [hmedia] at hforall
      cases hforall
  | cons mapping rest =>
      rw [hmedia] at hforall hnames
      obtain ⟨answered, hplace, -, hrtpmaps⟩ := (List.forall₂_cons.mp hforall).1
      have hmember : (97, ascii "VP8") ∈ entryNames mapping := by
        rw [(List.cons.inj hnames).1]
        simp
      obtain ⟨p, hp, hname⟩ := List.mem_map.mp hmember
      obtain ⟨htarget, hcodecName⟩ := Prod.mk.inj hname
      have hrtpmap := List.all_eq_true.mp haccepted.2 answered (List.mem_of_getElem? hplace)
      rw [decide_eq_true_eq] at hrtpmap
      have hread : parseRtpMapAttribute (ascii "97 rtx/90000") =
          .ok { payloadType := 97
                name := ascii "rtx"
                clockRate := 90000 } := by decide +kernel
      have heq := ((hrtpmaps p hp).every _ _ hrtpmap hread (by rw [htarget]; rfl)).1
      rw [hcodecName] at heq
      revert heq
      decide

end SimpleWebrtc.RewriterConfig
