import SimpleWebrtc.WhipAnswer

/-!
# The answer a subscriber gets

Against a publisher's section the codecs of a subscriber's section are chosen
one by one: a primary codec which the publisher can feed, and a retransmission
codec for one of those which the publisher also retransmits. So the list which
`negotiate_codecs` builds up by appending has a closed form. An accepted section
lists these codecs, and its attributes are read back from it.
-/
namespace SimpleWebrtc.SdpAnswer
open Library Library.Text SdpSummary SdpCodecNegotiator

/-! ## Negotiated codecs in closed form -/

/-- The primary codecs of a subscriber's section which the publisher's section can feed. -/
def whepPrimaries (subscriberMedia publisherMedia : MediaSummary) : List CodecInfo :=
  sortPrimaryCodecsByAnswerPreference subscriberMedia
    ((subscriberMedia.codecs.filterMap (normalizeListedCodec subscriberMedia)).filter
      (hasCompatiblePublisherCodec publisherMedia))

/-- The retransmission codecs of a subscriber's section which the publisher's section can feed. -/
def whepRtxCodecs (subscriberMedia publisherMedia : MediaSummary) : List CodecInfo :=
  subscriberMedia.codecs.filter (rtxCodecIsAnswerable subscriberMedia publisherMedia
    (whepPrimaries subscriberMedia publisherMedia))

def whepCodecs (subscriberMedia publisherMedia : MediaSummary) : List CodecInfo :=
  whepPrimaries subscriberMedia publisherMedia ++ whepRtxCodecs subscriberMedia publisherMedia

/-- Appending is filtering when what was appended before makes no difference. -/
theorem appendAnswerable_eq {answerable : List CodecInfo → CodecInfo → Bool}
    {base : List CodecInfo}
    (h : ∀ added codec, (∀ a ∈ added, answerable base a = true) →
      answerable (base ++ added) codec = answerable base codec) (offered : List CodecInfo) :
    appendAnswerable answerable base offered = base ++ offered.filter (answerable base) := by
  have hgeneral : ∀ added : List CodecInfo, (∀ a ∈ added, answerable base a = true) →
      appendAnswerable answerable (base ++ added) offered =
        base ++ added ++ offered.filter (answerable base) := by
    induction offered with
    | nil => simp [appendAnswerable]
    | cons codec rest ih =>
        intro added hadded
        rw [appendAnswerable, List.foldl_cons, h added codec hadded]
        cases hcodec : answerable base codec with
        | false =>
            simp only [Bool.false_eq_true, if_false]
            rw [List.filter_cons_of_neg (by simp [hcodec])]
            exact ih added hadded
        | true =>
            have hnext : ∀ a ∈ added ++ [codec], answerable base a = true := by
              intro a ha
              rcases List.mem_append.mp ha with ha | ha
              · exact hadded a ha
              · rwa [List.mem_singleton.mp ha]
            simp only [if_true]
            rw [List.filter_cons_of_pos hcodec]
            have htail := ih (added ++ [codec]) hnext
            simpa [appendAnswerable] using htail
  simpa using hgeneral [] (by simp)

/-- A supported codec has another name than a retransmission codec. -/
theorem normalized_not_rtxName {media : MediaSummary} {original codec : CodecInfo}
    (h : normalizeSupportedCodec media original = some codec) : isRtxName codec = false := by
  obtain ⟨fmtp, rfl⟩ := normalizeSupportedCodec_origin h
  have hsupported := normalizeSupportedCodec_supported h
  have hname : toLower original.name ≠ toLower (ascii "rtx") := by
    intro hrtx
    have hopus : toLower (ascii "rtx") ≠ toLower (ascii "opus") := by decide
    have hvp8 : toLower (ascii "rtx") ≠ toLower (ascii "VP8") := by decide
    have hh264 : toLower (ascii "rtx") ≠ toLower (ascii "H264") := by decide
    simp [isSupportedCodec, isSupportedAudioCodec, isSupportedVideoCodec, isOpusCodec,
      isVp8Codec, isH264Codec, iequals, hrtx, hopus, hvp8, hh264] at hsupported
  simp [isRtxName, CodecInfo.withFmtp, iequals, hname]

theorem isRtxCodec_eq (codec : CodecInfo) :
    isRtxCodec codec = (isRtxName codec && decide (codec.clockRate = 90000)) := rfl

/-- A supported codec is no retransmission codec. -/
theorem normalized_not_rtx {media : MediaSummary} {original codec : CodecInfo}
    (h : normalizeSupportedCodec media original = some codec) : isRtxCodec codec = false := by
  rw [isRtxCodec_eq, normalized_not_rtxName h, Bool.false_and]

/-- What is compatible with a retransmission codec is one. -/
theorem compatible_rtx {publisher subscriber : CodecInfo}
    (h : codecsAreCompatible publisher subscriber = true) :
    isRtxCodec publisher = isRtxCodec subscriber := by
  simp only [codecsAreCompatible, Bool.and_eq_true, iequals, decide_eq_true_eq] at h
  simp only [isRtxCodec, iequals, h.1.1.1, h.1.1.2]

theorem publisherCodecMatches_not_rtx {publisherMedia : MediaSummary}
    {subscriberCodec publisherCodec : CodecInfo}
    (h : publisherCodecMatches publisherMedia subscriberCodec publisherCodec = true) :
    isRtxCodec subscriberCodec = false ∧ isRtxCodec publisherCodec = false := by
  unfold publisherCodecMatches at h
  cases hnormalized : normalizeSupportedCodec publisherMedia publisherCodec with
  | none => simp [hnormalized] at h
  | some normalized =>
      rw [hnormalized, Bool.and_eq_true] at h
      have hnormalizedRtx := normalized_not_rtx hnormalized
      obtain ⟨fmtp, rfl⟩ := normalizeSupportedCodec_origin hnormalized
      exact ⟨(compatible_rtx h.2).symm.trans hnormalizedRtx, hnormalizedRtx⟩

theorem findCompatiblePublisherPrimaryCodec_rtx {publisherMedia : MediaSummary}
    {codec : CodecInfo} (h : isRtxCodec codec = true) :
    findCompatiblePublisherPrimaryCodec publisherMedia codec = none := by
  rw [findCompatiblePublisherPrimaryCodec, List.find?_eq_none]
  intro publisherCodec _ hmatches
  rw [Bool.and_eq_true] at hmatches
  rw [(publisherCodecMatches_not_rtx hmatches.2).1] at h
  cases h

theorem rtxCodecIsAnswerable_rtx {subscriberMedia publisherMedia : MediaSummary}
    {selected : List CodecInfo} {codec : CodecInfo}
    (h : rtxCodecIsAnswerable subscriberMedia publisherMedia selected codec = true) :
    isRtxCodec codec = true := by
  unfold rtxCodecIsAnswerable rtxPrimary at h
  split_ifs at h with hcondition
  · exact hcondition.2.1
  · simp at h

/-- Retransmission codecs do not repair one another. -/
theorem rtxCodecIsAnswerable_append {subscriberMedia publisherMedia : MediaSummary}
    {selected added : List CodecInfo} (hadded : ∀ a ∈ added, isRtxCodec a = true)
    (codec : CodecInfo) :
    rtxCodecIsAnswerable subscriberMedia publisherMedia (selected ++ added) codec =
      rtxCodecIsAnswerable subscriberMedia publisherMedia selected codec := by
  have hfind : ∀ payloadType,
      (findSelectedCodecByPayloadType (selected ++ added) payloadType).bind
          (findCompatiblePublisherPrimaryCodec publisherMedia) =
        (findSelectedCodecByPayloadType selected payloadType).bind
          (findCompatiblePublisherPrimaryCodec publisherMedia) := by
    intro payloadType
    simp only [findSelectedCodecByPayloadType, List.find?_append]
    cases selected.find? fun c => decide (c.payloadType = payloadType) with
    | some primary => rfl
    | none =>
        cases hlate : added.find? fun c => decide (c.payloadType = payloadType) with
        | none => rfl
        | some late =>
            have hrtx := hadded late (List.mem_of_find?_eq_some hlate)
            simp [findCompatiblePublisherPrimaryCodec_rtx hrtx]
  unfold rtxCodecIsAnswerable rtxPrimary
  split_ifs
  · cases findCodecAptPayloadType codec with
    | none => rfl
    | some apt => simp only [Option.bind_some, hfind]
  · rfl

/-- What a successful negotiation has checked, and what it returns. -/
theorem negotiateCodecs_ok {subscriberMedia publisherMedia : MediaSummary}
    {codecs : List CodecInfo} (h : negotiateCodecs subscriberMedia publisherMedia = .ok codecs) :
    codecs = whepCodecs subscriberMedia publisherMedia ∧
      whepPrimaries subscriberMedia publisherMedia ≠ [] := by
  obtain ⟨_, _, h⟩ := bind_ok.mp h
  obtain ⟨_, _, h⟩ := bind_ok.mp h
  obtain ⟨_, _, h⟩ := bind_ok.mp h
  obtain ⟨_, _, h⟩ := bind_ok.mp h
  obtain ⟨_, hne, h⟩ := bind_ok.mp h
  cases h
  have hselected := ensure_ok.mp hne
  constructor
  · apply appendAnswerable_eq
    intro added codec hadded
    exact rtxCodecIsAnswerable_append (fun a ha => rtxCodecIsAnswerable_rtx (hadded a ha)) codec
  · intro hnil
    have hperm := List.perm_insertionSort (fun left right =>
      codecAnswerPreferenceRank subscriberMedia left ≤
        codecAnswerPreferenceRank subscriberMedia right)
      ((subscriberMedia.codecs.filterMap (normalizeListedCodec subscriberMedia)).filter
        (hasCompatiblePublisherCodec publisherMedia))
    rw [whepPrimaries, sortPrimaryCodecsByAnswerPreference] at hnil
    rw [hnil] at hperm
    exact hselected hperm.symm.eq_nil

theorem mem_whepPrimaries {subscriberMedia publisherMedia : MediaSummary} {codec : CodecInfo} :
    codec ∈ whepPrimaries subscriberMedia publisherMedia ↔
      (∃ original ∈ subscriberMedia.codecs,
        normalizeListedCodec subscriberMedia original = some codec) ∧
      hasCompatiblePublisherCodec publisherMedia codec = true := by
  have hperm := List.perm_insertionSort (fun left right =>
    codecAnswerPreferenceRank subscriberMedia left ≤
      codecAnswerPreferenceRank subscriberMedia right)
    ((subscriberMedia.codecs.filterMap (normalizeListedCodec subscriberMedia)).filter
      (hasCompatiblePublisherCodec publisherMedia))
  rw [whepPrimaries, sortPrimaryCodecsByAnswerPreference, hperm.mem_iff, List.mem_filter,
    List.mem_filterMap]

theorem normalizeListedCodec_some {media : MediaSummary} {original codec : CodecInfo}
    (h : normalizeListedCodec media original = some codec) :
    original.payloadType ∈ media.payloadTypes ∧
      normalizeSupportedCodec media original = some codec := by
  unfold normalizeListedCodec at h
  split_ifs at h with hlisted
  exact ⟨hlisted, h⟩

theorem whepPrimaries_not_rtx {subscriberMedia publisherMedia : MediaSummary} {codec : CodecInfo}
    (h : codec ∈ whepPrimaries subscriberMedia publisherMedia) : isRtxCodec codec = false := by
  obtain ⟨⟨original, -, hlisted⟩, -⟩ := mem_whepPrimaries.mp h
  exact normalized_not_rtx (normalizeListedCodec_some hlisted).2

theorem whepRtxCodecs_rtx {subscriberMedia publisherMedia : MediaSummary} {codec : CodecInfo}
    (h : codec ∈ whepRtxCodecs subscriberMedia publisherMedia) : isRtxCodec codec = true :=
  rtxCodecIsAnswerable_rtx (List.mem_filter.mp h).2

/-! ## Accepted sections -/

theorem answeredCodecs_whep {media : MediaSummary} {index : ℕ} {offer publisherOffer :
    WebrtcOfferSummary} {forwarded : Option MediaSummary} {codecs : List CodecInfo}
    (h : answeredCodecs media index offer (some publisherOffer) = some (forwarded, codecs)) :
    ∃ publisher, forwarded = some publisher ∧
      findWhepForwardedPublisherMedia media index offer publisherOffer = some publisher ∧
      negotiateCodecs media publisher = .ok codecs := by
  unfold answeredCodecs at h
  cases hpublisher : findWhepForwardedPublisherMedia media index offer publisherOffer with
  | none => simp [hpublisher] at h
  | some publisher =>
      cases hcodecs : negotiateCodecs media publisher with
      | error message => simp [hpublisher, hcodecs, Except.toOption] at h
      | ok negotiated =>
          by_cases hnil : negotiated = []
          · simp [hpublisher, hcodecs, Except.toOption, hnil] at h
          · simp only [hpublisher, hcodecs, Except.toOption, Option.bind_eq_bind,
              Option.bind_some, Option.pure_def, hnil, not_false_eq_true, guard, ne_eq, if_true,
              Option.some.injEq, Prod.mk.injEq] at h
            obtain ⟨hforwarded, rfl⟩ := h
            exact ⟨publisher, hforwarded.symm, rfl, hcodecs⟩

theorem makeAnswerMedia_whep {options : SdpAnswerOptions} {media : MediaSummary} {index : ℕ}
    {offer publisherOffer : WebrtcOfferSummary}
    (h : isAnswerMediaRejected (makeAnswerMedia options media index offer (some publisherOffer)) =
      false) :
    ∃ publisher codecs,
      findWhepForwardedPublisherMedia media index offer publisherOffer = some publisher ∧
      negotiateCodecs media publisher = .ok codecs ∧
      makeAnswerMedia options media index offer (some publisherOffer) =
        makeAcceptedAnswerMedia options media (some publisher) codecs := by
  have hrejected : isAnswerMediaRejected (makeRejectedAnswerMedia media) = true := rfl
  unfold makeAnswerMedia at h ⊢
  split_ifs at h ⊢ with hdirection
  · rw [hrejected] at h
    cases h
  · cases hanswered : answeredCodecs media index offer (some publisherOffer) with
    | none =>
        rw [hanswered, hrejected] at h
        cases h
    | some answered =>
        obtain ⟨forwarded, codecs⟩ := answered
        obtain ⟨publisher, rfl, hpublisher, hcodecs⟩ := answeredCodecs_whep hanswered
        exact ⟨publisher, codecs, hpublisher, hcodecs, rfl⟩

theorem buildAnswer_ok {offer : WebrtcOfferSummary} {options : SdpAnswerOptions}
    {whepPublisherOffer : Option WebrtcOfferSummary} {answer : BuiltSdpAnswer}
    (h : buildAnswer offer options whepPublisherOffer = .ok answer) :
    answer.description.mediaDescriptions =
        answerMediaDescriptions options offer whepPublisherOffer ∧
      answer.acceptedMlineIndexes =
        acceptedIndexes (answerMediaDescriptions options offer whepPublisherOffer) ∧
      answer.acceptedMlineIndexes ≠ [] := by
  obtain ⟨_, _, h⟩ := bind_ok.mp h
  obtain ⟨_, _, h⟩ := bind_ok.mp h
  obtain ⟨_, hne, h⟩ := bind_ok.mp h
  cases h
  exact ⟨rfl, rfl, ensure_ok.mp hne⟩

/-- The section of the answer for an accepted section of a subscriber's offer. -/
theorem whep_accepted_section {subscriberOffer publisherOffer : WebrtcOfferSummary}
    {options : SdpAnswerOptions} {answer : BuiltSdpAnswer}
    (h : buildWhepAnswer subscriberOffer publisherOffer options = .ok answer) {index : ℕ}
    (hindex : index ∈ answer.acceptedMlineIndexes) :
    ∃ media publisher, subscriberOffer.media[index]? = some media ∧
      findWhepForwardedPublisherMedia media index subscriberOffer publisherOffer =
        some publisher ∧
      negotiateCodecs media publisher = .ok (whepCodecs media publisher) ∧
      answer.description.mediaDescriptions[index]? = some
        (makeAcceptedAnswerMedia options media (some publisher) (whepCodecs media publisher)) := by
  obtain ⟨hmedia, haccepted, -⟩ := buildAnswer_ok h
  rw [haccepted, acceptedIndexes, List.mem_filter, answerMediaDescriptions,
    List.getElem?_mapIdx] at hindex
  cases hplace : subscriberOffer.media[index]? with
  | none => simp [hplace] at hindex
  | some media =>
      rw [hplace] at hindex
      have hkept : isAnswerMediaRejected
          (makeAnswerMedia options media index subscriberOffer (some publisherOffer)) = false := by
        simpa using hindex.2
      obtain ⟨publisher, codecs, hpublisher, hcodecs, hanswer⟩ := makeAnswerMedia_whep hkept
      obtain ⟨rfl, -⟩ := negotiateCodecs_ok hcodecs
      refine ⟨media, publisher, rfl, hpublisher, hcodecs, ?_⟩
      rw [hmedia, answerMediaDescriptions, List.getElem?_mapIdx, hplace, Option.map_some, hanswer]

/-! ## Attributes of an accepted section -/

/-- The attributes of a sending section other than those of codecs, header extensions and
sources. -/
def whepOtherKeys : List Text := ascii "sendonly" :: otherKeys

/-- An attribute of a codec, a header extension or a source is found among those alone. -/
theorem mem_whep_attributes {options : SdpAnswerOptions} {media publisher : MediaSummary}
    {codecs : List CodecInfo} {key : Text} (hkey : key ∉ whepOtherKeys) (value : Text) :
    (⟨key, value⟩ : SdpAttribute) ∈
        (makeAcceptedAnswerMedia options media (some publisher) codecs).attributes ↔
      (⟨key, value⟩ : SdpAttribute) ∈ headerExtensionAttributes media (some publisher)
        (mediaOffersTransportCc media codecs false) ∨
      (⟨key, value⟩ : SdpAttribute) ∈ codecAttributes media.kind codecs true
        (mediaOffersTransportCc media codecs false) ∨
      (⟨key, value⟩ : SdpAttribute) ∈ sendingAttributes options media publisher codecs := by
  have hother : key ∉ otherKeys := fun hmem => hkey (List.mem_cons_of_mem _ hmem)
  have hhead : KeysIn whepOtherKeys [⟨ascii "mid", media.mid⟩,
      { key := (makeAnswerDirection true media).toText }, { key := ascii "rtcp-mux" }] := by
    intro a ha
    simp only [List.mem_cons, List.not_mem_nil, or_false] at ha
    rcases ha with rfl | rfl | rfl
    · simp [whepOtherKeys, otherKeys]
    · by_cases hinactive : media.direction = .inactive
      · simp [makeAnswerDirection, hinactive, MediaDirection.toText, whepOtherKeys, otherKeys]
      · simp [makeAnswerDirection, hinactive, MediaDirection.toText, whepOtherKeys]
    · simp [whepOtherKeys, otherKeys]
  have hrsize : KeysIn otherKeys (propertyIf media.rtcpRsize (ascii "rtcp-rsize")) :=
    propertyIf_keysIn (by simp [otherKeys]) _
  have hsimulcast := simulcastAttributes_keysIn (ascii "send")
    (collectAnswerableWhepSimulcastRids media publisher)
  simp only [makeAcceptedAnswerMedia, Option.isSome_some, Bool.not_true, List.mem_append,
    hhead.not_mem hkey, hrsize.not_mem hother, hsimulcast.not_mem hother,
    (mediaTimingAttributes_keysIn media).not_mem hother,
    (iceCandidateAttributes_keysIn options).not_mem hother, false_or, or_false, or_assoc]

theorem sendingAttributes_keysIn (options : SdpAnswerOptions) (media publisher : MediaSummary)
    (codecs : List CodecInfo) :
    KeysIn [ascii "msid", ascii "ssrc", ascii "ssrc-group"]
      (sendingAttributes options media publisher codecs) := by
  intro a ha
  rw [sendingAttributes, List.mem_cons] at ha
  rcases ha with rfl | ha
  · simp
  · cases hsource : findAnswerMediaSource options media publisher with
    | none => simp [hsource] at ha
    | some source =>
        simp only [hsource, mediaSourceAttributes, ssrcAttributes] at ha
        split_ifs at ha
        · simp only [List.mem_append, List.mem_cons, List.not_mem_nil, or_false] at ha
          rcases ha with rfl | rfl <;> simp
        · simp only [List.mem_append, List.mem_cons, List.not_mem_nil, or_false] at ha
          rcases ha with (rfl | rfl) | rfl | rfl | rfl <;> simp

/-- The `extmap` attributes of an accepted section. -/
theorem mem_whep_extmap {options : SdpAnswerOptions} {media publisher : MediaSummary}
    {codecs : List CodecInfo} {value : Text} :
    (⟨ascii "extmap", value⟩ : SdpAttribute) ∈
        (makeAcceptedAnswerMedia options media (some publisher) codecs).attributes ↔
      ∃ e ∈ selectAnswerHeaderExtensions media (some publisher)
          (mediaOffersTransportCc media codecs false), makeExtmapValue e = value := by
  have hkey : ascii "extmap" ∉ whepOtherKeys := by decide
  have hmixed : ascii "extmap" ≠ ascii "extmap-allow-mixed" := by decide
  have hsending := (sendingAttributes_keysIn options media publisher codecs).not_mem
    (show ascii "extmap" ∉ [ascii "msid", ascii "ssrc", ascii "ssrc-group"] by decide) value
  rw [mem_whep_attributes hkey, codecAttributes]
  simp only [codecAttributes_not_extmap, hsending, or_false, headerExtensionAttributes,
    List.mem_append, List.mem_map, SdpAttribute.mk.injEq, true_and]
  split_ifs
  · simp [hmixed]
  · simp

/-- The `rtpmap` attributes of an accepted section. -/
theorem mem_whep_rtpmap {options : SdpAnswerOptions} {media publisher : MediaSummary}
    {codecs : List CodecInfo} {value : Text} :
    (⟨ascii "rtpmap", value⟩ : SdpAttribute) ∈
        (makeAcceptedAnswerMedia options media (some publisher) codecs).attributes ↔
      ∃ codec ∈ codecs, makeRtpMapValue codec = value := by
  have hkey : ascii "rtpmap" ∉ whepOtherKeys := by decide
  have hextensions : (⟨ascii "rtpmap", value⟩ : SdpAttribute) ∉ headerExtensionAttributes media
      (some publisher) (mediaOffersTransportCc media codecs false) :=
    headerExtensionAttributes_keys (by decide) (by decide)
  have hsending := (sendingAttributes_keysIn options media publisher codecs).not_mem
    (show ascii "rtpmap" ∉ [ascii "msid", ascii "ssrc", ascii "ssrc-group"] by decide) value
  rw [mem_whep_attributes hkey, codecAttributes, mem_codecAttributesFrom_rtpmap]
  simp [hextensions, hsending]

/-- The two SSRCs of a source and its retransmissions. -/
def fidValue (ssrc rtxRepairSsrc : UInt32) : Text :=
  ascii "FID " ++ decimal ssrc.toNat ++ ascii " " ++ decimal rtxRepairSsrc.toNat

theorem mem_mediaSourceAttributes_group {source : SdpAnswerMediaSource} {msid value : Text}
    {includeRtxRepairSource : Bool} :
    (⟨ascii "ssrc-group", value⟩ : SdpAttribute) ∈
        mediaSourceAttributes source msid includeRtxRepairSource ↔
      includeRtxRepairSource = true ∧ source.rtxRepairSsrc ≠ 0 ∧
        fidValue source.ssrc source.rtxRepairSsrc = value := by
  have hssrc : ascii "ssrc-group" ≠ ascii "ssrc" := by decide
  unfold mediaSourceAttributes ssrcAttributes
  split_ifs with hleft
  · have hnot : ¬(includeRtxRepairSource = true ∧ source.rtxRepairSsrc ≠ 0) := by
      intro hcase
      obtain ⟨hinclude, hne⟩ := hcase
      rcases hleft with hleft | hleft
      · rw [hinclude] at hleft
        cases hleft
      · exact hne hleft
    simp [hssrc, ← and_assoc, hnot]
  · have hboth : includeRtxRepairSource = true ∧ source.rtxRepairSsrc ≠ 0 := by
      simpa using hleft
    simp only [List.mem_append, List.mem_cons, SdpAttribute.mk.injEq, hssrc, false_and,
      List.not_mem_nil, or_false, true_and, false_or, ← and_assoc, and_iff_right hboth, fidValue]
    exact eq_comm

/-- The `ssrc-group` attributes of an accepted section. -/
theorem mem_whep_ssrcGroup {options : SdpAnswerOptions} {media publisher : MediaSummary}
    {codecs : List CodecInfo} {value : Text} :
    (⟨ascii "ssrc-group", value⟩ : SdpAttribute) ∈
        (makeAcceptedAnswerMedia options media (some publisher) codecs).attributes ↔
      ∃ source, findAnswerMediaSource options media publisher = some source ∧
        answerCodecsIncludeUsableRtx codecs = true ∧ source.rtxRepairSsrc ≠ 0 ∧
        fidValue source.ssrc source.rtxRepairSsrc = value := by
  have hkey : ascii "ssrc-group" ∉ whepOtherKeys := by decide
  have hmsid : ascii "ssrc-group" ≠ ascii "msid" := by decide
  have hextensions : (⟨ascii "ssrc-group", value⟩ : SdpAttribute) ∉ headerExtensionAttributes media
      (some publisher) (mediaOffersTransportCc media codecs false) :=
    headerExtensionAttributes_keys (by decide) (by decide)
  have hcodecs : (⟨ascii "ssrc-group", value⟩ : SdpAttribute) ∉ codecAttributes media.kind codecs
      true (mediaOffersTransportCc media codecs false) :=
    (codecAttributesFrom_keysIn _ _ _).not_mem (by decide) value
  rw [mem_whep_attributes hkey, sendingAttributes]
  cases findAnswerMediaSource options media publisher with
  | none => simp [hextensions, hcodecs, hmsid]
  | some source => simp [hextensions, hcodecs, hmsid, mem_mediaSourceAttributes_group]

end SimpleWebrtc.SdpAnswer
