import SimpleWebrtc.OfferFacts
import SimpleWebrtc.SdpAnswer

/-!
# The answer a publisher gets

The codecs of an accepted section come from the offered ones and keep all but
their format parameters. The attributes that describe codecs and header
extensions are read back from the section, whatever else it contains.
-/
namespace SimpleWebrtc.SdpAnswer
open Library Library.Text SdpSummary SdpCodecNegotiator

/-! ## Codecs of a receiving section -/

/-- The codecs a publisher's section is answered with. -/
def whipCodecs (media : MediaSummary) : List CodecInfo :=
  match negotiateOfferCodecs media with
  | .ok codecs => removeUnimplementedAnswerCodecs codecs
  | .error _ => []

theorem normalizeSupportedCodec_origin {media : MediaSummary} {original codec : CodecInfo}
    (h : normalizeSupportedCodec media original = some codec) :
    ∃ fmtp, codec = CodecInfo.withFmtp original fmtp := by
  unfold normalizeSupportedCodec at h
  split_ifs at h
  · obtain ⟨fmtp, -, rfl⟩ := Option.map_eq_some_iff.mp h
    exact ⟨fmtp, rfl⟩
  · obtain ⟨fmtp, -, rfl⟩ := Option.map_eq_some_iff.mp h
    exact ⟨fmtp, rfl⟩
  · cases h
    exact ⟨original.fmtp, rfl⟩

theorem supported_clockRate {media : MediaSummary} {codec : CodecInfo}
    (h : isSupportedCodec media codec = true) : codec.clockRate ≠ 0 := by
  have hrate : codec.clockRate = 48000 ∨ codec.clockRate = 90000 := by
    unfold isSupportedCodec isSupportedAudioCodec isSupportedVideoCodec at h
    split_ifs at h
    · simp only [isOpusCodec, Bool.and_eq_true, decide_eq_true_eq] at h
      exact Or.inl h.1.2
    · simp only [isVp8Codec, isH264Codec, Bool.or_eq_true, Bool.and_eq_true,
        decide_eq_true_eq] at h
      rcases h with h | h
      · exact Or.inr h.2
      · exact Or.inr h.1.2
  rcases hrate with h | h <;> rw [h] <;> decide

theorem supported_video_clockRate {media : MediaSummary} {codec : CodecInfo}
    (hvideo : media.kind = kVideo) (h : isSupportedCodec media codec = true) :
    codec.clockRate = 90000 := by
  have hkinds : kVideo ≠ kAudio := by decide
  simp only [isSupportedCodec, hvideo, hkinds, if_false, if_true, isSupportedVideoCodec, isVp8Codec,
    isH264Codec, Bool.or_eq_true, Bool.and_eq_true, decide_eq_true_eq] at h
  rcases h with h | h
  · exact h.2
  · exact h.1.2

theorem normalizeSupportedCodec_supported {media : MediaSummary} {original codec : CodecInfo}
    (h : normalizeSupportedCodec media original = some codec) :
    isSupportedCodec media original = true := by
  unfold normalizeSupportedCodec at h
  split_ifs at h with hsupported
  all_goals simpa using hsupported

theorem normalizeSupportedCodec_clockRate {media : MediaSummary} {original codec : CodecInfo}
    (h : normalizeSupportedCodec media original = some codec) : codec.clockRate ≠ 0 := by
  have hrate := supported_clockRate (normalizeSupportedCodec_supported h)
  obtain ⟨fmtp, rfl⟩ := normalizeSupportedCodec_origin h
  exact hrate

theorem mem_appendAnswerable {answerable : List CodecInfo → CodecInfo → Bool}
    {selected offered : List CodecInfo} {codec : CodecInfo}
    (h : codec ∈ appendAnswerable answerable selected offered) :
    codec ∈ selected ∨ ∃ before, answerable before codec = true := by
  induction offered generalizing selected with
  | nil => exact Or.inl h
  | cons head offered ih =>
      rw [appendAnswerable, List.foldl_cons] at h
      split_ifs at h with hanswerable
      · rcases ih h with hmem | hmem
        · rcases List.mem_append.mp hmem with hmem | hmem
          · exact Or.inl hmem
          · obtain rfl := List.mem_singleton.mp hmem
            exact Or.inr ⟨selected, hanswerable⟩
        · exact Or.inr hmem
      · exact ih h

theorem rtxPrimary_isRtx {media : MediaSummary} {rtxCodec primary : CodecInfo}
    {selected : List CodecInfo} (h : rtxPrimary media rtxCodec selected = some primary) :
    isRtxName rtxCodec = true := by
  unfold rtxPrimary at h
  split_ifs at h with hcondition
  have hrtx := hcondition.2.1
  simp only [isRtxCodec, Bool.and_eq_true] at hrtx
  exact hrtx.1

theorem mem_whipCodecs {media : MediaSummary} {codec : CodecInfo} (h : codec ∈ whipCodecs media) :
    codec.clockRate ≠ 0 ∧
      ∃ original ∈ media.codecs, ∃ fmtp, codec = CodecInfo.withFmtp original fmtp := by
  unfold whipCodecs at h
  cases hnegotiated : negotiateOfferCodecs media with
  | error message =>
      rw [hnegotiated] at h
      cases h
  | ok codecs =>
      rw [hnegotiated] at h
      obtain ⟨_, -, hcodecs⟩ := bind_ok.mp hnegotiated
      obtain ⟨_, -, hcodecs⟩ := bind_ok.mp hcodecs
      cases hcodecs
      obtain ⟨hmem, hnotRtx⟩ := List.mem_filter.mp h
      rcases mem_appendAnswerable hmem with hselected | ⟨before, hanswerable⟩
      · have hperm := List.perm_insertionSort (fun left right =>
          codecAnswerPreferenceRank media left ≤ codecAnswerPreferenceRank media right)
          (media.codecs.filterMap (normalizeListedCodec media))
        have hselected := hperm.mem_iff.mp hselected
        obtain ⟨original, horiginal, hlisted⟩ := List.mem_filterMap.mp hselected
        unfold normalizeListedCodec at hlisted
        split_ifs at hlisted
        exact ⟨normalizeSupportedCodec_clockRate hlisted, original, horiginal,
          normalizeSupportedCodec_origin hlisted⟩
      · unfold rtxCodecIsAnswerableForOffer at hanswerable
        cases hprimary : rtxPrimary media codec before with
        | none =>
            rw [hprimary] at hanswerable
            cases hanswerable
        | some primary =>
            rw [rtxPrimary_isRtx hprimary] at hnotRtx
            cases hnotRtx

/-! ## Accepted sections -/

/-- Whether a publisher's section is accepted. -/
def acceptsMedia (media : MediaSummary) : Bool :=
  decide (media.direction ≠ .inactive) && !(whipCodecs media).isEmpty

/-- The positions of the accepted sections of a publisher's offer. -/
def acceptedPositions (offer : WebrtcOfferSummary) : List ℕ :=
  (List.range offer.media.length).filter fun index => (offer.media[index]?).any acceptsMedia

theorem answeredCodecs_whip (media : MediaSummary) (index : ℕ) (offer : WebrtcOfferSummary) :
    answeredCodecs media index offer none =
      if whipCodecs media = [] then none else some (none, whipCodecs media) := by
  unfold answeredCodecs whipCodecs
  cases negotiateOfferCodecs media with
  | error message => simp [Except.toOption]
  | ok codecs =>
      by_cases hnil : removeUnimplementedAnswerCodecs codecs = []
      · simp [Except.toOption, hnil]
      · simp [Except.toOption, hnil]

theorem makeAnswerMedia_whip (options : SdpAnswerOptions) (media : MediaSummary) (index : ℕ)
    (offer : WebrtcOfferSummary) :
    makeAnswerMedia options media index offer none =
      if acceptsMedia media = true then
        makeAcceptedAnswerMedia options media none (whipCodecs media)
      else makeRejectedAnswerMedia media := by
  unfold makeAnswerMedia
  rw [answeredCodecs_whip]
  by_cases hdirection : media.direction = .inactive
  · simp [makeAnswerDirection, acceptsMedia, hdirection]
  · by_cases hnil : whipCodecs media = []
    · simp [makeAnswerDirection, acceptsMedia, hdirection, hnil]
    · simp [makeAnswerDirection, acceptsMedia, hdirection, hnil]

theorem rejected_whip (options : SdpAnswerOptions) (media : MediaSummary) (index : ℕ)
    (offer : WebrtcOfferSummary) :
    isAnswerMediaRejected (makeAnswerMedia options media index offer none) =
      !acceptsMedia media := by
  rw [makeAnswerMedia_whip]
  cases h : acceptsMedia media
  · simp [isAnswerMediaRejected, makeRejectedAnswerMedia]
  · simp [isAnswerMediaRejected, makeAcceptedAnswerMedia]

theorem acceptedIndexes_whip (options : SdpAnswerOptions) (offer : WebrtcOfferSummary) :
    acceptedIndexes (answerMediaDescriptions options offer none) = acceptedPositions offer := by
  unfold acceptedIndexes acceptedPositions answerMediaDescriptions
  rw [List.length_mapIdx]
  apply List.filter_congr
  intro index _
  rw [List.getElem?_mapIdx]
  cases offer.media[index]? with
  | none => rfl
  | some media => simp [rejected_whip]

theorem buildWhipAnswer_ok {offer : WebrtcOfferSummary} {options : SdpAnswerOptions}
    {answer : BuiltSdpAnswer} (h : buildWhipAnswer offer options = .ok answer) :
    answer.acceptedMlineIndexes = acceptedPositions offer ∧ acceptedPositions offer ≠ [] ∧
      answer.description.mediaDescriptions = answerMediaDescriptions options offer none := by
  obtain ⟨_, -, h⟩ := bind_ok.mp h
  obtain ⟨_, -, h⟩ := bind_ok.mp h
  obtain ⟨_, hne, h⟩ := bind_ok.mp h
  cases h
  rw [acceptedIndexes_whip] at hne
  exact ⟨acceptedIndexes_whip options offer, ensure_ok.mp hne, rfl⟩

theorem mem_acceptedPositions {offer : WebrtcOfferSummary} {index : ℕ} :
    index ∈ acceptedPositions offer ↔
      ∃ media, offer.media[index]? = some media ∧ acceptsMedia media = true := by
  simp only [acceptedPositions, List.mem_filter, List.mem_range, Option.any_eq_true]
  constructor
  · rintro ⟨-, h⟩
    exact h
  · rintro ⟨media, hmedia, h⟩
    exact ⟨(List.getElem?_eq_some_iff.mp hmedia).1, media, hmedia, h⟩

/-- The section of the answer for an accepted section of the offer. -/
theorem accepted_section {offer : WebrtcOfferSummary} {options : SdpAnswerOptions} {index : ℕ}
    {media : MediaSummary} (hindex : index ∈ acceptedPositions offer)
    (hmedia : offer.media[index]? = some media) :
    (answerMediaDescriptions options offer none)[index]? =
      some (makeAcceptedAnswerMedia options media none (whipCodecs media)) := by
  obtain ⟨media', hmedia', haccepts⟩ := mem_acceptedPositions.mp hindex
  obtain rfl := Option.some.inj (hmedia.symm.trans hmedia')
  rw [answerMediaDescriptions, List.getElem?_mapIdx, hmedia, Option.map_some,
    makeAnswerMedia_whip, if_pos haccepts]

/-! ## Attributes of an accepted section -/

/-- The attributes other than those of codecs and header extensions. -/
def otherKeys : List Text :=
  [ascii "mid", ascii "recvonly", ascii "inactive", ascii "rtcp-mux", ascii "rtcp-rsize",
    ascii "rid", ascii "simulcast", ascii "ptime", ascii "maxptime", ascii "candidate",
    ascii "end-of-candidates"]

def KeysIn (keys : List Text) (attributes : List SdpAttribute) : Prop :=
  ∀ a ∈ attributes, a.key ∈ keys

theorem KeysIn.not_mem {keys : List Text} {attributes : List SdpAttribute}
    (h : KeysIn keys attributes) {key : Text} (hkey : key ∉ keys) (value : Text) :
    (⟨key, value⟩ : SdpAttribute) ∉ attributes := fun hmem => hkey (h _ hmem)

theorem KeysIn.append {keys : List Text} {a b : List SdpAttribute} (ha : KeysIn keys a)
    (hb : KeysIn keys b) : KeysIn keys (a ++ b) := by
  intro attr hattr
  rcases List.mem_append.mp hattr with h | h
  · exact ha attr h
  · exact hb attr h

theorem propertyIf_keysIn {keys : List Text} {key : Text} (h : key ∈ keys) (condition : Bool) :
    KeysIn keys (propertyIf condition key) := by
  cases condition <;> simp [propertyIf, KeysIn, h]

theorem timeAttribute_keysIn {keys : List Text} {key : Text} (h : key ∈ keys)
    (time : Option UInt32) : KeysIn keys (timeAttribute key time) := by
  cases time <;> simp [timeAttribute, KeysIn, h]

theorem simulcastAttributes_keysIn (direction : Text) (rids : List Text) :
    KeysIn otherKeys (simulcastAttributes direction rids) := by
  unfold simulcastAttributes
  split_ifs
  · simp [KeysIn]
  · intro a ha
    rcases List.mem_append.mp ha with ha | ha
    · obtain ⟨rid, -, rfl⟩ := List.mem_map.mp ha
      simp [otherKeys]
    · obtain rfl := List.mem_singleton.mp ha
      simp [otherKeys]

theorem mediaTimingAttributes_keysIn (media : MediaSummary) :
    KeysIn otherKeys (mediaTimingAttributes media) := by
  unfold mediaTimingAttributes
  split_ifs
  · simp [KeysIn]
  · exact (timeAttribute_keysIn (by simp [otherKeys]) _).append
      (timeAttribute_keysIn (by simp [otherKeys]) _)

theorem iceCandidateAttributes_keysIn (options : SdpAnswerOptions) :
    KeysIn otherKeys (iceCandidateAttributes options) := by
  intro a ha
  rcases List.mem_append.mp ha with ha | ha
  · obtain ⟨index, hindex, rfl⟩ := List.mem_mapIdx.mp ha
    simp [otherKeys]
  · obtain rfl := List.mem_singleton.mp ha
    simp [otherKeys]

theorem answerDirection_mem (media : MediaSummary) :
    (makeAnswerDirection false media).toText ∈ otherKeys := by
  by_cases h : media.direction = .inactive
  · simp [makeAnswerDirection, h, MediaDirection.toText, otherKeys]
  · simp [makeAnswerDirection, h, MediaDirection.toText, otherKeys]

/-- An attribute of a codec or a header extension is found among those alone. -/
theorem mem_accepted_attributes {options : SdpAnswerOptions} {media : MediaSummary}
    {codecs : List CodecInfo} {key : Text} (hkey : key ∉ otherKeys) (value : Text) :
    (⟨key, value⟩ : SdpAttribute) ∈
        (makeAcceptedAnswerMedia options media none codecs).attributes ↔
      (⟨key, value⟩ : SdpAttribute) ∈ headerExtensionAttributes media none
        (mediaOffersTransportCc media codecs true) ∨
      (⟨key, value⟩ : SdpAttribute) ∈ codecAttributes media.kind codecs false
        (mediaOffersTransportCc media codecs true) := by
  have hhead : KeysIn otherKeys [⟨ascii "mid", media.mid⟩,
      { key := (makeAnswerDirection false media).toText }, { key := ascii "rtcp-mux" }] := by
    intro a ha
    simp only [List.mem_cons, List.not_mem_nil, or_false] at ha
    rcases ha with rfl | rfl | rfl
    · simp [otherKeys]
    · exact answerDirection_mem media
    · simp [otherKeys]
  have hrsize : KeysIn otherKeys (propertyIf media.rtcpRsize (ascii "rtcp-rsize")) :=
    propertyIf_keysIn (by simp [otherKeys]) _
  have hsimulcast := simulcastAttributes_keysIn (ascii "recv")
    (collectAnswerableWhipSimulcastRids media)
  simp only [makeAcceptedAnswerMedia, Option.isSome_none, Bool.not_false, List.append_nil,
    List.mem_append, hhead.not_mem hkey, hrsize.not_mem hkey, hsimulcast.not_mem hkey,
    (mediaTimingAttributes_keysIn media).not_mem hkey,
    (iceCandidateAttributes_keysIn options).not_mem hkey, false_or, or_false]

theorem mem_answeredFeedback {supported : Text → Bool} {seen offered : List Text} {value : Text} :
    value ∈ answeredFeedback supported seen offered ↔ value ∉ seen ∧
      ∃ feedback ∈ offered, supported feedback = true ∧
        normalizeRtcpFeedbackValue feedback = value := by
  induction offered generalizing seen with
  | nil => simp [answeredFeedback]
  | cons head offered ih =>
      unfold answeredFeedback
      simp only
      split_ifs with h
      · simp only [List.mem_cons, ih, List.mem_append, not_or, List.mem_nil_iff, or_false,
          exists_eq_or_imp]
        constructor
        · rintro (rfl | ⟨⟨hseen, -⟩, feedback⟩)
          · exact ⟨h.2, Or.inl ⟨h.1, rfl⟩⟩
          · exact ⟨hseen, Or.inr feedback⟩
        · rintro ⟨hseen, ⟨-, rfl⟩ | feedback⟩
          · exact Or.inl rfl
          · by_cases heq : value = normalizeRtcpFeedbackValue head
            · exact Or.inl heq
            · exact Or.inr ⟨⟨hseen, heq⟩, feedback⟩
      · simp only [ih, List.mem_cons, exists_eq_or_imp]
        constructor
        · rintro ⟨hseen, feedback⟩
          exact ⟨hseen, Or.inr feedback⟩
        · rintro ⟨hseen, ⟨hsupported, rfl⟩ | feedback⟩
          · exact absurd ⟨hsupported, hseen⟩ h
          · exact ⟨hseen, feedback⟩

/-- The feedback attributes of codecs, but for those emitted before. -/
theorem mem_codecAttributesFrom_feedback {supported : Text → Bool}
    {emitted : List (UInt16 × Text)} {codecs : List CodecInfo} {value : Text} :
    (⟨ascii "rtcp-fb", value⟩ : SdpAttribute) ∈ codecAttributesFrom supported emitted codecs ↔
      ∃ codec ∈ codecs, ∃ feedback ∈ codec.rtcpFeedback, supported feedback = true ∧
        (codec.payloadType, normalizeRtcpFeedbackValue feedback) ∉ emitted ∧
        makeRtcpFeedbackValue codec (normalizeRtcpFeedbackValue feedback) = value := by
  have hrtpmap : ascii "rtcp-fb" ≠ ascii "rtpmap" := by decide
  have hfmtp : ascii "rtcp-fb" ≠ ascii "fmtp" := by decide
  induction codecs generalizing emitted with
  | nil => simp [codecAttributesFrom]
  | cons codec codecs ih =>
      have hemitted : ∀ payloadType feedback,
          feedback ∈ emittedFeedback emitted payloadType ↔ (payloadType, feedback) ∈ emitted := by
        intro payloadType feedback
        simp [emittedFeedback]
      have hfmtpAttributes : (⟨ascii "rtcp-fb", value⟩ : SdpAttribute) ∉
          (if codec.fmtp = [] then [] else [⟨ascii "fmtp", makeFmtpValue codec⟩]) := by
        split_ifs <;> simp [hfmtp]
      simp only [codecAttributesFrom, List.mem_cons, SdpAttribute.mk.injEq, hrtpmap,
        false_and, false_or, List.mem_append, hfmtpAttributes, List.mem_map, true_and,
        mem_answeredFeedback, hemitted, ih, exists_eq_or_imp]
      constructor
      · rintro (⟨normalized, ⟨hnew, feedback, hmem, hsupported, rfl⟩, hvalue⟩ |
          ⟨other, hother, feedback, hmem, hsupported, hnew, hvalue⟩)
        · exact Or.inl ⟨feedback, hmem, hsupported, hnew, hvalue⟩
        · exact Or.inr ⟨other, hother, feedback, hmem, hsupported,
            fun hold => hnew (Or.inl hold), hvalue⟩
      · rintro (⟨feedback, hmem, hsupported, hnew, hvalue⟩ |
          ⟨other, hother, feedback, hmem, hsupported, hnew, hvalue⟩)
        · exact Or.inl ⟨_, ⟨hnew, feedback, hmem, hsupported, rfl⟩, hvalue⟩
        · by_cases hsame : other.payloadType = codec.payloadType ∧
              ∃ own ∈ codec.rtcpFeedback, supported own = true ∧
                normalizeRtcpFeedbackValue own = normalizeRtcpFeedbackValue feedback
          · obtain ⟨hpayloadType, own, hown, hownSupported, hequal⟩ := hsame
            refine Or.inl ⟨_, ⟨?_, own, hown, hownSupported, rfl⟩, ?_⟩
            · rw [hequal, ← hpayloadType]
              exact hnew
            · rw [hequal, ← hvalue]
              simp [makeRtcpFeedbackValue, hpayloadType]
          · refine Or.inr ⟨other, hother, feedback, hmem, hsupported, ?_, hvalue⟩
            rintro (hold | ⟨normalized, ⟨-, own, hown, hownSupported, hequal⟩, hpair⟩)
            · exact hnew hold
            · obtain ⟨hpayloadType, rfl⟩ := Prod.mk.inj hpair
              exact hsame ⟨hpayloadType.symm, own, hown, hownSupported, hequal⟩

theorem mem_codecAttributesFrom_rtpmap {supported : Text → Bool}
    {emitted : List (UInt16 × Text)} {codecs : List CodecInfo} {value : Text} :
    (⟨ascii "rtpmap", value⟩ : SdpAttribute) ∈ codecAttributesFrom supported emitted codecs ↔
      ∃ codec ∈ codecs, makeRtpMapValue codec = value := by
  have hfeedback : ascii "rtcp-fb" ≠ ascii "rtpmap" := by decide
  have hfmtp : ascii "rtpmap" ≠ ascii "fmtp" := by decide
  induction codecs generalizing emitted with
  | nil => simp [codecAttributesFrom]
  | cons codec codecs ih =>
      have hfmtpAttributes : (⟨ascii "rtpmap", value⟩ : SdpAttribute) ∉
          (if codec.fmtp = [] then [] else [⟨ascii "fmtp", makeFmtpValue codec⟩]) := by
        split_ifs <;> simp [hfmtp]
      simp only [codecAttributesFrom, List.mem_cons, SdpAttribute.mk.injEq, true_and,
        List.mem_append, hfmtpAttributes, List.mem_map, hfeedback, false_and, and_false,
        exists_false, false_or, ih, exists_eq_or_imp]
      exact or_congr_left eq_comm

theorem codecAttributesFrom_keysIn (supported : Text → Bool) (emitted : List (UInt16 × Text))
    (codecs : List CodecInfo) :
    KeysIn [ascii "rtpmap", ascii "fmtp", ascii "rtcp-fb"]
      (codecAttributesFrom supported emitted codecs) := by
  induction codecs generalizing emitted with
  | nil => simp [codecAttributesFrom, KeysIn]
  | cons codec codecs ih =>
      rw [codecAttributesFrom]
      intro a ha
      rcases List.mem_cons.mp ha with rfl | ha
      · simp
      rcases List.mem_append.mp ha with ha | ha
      · rcases List.mem_append.mp ha with ha | ha
        · split_ifs at ha
          · cases ha
          · rw [List.mem_singleton.mp ha]
            simp
        · obtain ⟨feedback, -, rfl⟩ := List.mem_map.mp ha
          simp
      · exact ih _ a ha

theorem codecAttributes_not_extmap {supported : Text → Bool} {emitted : List (UInt16 × Text)}
    {codecs : List CodecInfo} {value : Text} :
    (⟨ascii "extmap", value⟩ : SdpAttribute) ∉ codecAttributesFrom supported emitted codecs :=
  (codecAttributesFrom_keysIn supported emitted codecs).not_mem (by decide) value

theorem headerExtensionAttributes_keys {media : MediaSummary} {forwarded : Option MediaSummary}
    {transportCcEnabled : Bool} {key value : Text} (hextmap : key ≠ ascii "extmap")
    (hmixed : key ≠ ascii "extmap-allow-mixed") :
    (⟨key, value⟩ : SdpAttribute) ∉
      headerExtensionAttributes media forwarded transportCcEnabled := by
  unfold headerExtensionAttributes
  intro h
  rcases List.mem_append.mp h with h | h
  · obtain ⟨e, -, heq⟩ := List.mem_map.mp h
    exact hextmap (congrArg SdpAttribute.key heq).symm
  · split_ifs at h
    · have heq := List.mem_singleton.mp h
      exact hmixed (congrArg SdpAttribute.key heq)
    · cases h

/-- The `rtcp-fb` attributes of an accepted section. -/
theorem mem_accepted_feedback {options : SdpAnswerOptions} {media : MediaSummary}
    {codecs : List CodecInfo} {value : Text} :
    (⟨ascii "rtcp-fb", value⟩ : SdpAttribute) ∈
        (makeAcceptedAnswerMedia options media none codecs).attributes ↔
      ∃ codec ∈ codecs, ∃ feedback ∈ codec.rtcpFeedback,
        rtcpFeedbackIsSupportedForAnswerMedia media.kind feedback false
          (mediaOffersTransportCc media codecs true) = true ∧
        makeRtcpFeedbackValue codec (normalizeRtcpFeedbackValue feedback) = value := by
  have hkey : ascii "rtcp-fb" ∉ otherKeys := by decide
  have hextensions : (⟨ascii "rtcp-fb", value⟩ : SdpAttribute) ∉ headerExtensionAttributes media none
      (mediaOffersTransportCc media codecs true) :=
    headerExtensionAttributes_keys (by decide) (by decide)
  rw [mem_accepted_attributes hkey, codecAttributes, mem_codecAttributesFrom_feedback]
  simp [hextensions]

/-- The `rtpmap` attributes of an accepted section. -/
theorem mem_accepted_rtpmap {options : SdpAnswerOptions} {media : MediaSummary}
    {codecs : List CodecInfo} {value : Text} :
    (⟨ascii "rtpmap", value⟩ : SdpAttribute) ∈
        (makeAcceptedAnswerMedia options media none codecs).attributes ↔
      ∃ codec ∈ codecs, makeRtpMapValue codec = value := by
  have hkey : ascii "rtpmap" ∉ otherKeys := by decide
  have hextensions : (⟨ascii "rtpmap", value⟩ : SdpAttribute) ∉ headerExtensionAttributes media none
      (mediaOffersTransportCc media codecs true) :=
    headerExtensionAttributes_keys (by decide) (by decide)
  rw [mem_accepted_attributes hkey, codecAttributes, mem_codecAttributesFrom_rtpmap]
  simp [hextensions]

/-- The `extmap` attributes of an accepted section. -/
theorem mem_accepted_extmap {options : SdpAnswerOptions} {media : MediaSummary}
    {codecs : List CodecInfo} {value : Text} :
    (⟨ascii "extmap", value⟩ : SdpAttribute) ∈
        (makeAcceptedAnswerMedia options media none codecs).attributes ↔
      ∃ e ∈ selectAnswerHeaderExtensions media none (mediaOffersTransportCc media codecs true),
        makeExtmapValue e = value := by
  have hkey : ascii "extmap" ∉ otherKeys := by decide
  have hmixed : ascii "extmap" ≠ ascii "extmap-allow-mixed" := by decide
  rw [mem_accepted_attributes hkey, codecAttributes]
  simp only [codecAttributes_not_extmap, or_false, headerExtensionAttributes, List.mem_append,
    List.mem_map, SdpAttribute.mk.injEq, true_and]
  split_ifs
  · simp [hmixed]
  · simp

/-! ## Reading the answer back -/

theorem parsePayloadType_text {payloadType : UInt16} (h : payloadType ≤ 127) :
    parsePayloadType (payloadTypeText payloadType) = .ok payloadType := by
  have hread : readUInt32 (decimal payloadType.toNat) = some payloadType.toUInt32 := by
    have := readUInt32_decimal payloadType.toUInt32
    rwa [UInt16.toNat_toUInt32] at this
  have hle : ¬ 127 < payloadType.toUInt32 := by
    rw [UInt32.lt_iff_toNat_lt, UInt16.toNat_toUInt32]
    have := UInt16.le_iff_toNat_le.mp h
    simpa using this
  simp [parsePayloadType, payloadTypeText, trim_decimal, decimal_ne_nil, hread, hle]

theorem parseClockRate_text (clockRate : UInt32) :
    parseClockRate (decimal clockRate.toNat) = .ok clockRate := by
  simp [parseClockRate, trim_decimal, decimal_ne_nil, readUInt32_decimal, orError]

theorem decimal_isToken (n : ℕ) : IsToken (decimal n) := by
  intro c hc
  have hdigit := isDigit_decimal n c hc
  exact ⟨isBlank_of_isDigit hdigit, isDigit_ne hdigit rfl⟩

/-- The second field of an `rtpmap` attribute. -/
def codecDescription (codec : CodecInfo) : Text :=
  codec.name ++ 47 :: (decimal codec.clockRate.toNat ++
    if codec.encodingParameters = [] then [] else 47 :: codec.encodingParameters)

theorem makeRtpMapValue_eq (codec : CodecInfo) :
    makeRtpMapValue codec = payloadTypeText codec.payloadType ++ 32 :: codecDescription codec := by
  have hspace : ascii " " = [32] := by decide
  have hslash : ascii "/" = [47] := by decide
  simp [makeRtpMapValue, codecDescription, hspace, hslash]

theorem codecDescription_parts {codec : CodecInfo} (h : codec.WellFormed) :
    splitOnByte 47 (codecDescription codec) = codec.name :: decimal codec.clockRate.toNat ::
      if codec.encodingParameters = [] then [] else [codec.encodingParameters] := by
  have hclean : ∀ {text : Text}, IsToken text → ∀ c ∈ text, decide (c = 47) = false :=
    fun htoken c hc => by simpa using (htoken c hc).2
  unfold splitOnByte codecDescription
  rw [List.splitOnP_append_cons_of_forall_mem (hclean h.name) 47 (by simp)]
  split_ifs
  · rw [List.append_nil, List.splitOnP_eq_singleton (hclean (decimal_isToken _))]
  · rw [List.splitOnP_append_cons_of_forall_mem (hclean (decimal_isToken _)) 47 (by simp),
      List.splitOnP_eq_singleton (hclean h.encodingParameters)]

theorem codecDescription_not_blank {codec : CodecInfo} (h : codec.WellFormed) :
    ∀ c ∈ codecDescription codec, isBlank c = false := by
  have hslash : isBlank 47 = false := by decide
  unfold codecDescription
  simp only [List.forall_mem_append, List.forall_mem_cons]
  refine ⟨fun c hc => (h.name c hc).1, hslash, fun c hc => (decimal_isToken _ c hc).1, ?_⟩
  split_ifs
  · simp
  · rw [List.forall_mem_cons]
    exact ⟨hslash, fun c hc => (h.encodingParameters c hc).1⟩

/-- An `rtpmap` attribute says the payload type and the description of its codec. -/
theorem parseRtpMapAttribute_text {codec : CodecInfo} (h : codec.WellFormed)
    (hpayloadType : codec.payloadType ≤ 127) :
    parseRtpMapAttribute (makeRtpMapValue codec) =
      .ok { codec with
        fmtp := [], rtcpFeedback := [] } := by
  have hdescription : codecDescription codec ≠ [] := by simp [codecDescription]
  have hpayloadTypeWord : fields isBlank (payloadTypeText codec.payloadType) =
      [payloadTypeText codec.payloadType] :=
    fields_word (decimal_ne_nil _) fun c hc => (decimal_isToken _ c hc).1
  have hfields : fields isBlank (makeRtpMapValue codec) =
      [payloadTypeText codec.payloadType, codecDescription codec] := by
    rw [makeRtpMapValue_eq, fields_append_separator isBlank _ (by decide), hpayloadTypeWord,
      fields_word hdescription (codecDescription_not_blank h), List.singleton_append]
  have hencoding : encodingParametersOf
      (if codec.encodingParameters = [] then [] else [codec.encodingParameters]) =
      codec.encodingParameters := by
    split_ifs with hnil
    · exact hnil.symm
    · rfl
  simp [parseRtpMapAttribute, hfields, parsePayloadType_text hpayloadType,
    codecDescription_parts h, parseClockRate_text, hencoding, ensure, h.name_ne_nil,
    decimal_ne_nil, bind, Except.bind, pure, Except.pure]

end SimpleWebrtc.SdpAnswer
