import SimpleWebrtc.WhipAnswer
import SimpleWebrtc.WhipPublisher

/-!
# The publisher's answer and its runtime configuration

The transport reads the section at each accepted index of an offer that has
only the accepted sections left. So the sections that are configured are those
accepted ones whose place among the accepted sections is itself an accepted
index, and the configuration says what the answer says exactly where that
covers every payload type that only one section offers.
-/
namespace SimpleWebrtc.WhipPublisher
open Library Library.Text SdpSummary SdpCodecNegotiator SdpOfferValidator SdpAnswer

/-! ## What the configuration should say -/

def OfferedAlone (offer : WebrtcOfferSummary) (index : ℕ) (payloadType : UInt16) : Prop :=
  ∀ other media, offer.media[other]? = some media → other ≠ index →
    payloadType ∉ media.payloadTypes

/-- A context says of a payload type what the section of the answer says. -/
structure ContextMatches (answered : MediaDescription) (payloadType : UInt16)
    (context : InboundPayloadTypeContext) : Prop where
  kind : context.kind = answered.mediaName.media
  clockRate : ∀ value, ⟨ascii "rtpmap", value⟩ ∈ answered.attributes → ∀ codec,
    parseRtpMapAttribute value = .ok codec → codec.payloadType = payloadType →
    context.clockRate = codec.clockRate
  transportCc : ∀ id : UInt8,
    (context.transportCcEnabled = true ∧ context.transportCcExtensionId = id) ↔
      ⟨ascii "rtcp-fb", payloadTypeText payloadType ++ ascii " transport-cc"⟩ ∈
          answered.attributes ∧
        ⟨ascii "extmap", decimal id.toNat ++ ascii " " ++ kTransportWideCcExtensionUri⟩ ∈
          answered.attributes

structure ConfigurationMatches (publisher : CreatedPublisher) : Prop where
  payloadTypes : ∀ index ∈ publisher.answer.acceptedMlineIndexes, ∀ answered,
    publisher.answer.description.mediaDescriptions[index]? = some answered →
    ∀ payloadType, payloadTypeText payloadType ∈ answered.mediaName.formats →
    OfferedAlone publisher.offer index payloadType →
    ∃ context, publisher.remoteMedia.inboundPayloadTypes.find? payloadType.toUInt8 =
        some context ∧ ContextMatches answered payloadType context
  rtcpMux : publisher.remoteMedia.rtcpMuxEnabled = true ↔
    ∀ index ∈ publisher.answer.acceptedMlineIndexes, ∀ media,
      publisher.offer.media[index]? = some media → media.rtcpMux = true

/-! ## When it does -/

/-- The codecs a section gives one payload type are taken for the same. -/
def CodecsAgree (media : MediaSummary) (payloadType : UInt16) : Prop :=
  ∀ a ∈ media.codecs, ∀ b ∈ media.codecs, a.payloadType = payloadType →
    b.payloadType = payloadType → a.clockRate ≠ 0 → b.clockRate ≠ 0 →
    a.clockRate = b.clockRate ∧ ((findTransportCcExtensionId media).isSome = true →
      codecOffersTransportCc a = codecOffersTransportCc b)

/-- The transport-wide extension needs the two-byte format, which the offer does not allow. -/
def TwoByteTransportCc (media : MediaSummary) (payloadType : UInt16) : Prop :=
  media.extmapAllowMixed = false ∧
    (∃ id, findTransportCcExtensionId media = some id ∧ 15 ≤ id.toNat) ∧
    ∃ codec ∈ media.codecs, codec.payloadType = payloadType ∧ codec.clockRate ≠ 0 ∧
      codecOffersTransportCc codec = true

structure Aligned (offer : WebrtcOfferSummary) : Prop where
  first : ∃ index ∈ acceptedPositions offer, index < (acceptedPositions offer).length
  sections : ∀ place index media payloadType, (acceptedPositions offer)[place]? = some index →
    offer.media[index]? = some media → (∃ codec ∈ whipCodecs media, codec.payloadType = payloadType) →
    OfferedAlone offer index payloadType →
    place ∈ acceptedPositions offer ∧ CodecsAgree media payloadType ∧
      ¬TwoByteTransportCc media payloadType

/-! ## The transport-wide extension -/

theorem lowerByte_table : ∀ n < 256, isSpace (lowerByte (UInt8.ofNat n)) =
    isSpace (UInt8.ofNat n) := by decide +kernel

theorem isSpace_lowerByte (c : UInt8) : isSpace (lowerByte c) = isSpace c := by
  have h := lowerByte_table c.toNat c.toNat_lt
  simpa using h

theorem toLower_not_space {text : Text} (h : ∀ c ∈ toLower text, isSpace c = false) :
    ∀ c ∈ text, isSpace c = false := by
  intro c hc
  rw [← isSpace_lowerByte]
  exact h _ (List.mem_map_of_mem hc)

theorem join_has_space {first second : Text} {rest : List Text} :
    (32 : UInt8) ∈ join (ascii " ") (first :: second :: rest) := by
  have hspace : ascii " " = [32] := by decide
  simp [join, hspace]

/-- The feedback a codec offers is read the same way by the answer and by the transport. -/
theorem normalizeRtcpFeedbackValue_transportCc (feedback : Text) :
    normalizeRtcpFeedbackValue feedback = ascii "transport-cc" ↔
      iequals (trim isSpace feedback) (ascii "transport-cc") = true := by
  have hlower : toLower (ascii "transport-cc") = ascii "transport-cc" := by decide
  have hclean : ∀ c ∈ ascii "transport-cc", isSpace c = false := by decide +kernel
  have hne : ascii "transport-cc" ≠ [] := by decide
  unfold iequals normalizeRtcpFeedbackValue
  rw [hlower, decide_eq_true_eq]
  constructor
  · intro h
    cases hfields : fields isSpace feedback with
    | nil =>
        rw [hfields] at h
        exact absurd h.symm hne
    | cons first rest =>
        rw [hfields] at h
        cases rest with
        | nil =>
            rw [(fields_eq_singleton.mp hfields).1]
            exact h
        | cons second rest =>
            rw [List.map_cons, List.map_cons] at h
            have hspace := hclean 32 (h ▸ join_has_space)
            cases hspace
  · intro h
    have hword : ∀ c ∈ trim isSpace feedback, isSpace c = false :=
      toLower_not_space fun c hc => hclean c (h ▸ hc)
    have hnonempty : trim isSpace feedback ≠ [] := by
      intro hnil
      rw [hnil] at h
      exact hne h.symm
    rw [fields_eq_singleton.mpr ⟨rfl, hnonempty, hword⟩]
    exact h

theorem uri_unique {media : MediaSummary} (h : media.WellFormed) {a b : RtpHeaderExtension}
    (ha : a ∈ media.headerExtensions) (hb : b ∈ media.headerExtensions) (huri : a.uri = b.uri) :
    a = b :=
  List.inj_on_of_nodup_map h.extensionUris ha hb huri

theorem extension_id_eq {e : RtpHeaderExtension} (h : 0 < e.id ∧ e.id ≤ 255) {id : UInt8} :
    UInt8.ofNat e.id.toNat = id ↔ e.id.toNat = id.toNat := by
  have hlt : e.id.toNat < UInt8.size := by
    simp only [UInt8.size]
    omega
  rw [← UInt8.toNat_inj, UInt8.toNat_ofNat_of_lt' hlt]

theorem findTransportCcExtensionId_eq {media : MediaSummary} (h : media.WellFormed) {id : UInt8} :
    findTransportCcExtensionId media = some id ↔ ∃ e ∈ media.headerExtensions,
      directionMatches true e.direction = true ∧ e.uri = kTransportWideCcExtensionUri ∧
      e.id.toNat = id.toNat := by
  unfold findTransportCcExtensionId
  rw [Option.map_eq_some_iff]
  constructor
  · rintro ⟨e, hfind, hid⟩
    have hmem := List.mem_of_find?_eq_some hfind
    have hkeep := List.find?_some hfind
    simp only [Bool.and_eq_true, decide_eq_true_eq] at hkeep
    exact ⟨e, hmem, hkeep.1.2, hkeep.2, (extension_id_eq hkeep.1.1).mp hid⟩
  · rintro ⟨e, hmem, hdirection, huri, hid⟩
    have hrange := h.extensionIds e hmem
    cases hfind : media.headerExtensions.find? fun e => decide (0 < e.id ∧ e.id ≤ 255) &&
        directionMatches true e.direction && decide (e.uri = kTransportWideCcExtensionUri) with
    | none =>
        have hnot := List.find?_eq_none.mp hfind e hmem
        simp [hrange, hdirection, huri] at hnot
    | some found =>
        have hkeep := List.find?_some hfind
        simp only [Bool.and_eq_true, decide_eq_true_eq] at hkeep
        have heq := uri_unique h (List.mem_of_find?_eq_some hfind) hmem (hkeep.2.trans huri.symm)
        exact ⟨found, rfl, heq ▸ (extension_id_eq hrange).mpr hid⟩

theorem mediaOffersTransportCc_eq {media : MediaSummary} (h : media.WellFormed)
    (codecs : List CodecInfo) :
    mediaOffersTransportCc media codecs true = true ↔
      (∃ id, findTransportCcExtensionId media = some id) ∧
        ∃ codec ∈ codecs, codecOffersTransportCc codec = true := by
  have hid : (∃ id, findTransportCcExtensionId media = some id) ↔ ∃ e ∈ media.headerExtensions,
      directionMatches true e.direction = true ∧ e.uri = kTransportWideCcExtensionUri := by
    simp only [findTransportCcExtensionId_eq h]
    constructor
    · rintro ⟨id, e, he, hdirection, huri, -⟩
      exact ⟨e, he, hdirection, huri⟩
    · rintro ⟨e, he, hdirection, huri⟩
      refine ⟨UInt8.ofNat e.id.toNat, e, he, hdirection, huri, ?_⟩
      exact (extension_id_eq (h.extensionIds e he)).mp rfl
  rw [hid]
  simp only [mediaOffersTransportCc, codecOffersTransportCc, Bool.and_eq_true, List.any_eq_true,
    decide_eq_true_eq, normalizeRtcpFeedbackValue_transportCc]

theorem payloadTypeText_append_inj {a b : UInt16} {s t : Text}
    (h : payloadTypeText a ++ 32 :: s = payloadTypeText b ++ 32 :: t) : a = b ∧ s = t := by
  obtain ⟨hnat, hrest⟩ := decimal_append_inj (by decide) h
  exact ⟨UInt16.toNat_inj.mp hnat, hrest⟩

theorem supported_transportCc {kind feedback : Text} (hkind : kind = kAudio ∨ kind = kVideo)
    (transportCcEnabled : Bool)
    (h : normalizeRtcpFeedbackValue feedback = ascii "transport-cc") :
    rtcpFeedbackIsSupportedForAnswerMedia kind feedback false transportCcEnabled =
      transportCcEnabled := by
  have hpli : ascii "transport-cc" ≠ ascii "nack pli" := by decide
  have hfir : ascii "transport-cc" ≠ ascii "ccm fir" := by decide
  cases transportCcEnabled with
  | true =>
      rcases hkind with rfl | rfl <;>
        simp [rtcpFeedbackIsSupportedForAnswerMedia, h]
  | false => simp [rtcpFeedbackIsSupportedForAnswerMedia, h, hpli, hfir]

/-- The transport-wide feedback attribute of a payload type in an accepted section. -/
theorem answers_feedback_iff {options : SdpAnswerOptions} {media : MediaSummary}
    (h : media.WellFormed) {codecs : List CodecInfo} {payloadType : UInt16} :
    (⟨ascii "rtcp-fb", payloadTypeText payloadType ++ ascii " transport-cc"⟩ : SdpAttribute) ∈
        (makeAcceptedAnswerMedia options media none codecs).attributes ↔
      (∃ id, findTransportCcExtensionId media = some id) ∧
        ∃ codec ∈ codecs, codec.payloadType = payloadType ∧
          codecOffersTransportCc codec = true := by
  have hspace : ascii " " = [32] := by decide
  have hvalue : ascii " transport-cc" = 32 :: ascii "transport-cc" := by decide
  have htext : ∀ codec : CodecInfo, ∀ normalized : Text, makeRtcpFeedbackValue codec normalized =
      payloadTypeText codec.payloadType ++ 32 :: normalized := by
    intro codec normalized
    simp [makeRtcpFeedbackValue, hspace]
  rw [mem_accepted_feedback]
  constructor
  · rintro ⟨codec, hcodec, feedback, hfeedback, hsupported, heq⟩
    rw [htext, hvalue] at heq
    obtain ⟨rfl, hnormalized⟩ := payloadTypeText_append_inj heq
    rw [supported_transportCc h.kind _ hnormalized, mediaOffersTransportCc_eq h] at hsupported
    refine ⟨hsupported.1, codec, hcodec, rfl, ?_⟩
    exact List.any_eq_true.mpr
      ⟨feedback, hfeedback, (normalizeRtcpFeedbackValue_transportCc feedback).mp hnormalized⟩
  · rintro ⟨hid, codec, hcodec, rfl, hoffers⟩
    obtain ⟨feedback, hfeedback, hequals⟩ := List.any_eq_true.mp hoffers
    have hnormalized := (normalizeRtcpFeedbackValue_transportCc feedback).mpr hequals
    refine ⟨codec, hcodec, feedback, hfeedback, ?_, ?_⟩
    · rw [supported_transportCc h.kind _ hnormalized, mediaOffersTransportCc_eq h]
      exact ⟨hid, codec, hcodec, hoffers⟩
    · rw [htext, hvalue, hnormalized]

theorem selects_transportCc {media : MediaSummary} (h : media.WellFormed)
    {transportCcEnabled : Bool} {e : RtpHeaderExtension} (he : e ∈ media.headerExtensions)
    (huri : e.uri = kTransportWideCcExtensionUri) :
    answersHeaderExtension media none transportCcEnabled e = true ↔
      transportCcEnabled = true ∧ (15 ≤ e.id.toNat → media.extmapAllowMixed = true) := by
  have hrange := h.extensionIds e he
  have hne : kTransportWideCcExtensionUri ≠ [] := by decide
  have hmid : kTransportWideCcExtensionUri ≠ kRtpMidExtensionUri := by decide
  have hrid : kTransportWideCcExtensionUri ≠ kRtpStreamIdExtensionUri := by decide
  have haudio : kTransportWideCcExtensionUri ≠ kAudioLevelExtensionUri := by decide
  have htwoByte : idRequiresTwoByte e.id = decide (15 ≤ e.id.toNat) := by
    unfold idRequiresTwoByte
    congr 1
    rw [eq_iff_iff]
    omega
  cases transportCcEnabled with
  | false =>
      simp [answersHeaderExtension, isSupportedAnswerHeaderExtensionUri, huri, hmid, hrid, haudio]
  | true =>
      by_cases hid : 15 ≤ e.id.toNat
      · rcases h.kind with hkind | hkind <;>
          simp [answersHeaderExtension, isSupportedAnswerHeaderExtensionUri, huri, hne, hrange,
            htwoByte, hkind, hid]
      · rcases h.kind with hkind | hkind <;>
          simp [answersHeaderExtension, isSupportedAnswerHeaderExtensionUri, huri, hne, hrange,
            htwoByte, hkind, hid]

/-- The transport-wide `extmap` attribute in an accepted section. -/
theorem answers_extmap_iff {options : SdpAnswerOptions} {media : MediaSummary}
    (h : media.WellFormed) {codecs : List CodecInfo}
    (hoffers : mediaOffersTransportCc media codecs true = true) {id : UInt8} :
    (⟨ascii "extmap", decimal id.toNat ++ ascii " " ++ kTransportWideCcExtensionUri⟩ :
        SdpAttribute) ∈ (makeAcceptedAnswerMedia options media none codecs).attributes ↔
      findTransportCcExtensionId media = some id ∧
        (15 ≤ id.toNat → media.extmapAllowMixed = true) := by
  have hspace : ascii " " = [32] := by decide
  obtain ⟨⟨enabledId, hid⟩, -⟩ := (mediaOffersTransportCc_eq h codecs).mp hoffers
  obtain ⟨enabled, henabled, hdirection, henabledUri, -⟩ :=
    (findTransportCcExtensionId_eq h).mp hid
  rw [mem_accepted_extmap, findTransportCcExtensionId_eq h, hoffers]
  constructor
  · rintro ⟨e, he, hvalue⟩
    obtain ⟨hmem, hanswers⟩ := List.mem_filter.mp he
    simp only [makeExtmapValue, hspace, List.append_assoc, List.singleton_append] at hvalue
    obtain ⟨hidEq, huri⟩ := decimal_append_inj (by decide) hvalue
    obtain rfl := uri_unique h hmem henabled (huri.trans henabledUri.symm)
    refine ⟨⟨e, hmem, hdirection, huri, hidEq⟩, ?_⟩
    rw [← hidEq]
    exact ((selects_transportCc h hmem huri).mp hanswers).2
  · rintro ⟨⟨e, he, -, huri, hidEq⟩, hmixed⟩
    rw [← hidEq] at hmixed
    refine ⟨e, List.mem_filter.mpr ⟨he, ?_⟩, ?_⟩
    · exact (selects_transportCc h he huri).mpr ⟨rfl, hmixed⟩
    · rw [makeExtmapValue, hidEq, huri]

/-! ## The configured sections -/

theorem getElem?_filterMap_total {A B : Type} {f : A → Option B} {xs : List A}
    (h : ∀ x ∈ xs, (f x).isSome = true) (i : ℕ) :
    (xs.filterMap f)[i]? = (xs[i]?).bind f := by
  induction xs generalizing i with
  | nil => simp
  | cons x xs ih =>
      obtain ⟨y, hy⟩ := Option.isSome_iff_exists.mp (h x (by simp))
      rw [List.filterMap_cons_some hy]
      cases i with
      | zero => simp [hy]
      | succ i =>
          rw [List.getElem?_cons_succ, List.getElem?_cons_succ]
          exact ih (fun z hz => h z (List.mem_cons_of_mem x hz)) i

theorem makeOfferSummary_media {offer runtimeOffer : WebrtcOfferSummary} {accepted : List ℕ}
    (h : makeOfferSummary offer accepted = .ok runtimeOffer) :
    runtimeOffer.media = accepted.filterMap fun index => offer.media[index]? := by
  obtain ⟨_, -, h⟩ := bind_ok.mp h
  obtain ⟨_, -, h⟩ := bind_ok.mp h
  cases h
  rfl

/-- The configured sections: those whose place among the accepted is an accepted index. -/
theorem mem_configuredMedia {offer runtimeOffer : WebrtcOfferSummary}
    (hwell : ∀ media ∈ offer.media, media.WellFormed)
    (h : makeOfferSummary offer (acceptedPositions offer) = .ok runtimeOffer)
    {media : MediaSummary} :
    media ∈ configuredMedia runtimeOffer (acceptedPositions offer) ↔
      ∃ place ∈ acceptedPositions offer, ∃ index,
        (acceptedPositions offer)[place]? = some index ∧ offer.media[index]? = some media := by
  have htotal : ∀ index ∈ acceptedPositions offer, (offer.media[index]?).isSome = true := by
    intro index hindex
    obtain ⟨media, hmedia, -⟩ := mem_acceptedPositions.mp hindex
    rw [hmedia]
    rfl
  have hat : ∀ place : ℕ, runtimeOffer.media[place]? =
      ((acceptedPositions offer)[place]?).bind fun index => offer.media[index]? := by
    intro place
    rw [makeOfferSummary_media h]
    exact getElem?_filterMap_total htotal place
  simp only [configuredMedia, List.mem_filter, List.mem_filterMap, hat, Option.bind_eq_some_iff]
  constructor
  · rintro ⟨hmem, -⟩
    exact hmem
  · rintro ⟨place, hplace, index, hindex, hmedia⟩
    refine ⟨⟨place, hplace, index, hindex, hmedia⟩, ?_⟩
    simpa using (hwell media (List.mem_of_getElem? hmedia)).codecs_ne_nil

theorem toUInt8_inj {a b : UInt16} (ha : a ≤ 127) (hb : b ≤ 127) (h : a.toUInt8 = b.toUInt8) :
    a = b := by
  have hnat := congrArg UInt8.toNat h
  rw [UInt16.le_iff_toNat_le] at ha hb
  simp only [UInt16.toNat_toUInt8, UInt16.reduceToNat] at hnat ha hb
  rw [← UInt16.toNat_inj]
  omega

theorem acceptedPositions_nodup (offer : WebrtcOfferSummary) : (acceptedPositions offer).Nodup :=
  List.nodup_range.filter _

theorem mem_inboundContexts {media : MediaSummary} {payloadType : UInt16}
    (hle : payloadType ≤ 127) {context : InboundPayloadTypeContext} :
    (payloadType.toUInt8, context) ∈ inboundContexts media ↔
      ∃ codec ∈ media.codecs, codec.payloadType = payloadType ∧ codec.clockRate ≠ 0 ∧
        makeInboundContext media codec = context := by
  simp only [inboundContexts, List.mem_map, List.mem_filter, Bool.and_eq_true, decide_eq_true_eq,
    Prod.mk.injEq]
  constructor
  · rintro ⟨codec, ⟨hmem, hrange, hrate⟩, hkey, hcontext⟩
    exact ⟨codec, hmem, toUInt8_inj hrange hle hkey, hrate, hcontext⟩
  · rintro ⟨codec, hmem, rfl, hrate, hcontext⟩
    exact ⟨codec, ⟨hmem, hle, hrate⟩, rfl, hcontext⟩

/-- The context of a payload type that one section offers comes from that section, if the section
is configured. -/
theorem find_context_iff {offer runtimeOffer : WebrtcOfferSummary}
    (hwell : ∀ media ∈ offer.media, media.WellFormed)
    (h : makeOfferSummary offer (acceptedPositions offer) = .ok runtimeOffer)
    {place index : ℕ} {media : MediaSummary} {payloadType : UInt16}
    (hplace : (acceptedPositions offer)[place]? = some index)
    (hmedia : offer.media[index]? = some media) (hle : payloadType ≤ 127)
    (halone : OfferedAlone offer index payloadType) {context : InboundPayloadTypeContext} :
    (configureRemoteMedia runtimeOffer (acceptedPositions offer)).inboundPayloadTypes.find?
        payloadType.toUInt8 = some context ↔
      place ∈ acceptedPositions offer ∧
        AgreementMap.Agreed (inboundContexts media) payloadType.toUInt8 context := by
  have hentry : ∀ c, (payloadType.toUInt8, c) ∈
      (configuredMedia runtimeOffer (acceptedPositions offer)).flatMap inboundContexts ↔
      place ∈ acceptedPositions offer ∧ (payloadType.toUInt8, c) ∈ inboundContexts media := by
    intro c
    rw [List.mem_flatMap]
    constructor
    · rintro ⟨configured, hconfigured, hc⟩
      obtain ⟨place', hplace', index', hindex', hmedia'⟩ := (mem_configuredMedia hwell h).mp hconfigured
      have hconfiguredWell := hwell configured (List.mem_of_getElem? hmedia')
      obtain ⟨codec, hcodec, rfl, -⟩ := (mem_inboundContexts hle).mp hc
      have hsame : index' = index := by
        by_contra hne
        exact halone index' configured hmedia' hne (hconfiguredWell.listed codec hcodec)
      subst hsame
      obtain rfl := Option.some.inj (hmedia.symm.trans hmedia')
      have hplaces : place' = place :=
        (List.getElem?_inj (List.getElem?_eq_some_iff.mp hindex').1
          (acceptedPositions_nodup offer)).mp (hindex'.trans hplace.symm)
      exact ⟨hplaces ▸ hplace', hc⟩
    · rintro ⟨hmem, hc⟩
      exact ⟨media, (mem_configuredMedia hwell h).mpr ⟨place, hmem, index, hplace, hmedia⟩, hc⟩
  rw [configureRemoteMedia, AgreementMap.find?_ofEntries, AgreementMap.Agreed, AgreementMap.Agreed]
  simp only [hentry]
  constructor
  · rintro ⟨⟨hmem, hc⟩, hall⟩
    exact ⟨hmem, hc, fun other hother => hall other ⟨hmem, hother⟩⟩
  · rintro ⟨hmem, hc, hall⟩
    exact ⟨⟨hmem, hc⟩, fun other hother => hall other hother.2⟩

/-! ## Contexts of a section -/

theorem makeInboundContext_congr {media : MediaSummary} {a b : CodecInfo}
    (hrate : a.clockRate = b.clockRate)
    (hoffers : (findTransportCcExtensionId media).isSome = true →
      codecOffersTransportCc a = codecOffersTransportCc b) :
    makeInboundContext media a = makeInboundContext media b := by
  have henabled : ((findTransportCcExtensionId media).isSome && codecOffersTransportCc a) =
      ((findTransportCcExtensionId media).isSome && codecOffersTransportCc b) := by
    cases hid : (findTransportCcExtensionId media).isSome with
    | false => rfl
    | true => rw [hoffers hid]
  simp only [makeInboundContext, hrate, henabled]

theorem makeInboundContext_transportCc (media : MediaSummary) (codec : CodecInfo) (id : UInt8) :
    ((makeInboundContext media codec).transportCcEnabled = true ∧
        (makeInboundContext media codec).transportCcExtensionId = id) ↔
      findTransportCcExtensionId media = some id ∧ codecOffersTransportCc codec = true := by
  cases hid : findTransportCcExtensionId media with
  | none => simp [makeInboundContext, hid]
  | some found =>
      cases hoffers : codecOffersTransportCc codec with
      | false => simp [makeInboundContext, hoffers]
      | true => simp [makeInboundContext, hid, hoffers]

theorem codecsAgree_of_agreed {media : MediaSummary} {payloadType : UInt16}
    (hle : payloadType ≤ 127) {context : InboundPayloadTypeContext}
    (h : AgreementMap.Agreed (inboundContexts media) payloadType.toUInt8 context) :
    CodecsAgree media payloadType := by
  have hcontext : ∀ codec ∈ media.codecs, codec.payloadType = payloadType →
      codec.clockRate ≠ 0 → makeInboundContext media codec = context :=
    fun codec hcodec hpayloadType hrate => h.2 _
      ((mem_inboundContexts hle).mpr ⟨codec, hcodec, hpayloadType, hrate, rfl⟩)
  intro a ha b hb hpa hpb hra hrb
  have heq := (hcontext a ha hpa hra).trans (hcontext b hb hpb hrb).symm
  refine ⟨congrArg InboundPayloadTypeContext.clockRate heq, fun hid => ?_⟩
  have henabled := congrArg InboundPayloadTypeContext.transportCcEnabled heq
  simpa [makeInboundContext, hid] using henabled

theorem agreed_of_codecsAgree {media : MediaSummary} {payloadType : UInt16}
    (hle : payloadType ≤ 127) (h : CodecsAgree media payloadType) {codec : CodecInfo}
    (hcodec : codec ∈ media.codecs) (hpayloadType : codec.payloadType = payloadType)
    (hrate : codec.clockRate ≠ 0) :
    AgreementMap.Agreed (inboundContexts media) payloadType.toUInt8
      (makeInboundContext media codec) := by
  refine ⟨(mem_inboundContexts hle).mpr ⟨codec, hcodec, hpayloadType, hrate, rfl⟩, ?_⟩
  intro other hother
  obtain ⟨b, hb, hpb, hrb, rfl⟩ := (mem_inboundContexts hle).mp hother
  obtain ⟨hrates, hoffers⟩ := h b hb codec hcodec hpb hpayloadType hrb hrate
  exact makeInboundContext_congr hrates hoffers

/-- Where the codecs agree and the extension can be answered, the context of an answered codec is
the one the answer gives. -/
theorem contextMatches {options : SdpAnswerOptions} {media : MediaSummary} (h : media.WellFormed)
    {original : CodecInfo} {fmtp : Text} (horiginal : original ∈ media.codecs)
    (hanswered : CodecInfo.withFmtp original fmtp ∈ whipCodecs media)
    (hagree : CodecsAgree media original.payloadType)
    (hmixed : ¬TwoByteTransportCc media original.payloadType) :
    ContextMatches (makeAcceptedAnswerMedia options media none (whipCodecs media))
      original.payloadType (makeInboundContext media original) := by
  have hrate : original.clockRate ≠ 0 := (mem_whipCodecs hanswered).1
  constructor
  · rfl
  · intro value hvalue codec hparse hpayloadType
    obtain ⟨answered, hmem, rfl⟩ := mem_accepted_rtpmap.mp hvalue
    obtain ⟨hanswerRate, other, hother, otherFmtp, rfl⟩ := mem_whipCodecs hmem
    have hwell := h.codecs other hother
    have hle := h.payloadTypes _ (h.listed other hother)
    have htext : parseRtpMapAttribute (makeRtpMapValue (CodecInfo.withFmtp other otherFmtp)) =
        .ok { other with
          fmtp := [], rtcpFeedback := [] } :=
      parseRtpMapAttribute_text ⟨hwell.name_ne_nil, hwell.name, hwell.encodingParameters⟩ hle
    rw [htext] at hparse
    cases hparse
    exact (hagree original horiginal other hother rfl hpayloadType hrate hanswerRate).1
  · intro id
    rw [makeInboundContext_transportCc, answers_feedback_iff h]
    constructor
    · rintro ⟨hid, hoffers⟩
      have hfeedback : (∃ id, findTransportCcExtensionId media = some id) ∧
          ∃ codec ∈ whipCodecs media, codecOffersTransportCc codec = true :=
        ⟨⟨id, hid⟩, _, hanswered, hoffers⟩
      refine ⟨⟨⟨id, hid⟩, _, hanswered, rfl, hoffers⟩, ?_⟩
      rw [answers_extmap_iff h ((mediaOffersTransportCc_eq h _).mpr hfeedback)]
      refine ⟨hid, fun hlarge => ?_⟩
      by_contra hnot
      exact hmixed ⟨by simpa using hnot, ⟨id, hid, hlarge⟩,
        original, horiginal, rfl, hrate, hoffers⟩
    · rintro ⟨⟨⟨enabledId, hid⟩, codec, hcodec, hpayloadType, hoffers⟩, hextmap⟩
      have hfeedback : (∃ id, findTransportCcExtensionId media = some id) ∧
          ∃ codec ∈ whipCodecs media, codecOffersTransportCc codec = true :=
        ⟨⟨enabledId, hid⟩, codec, hcodec, hoffers⟩
      rw [answers_extmap_iff h ((mediaOffersTransportCc_eq h _).mpr hfeedback)] at hextmap
      obtain ⟨hcodecRate, other, hother, otherFmtp, rfl⟩ := mem_whipCodecs hcodec
      have hequal := (hagree original horiginal other hother rfl hpayloadType hrate hcodecRate).2
        (by simp [hid])
      exact ⟨hextmap.1, hequal.trans hoffers⟩

theorem createPublisher_ok {description : SessionDescription} {options : SdpAnswerOptions}
    {publisher : CreatedPublisher} (h : createPublisher description options = .ok publisher) :
    (∀ media ∈ publisher.offer.media, media.WellFormed) ∧
      publisher.answer.acceptedMlineIndexes = acceptedPositions publisher.offer ∧
      publisher.answer.description.mediaDescriptions =
        answerMediaDescriptions options publisher.offer none ∧
      makeOfferSummary publisher.offer (acceptedPositions publisher.offer) =
        .ok publisher.runtimeOffer ∧
      publisher.remoteMedia =
        configureRemoteMedia publisher.runtimeOffer (acceptedPositions publisher.offer) := by
  obtain ⟨offer, hoffer, h⟩ := bind_ok.mp h
  obtain ⟨_, -, h⟩ := bind_ok.mp h
  obtain ⟨answer, hanswer, h⟩ := bind_ok.mp h
  obtain ⟨runtimeOffer, hruntime, h⟩ := bind_ok.mp h
  cases h
  obtain ⟨haccepted, -, hmedia⟩ := buildWhipAnswer_ok hanswer
  rw [haccepted] at hruntime
  refine ⟨extractWebrtcOfferSummary_wellFormed hoffer, haccepted, hmedia, hruntime, ?_⟩
  simp only [completeInitialSetup, haccepted]

theorem rtcpMuxEnabled_iff {offer runtimeOffer : WebrtcOfferSummary}
    (hwell : ∀ media ∈ offer.media, media.WellFormed)
    (h : makeOfferSummary offer (acceptedPositions offer) = .ok runtimeOffer) :
    (configureRemoteMedia runtimeOffer (acceptedPositions offer)).rtcpMuxEnabled = true ↔
      ∃ index ∈ acceptedPositions offer, index < (acceptedPositions offer).length := by
  have hmux : ∀ media ∈ configuredMedia runtimeOffer (acceptedPositions offer),
      media.rtcpMux = true := by
    intro media hmedia
    obtain ⟨_, -, index, -, hat⟩ := (mem_configuredMedia hwell h).mp hmedia
    exact (hwell media (List.mem_of_getElem? hat)).rtcpMux
  have hall : (configuredMedia runtimeOffer (acceptedPositions offer)).all
      MediaSummary.rtcpMux = true := List.all_eq_true.mpr hmux
  simp only [configureRemoteMedia, hall, Bool.and_true, Bool.not_eq_true',
    List.isEmpty_eq_false_iff_exists_mem, mem_configuredMedia hwell h]
  constructor
  · rintro ⟨media, place, hplace, index, hindex, -⟩
    exact ⟨place, hplace, (List.getElem?_eq_some_iff.mp hindex).1⟩
  · rintro ⟨place, hplace, hlt⟩
    have hmem := List.getElem_mem hlt
    obtain ⟨media, hmedia, -⟩ := mem_acceptedPositions.mp hmem
    exact ⟨media, place, hplace, _, List.getElem?_eq_getElem hlt, hmedia⟩

/-- The configuration of a created publisher matches its answer exactly when its offer is
aligned. -/
theorem configurationMatches_iff {description : SessionDescription} {options : SdpAnswerOptions}
    {publisher : CreatedPublisher} (h : createPublisher description options = .ok publisher) :
    ConfigurationMatches publisher ↔ Aligned publisher.offer := by
  obtain ⟨hwell, haccepted, hanswer, hruntime, hremote⟩ := createPublisher_ok h
  have hmux : ∀ index ∈ publisher.answer.acceptedMlineIndexes, ∀ media,
      publisher.offer.media[index]? = some media → media.rtcpMux = true :=
    fun index _ media hmedia => (hwell media (List.mem_of_getElem? hmedia)).rtcpMux
  constructor
  · intro hmatches
    refine ⟨?_, ?_⟩
    · have henabled := hmatches.rtcpMux.mpr hmux
      rw [hremote] at henabled
      exact (rtcpMuxEnabled_iff hwell hruntime).mp henabled
    · rintro place index media _ hplace hmedia ⟨codec, hcodec, rfl⟩ halone
      have hindex := List.mem_of_getElem? hplace
      have hmediaWell := hwell media (List.mem_of_getElem? hmedia)
      obtain ⟨-, original, horiginal, fmtp, rfl⟩ := mem_whipCodecs hcodec
      have hle := hmediaWell.payloadTypes _ (hmediaWell.listed original horiginal)
      obtain ⟨context, hfind, hcontext⟩ := hmatches.payloadTypes index (haccepted ▸ hindex) _
        (hanswer ▸ accepted_section hindex hmedia) original.payloadType
        (List.mem_map.mpr ⟨_, hcodec, rfl⟩) halone
      rw [hremote, find_context_iff hwell hruntime hplace hmedia hle halone] at hfind
      obtain ⟨hconfigured, hagreed⟩ := hfind
      refine ⟨hconfigured, codecsAgree_of_agreed hle hagreed, ?_⟩
      rintro ⟨hmixed, ⟨id, hid, hlarge⟩, offering, hoffering, hpayloadType, hrate, hoffers⟩
      have hsame := hagreed.2 _
        ((mem_inboundContexts hle).mpr ⟨offering, hoffering, hpayloadType, hrate, rfl⟩)
      have hanswered := (hcontext.transportCc id).mp
        (hsame ▸ (makeInboundContext_transportCc media offering id).mpr ⟨hid, hoffers⟩)
      obtain ⟨hids, answered, hansweredMem, -, hansweredOffers⟩ :=
        (answers_feedback_iff hmediaWell).mp hanswered.1
      have hofferedCc := (mediaOffersTransportCc_eq hmediaWell (whipCodecs media)).mpr
        ⟨hids, answered, hansweredMem, hansweredOffers⟩
      have hallowed := ((answers_extmap_iff hmediaWell hofferedCc).mp hanswered.2).2 hlarge
      rw [hmixed] at hallowed
      cases hallowed
  · intro haligned
    refine ⟨?_, ?_⟩
    · intro index hindex answered hansweredAt payloadType hformat halone
      rw [haccepted] at hindex
      obtain ⟨media, hmedia, -⟩ := mem_acceptedPositions.mp hindex
      obtain ⟨place, hplace⟩ := List.getElem?_of_mem hindex
      have hmediaWell := hwell media (List.mem_of_getElem? hmedia)
      rw [hanswer, accepted_section hindex hmedia] at hansweredAt
      obtain rfl := Option.some.inj hansweredAt
      obtain ⟨codec, hcodec, htext⟩ := List.mem_map.mp hformat
      obtain rfl : codec.payloadType = payloadType :=
        UInt16.toNat_inj.mp (decimal_injective htext)
      obtain ⟨hrate, original, horiginal, fmtp, rfl⟩ := mem_whipCodecs hcodec
      have hle := hmediaWell.payloadTypes _ (hmediaWell.listed original horiginal)
      obtain ⟨hconfigured, hagree, hmixed⟩ := haligned.sections place index media
        original.payloadType hplace hmedia ⟨_, hcodec, rfl⟩ halone
      have hcontext : ContextMatches
          (makeAcceptedAnswerMedia options media none (whipCodecs media)) original.payloadType
          (makeInboundContext media original) :=
        contextMatches hmediaWell horiginal hcodec hagree hmixed
      refine ⟨makeInboundContext media original, ?_, hcontext⟩
      have hfind := (find_context_iff hwell hruntime hplace hmedia hle halone).mpr
        ⟨hconfigured, agreed_of_codecsAgree hle hagree horiginal rfl hrate⟩
      rw [hremote]
      exact hfind
    · rw [hremote, rtcpMuxEnabled_iff hwell hruntime]
      exact ⟨fun _ => hmux, fun _ => haligned.first⟩

/-! ## A rejected section before an accepted one -/

def publisherSection (kind mid payloadType rtpmap : String) : MediaDescription where
  mediaName := { media := ascii kind, port := 9, formats := [ascii payloadType] }
  attributes :=
    [⟨ascii "mid", ascii mid⟩, { key := ascii "sendonly" }, { key := ascii "rtcp-mux" },
      ⟨ascii "rtpmap", ascii rtpmap⟩]

def vp8Section (mid : String) : MediaDescription := publisherSection "video" mid "96" "96 VP8/90000"

/-- An audio section with a codec that is not supported. -/
def pcmuSection (mid : String) : MediaDescription := publisherSection "audio" mid "0" "0 PCMU/8000"

def publisherDescription (bundle : String) (sections : List MediaDescription) :
    SessionDescription where
  attributes :=
    [⟨ascii "group", ascii bundle⟩, ⟨ascii "ice-ufrag", ascii "ufrag"⟩,
      ⟨ascii "ice-pwd", ascii "password"⟩,
      ⟨ascii "fingerprint", ascii "sha-256 " ++
        (List.replicate 31 (ascii "00:")).flatten ++ ascii "00"⟩,
      ⟨ascii "setup", ascii "actpass"⟩]
  mediaDescriptions := sections

def localOptions : SdpAnswerOptions where
  localIceUfrag := ascii "local"
  localIcePwd := ascii "secret"
  localFingerprint := ⟨ascii "sha-256", ascii "00"⟩
  localCandidateAddresses := [ascii "127.0.0.1"]
  localCandidatePort := 5000

theorem configurationMatches_iff_vp8 :
    ∃ publisher, createPublisher (publisherDescription "BUNDLE 0" [vp8Section "0"]) localOptions =
        .ok publisher ∧ (ConfigurationMatches publisher ↔ Aligned publisher.offer) := by
  have hcreated : (createPublisher (publisherDescription "BUNDLE 0" [vp8Section "0"])
      localOptions).toOption.isSome = true := by decide +kernel
  cases h : createPublisher (publisherDescription "BUNDLE 0" [vp8Section "0"]) localOptions with
  | error message =>
      rw [h] at hcreated
      cases hcreated
  | ok publisher => exact ⟨publisher, rfl, configurationMatches_iff h⟩

/-- The video section is accepted at index 1, and the filtered offer has no section there. -/
theorem configuration_misses_accepted :
    ¬ ∀ (description : SessionDescription) (options : SdpAnswerOptions)
      (publisher : CreatedPublisher), createPublisher description options = .ok publisher →
      ConfigurationMatches publisher := by
  intro hall
  have hdisabled : (createPublisher (publisherDescription "BUNDLE 0 1"
      [pcmuSection "0", vp8Section "1"]) localOptions).toOption.map
        (fun publisher => publisher.remoteMedia.rtcpMuxEnabled) = some false := by decide +kernel
  cases h : createPublisher (publisherDescription "BUNDLE 0 1"
      [pcmuSection "0", vp8Section "1"]) localOptions with
  | error message =>
      rw [h] at hdisabled
      cases hdisabled
  | ok publisher =>
      rw [h] at hdisabled
      have hoff : publisher.remoteMedia.rtcpMuxEnabled = false := Option.some.inj hdisabled
      have hwell := (createPublisher_ok h).1
      have hon := (hall _ _ publisher h).rtcpMux.mpr fun index _ media hmedia =>
        (hwell media (List.mem_of_getElem? hmedia)).rtcpMux
      rw [hoff] at hon
      cases hon

end SimpleWebrtc.WhipPublisher
