import SimpleWebrtc.PayloadTypeMappings
import SimpleWebrtc.TwoByteExtensions

/-!
# The publisher's codecs which a mapping covers

The entries of a mapping are made for the subscriber's codecs, one publisher
codec for each: the first that can feed it. A further codec of the publisher
that could feed the same codec gets no entry. So a payload type which the
publisher was answered is mapped exactly where its codec stands first.
-/
namespace SimpleWebrtc.ConfiguredRewriter
open Library Library.Text SdpSummary SdpCodecNegotiator SdpAnswer RewriterConfig RtpRewriter
  RewrittenExtensions WhipPublisher

/-! ## Entries of primary codecs -/

theorem toNat_toUInt8_of_le {n : UInt16} (h : n ≤ 127) : n.toUInt8.toNat = n.toNat := by
  have hle := UInt16.le_iff_toNat_le.mp h
  simp only [UInt16.toNat_toUInt8, UInt16.reduceToNat] at hle ⊢
  omega

theorem makePayloadTypeMapping_entry {media : MediaSummary} {rtxSsrc : UInt32}
    {mapping : CodecPayloadTypeMapping} {entry : PayloadTypeMapping}
    (h : makePayloadTypeMapping media rtxSsrc mapping = .ok (some entry)) :
    entry.rtx = mapping.publisherAssociatedPayloadType.isSome ∧
      entry.sourcePayloadType.toNat = mapping.publisherPayloadType.toNat ∧
      entry.targetPayloadType.toNat = mapping.subscriberPayloadType.toNat := by
  obtain ⟨_, hrange, h⟩ := bind_ok.mp h
  obtain ⟨hsource, htarget⟩ := ensure_ok.mp hrange
  simp only at h
  split_ifs at h
  · cases h
  · obtain ⟨associated, -, h⟩ := bind_ok.mp h
    obtain ⟨codec, -, h⟩ := bind_ok.mp h
    cases h
    exact ⟨rfl, toNat_toUInt8_of_le hsource, toNat_toUInt8_of_le htarget⟩

/-- Only a retransmission codec can be left out. -/
theorem makePayloadTypeMapping_primary {media : MediaSummary} {rtxSsrc : UInt32}
    {mapping : CodecPayloadTypeMapping} {made : Option PayloadTypeMapping}
    (hprimary : mapping.publisherAssociatedPayloadType = none)
    (h : makePayloadTypeMapping media rtxSsrc mapping = .ok made) : ∃ entry, made = some entry := by
  obtain ⟨_, -, h⟩ := bind_ok.mp h
  simp only at h
  split_ifs at h with hskip
  · rw [hprimary] at hskip
    cases hskip.1
  · obtain ⟨associated, -, h⟩ := bind_ok.mp h
    obtain ⟨codec, -, h⟩ := bind_ok.mp h
    cases h
    exact ⟨_, rfl⟩

/-- The payload type of the first publisher codec that can feed the subscriber's codec. -/
def LeadsFor (publisher : MediaSummary) (codec : CodecInfo) (payloadType : UInt16) : Prop :=
  ∃ before first after, publisher.codecs = before ++ first :: after ∧
    first.payloadType = payloadType ∧ publisherCodecMatches publisher codec first = true ∧
    ∀ earlier ∈ before, publisherCodecMatches publisher codec earlier = false

theorem leadsFor_iff {publisher : MediaSummary} {codec : CodecInfo} {payloadType : UInt16} :
    LeadsFor publisher codec payloadType ↔
      ∃ first, findCompatiblePublisherPrimaryCodec publisher codec = some first ∧
        first.payloadType = payloadType := by
  have hmatches : ∀ candidate, (!isRtxCodec candidate &&
      publisherCodecMatches publisher codec candidate) =
        publisherCodecMatches publisher codec candidate := by
    intro candidate
    cases hcandidate : publisherCodecMatches publisher codec candidate with
    | false => simp
    | true => simp [(publisherCodecMatches_not_rtx hcandidate).2]
  simp only [findCompatiblePublisherPrimaryCodec, hmatches, List.find?_eq_some_iff_append]
  constructor
  · intro hleads
    obtain ⟨before, first, after, hcodecs, hfirst, hfeeds, hearlier⟩ := hleads
    refine ⟨first, ⟨hfeeds, before, after, hcodecs, ?_⟩, hfirst⟩
    intro earlier hmem
    rw [hearlier earlier hmem]
    rfl
  · intro hfound
    obtain ⟨first, ⟨hfeeds, before, after, hcodecs, hearlier⟩, hfirst⟩ := hfound
    refine ⟨before, first, after, hcodecs, hfirst, hfeeds, ?_⟩
    intro earlier hmem
    have hnot := hearlier earlier hmem
    rwa [Bool.not_eq_true'] at hnot

section
variable {publisherOffer subscriberOffer : WebrtcOfferSummary}
  {accepted : Int × SdpAnswerMediaSource} {mapping start : MediaMapping}
  {media publisher : MediaSummary} {codecMappings : List CodecPayloadTypeMapping}
  {entries : List (Option PayloadTypeMapping)}

/-- An entry of a mapping was made for one of the negotiated codecs. -/
theorem MakesMapping.mem_payloadTypes
    (h : MakesMapping publisherOffer subscriberOffer accepted mapping media publisher
      codecMappings entries start) {entry : PayloadTypeMapping} :
    entry ∈ mapping.payloadTypes ↔ ∃ negotiated ∈ codecMappings,
      makePayloadTypeMapping media accepted.2.rtxRepairSsrc negotiated = .ok (some entry) := by
  have hmade := mapM_ok.mp h.made
  rw [h.keeps.1, List.mem_filterMap]
  constructor
  · intro hentry
    obtain ⟨made, hmem, rfl⟩ := hentry
    exact forall₂_mem_right hmade hmem
  · intro hnegotiated
    obtain ⟨negotiated, hmem, hentry⟩ := hnegotiated
    obtain ⟨made, hmade, hsame⟩ := forall₂_mem_left hmade hmem
    rw [hentry] at hsame
    exact ⟨made, hmade, (Except.ok.inj hsame).symm⟩

/-- The payload types which the primary entries of a mapping translate into one another. -/
theorem MakesMapping.primary_iff
    (h : MakesMapping publisherOffer subscriberOffer accepted mapping media publisher
      codecMappings entries start) {source target : UInt16} :
    (∃ entry ∈ mapping.payloadTypes, entry.rtx = false ∧
        entry.sourcePayloadType.toNat = source.toNat ∧
        entry.targetPayloadType.toNat = target.toNat) ↔
      ∃ codec ∈ whepPrimaries media publisher, codec.payloadType = target ∧
        LeadsFor publisher codec source := by
  obtain ⟨primary, added, rfl, hprimary, hadded⟩ := negotiated_parts h.negotiated
  constructor
  · intro hentry
    obtain ⟨entry, hmem, hnot, hsource, htarget⟩ := hentry
    obtain ⟨negotiated, hnegotiated, hmade⟩ := h.mem_payloadTypes.mp hmem
    obtain ⟨hrtx, hfrom, hto⟩ := makePayloadTypeMapping_entry hmade
    rcases List.mem_append.mp hnegotiated with hnegotiated | hnegotiated
    · obtain ⟨codec, hcodec, -, first, hfirst, rfl⟩ := forall₂_mem_right hprimary hnegotiated
      refine ⟨codec, hcodec, ?_, leadsFor_iff.mpr ⟨first, hfirst, ?_⟩⟩
      · exact UInt16.toNat_inj.mp (hto.symm.trans htarget)
      · exact UInt16.toNat_inj.mp (hfrom.symm.trans hsource)
    · obtain ⟨codec, hcodec, hof⟩ := forall₂_mem_right hadded hnegotiated
      obtain ⟨repaired, -, -, -, hassociated, -⟩ := (hof.rtx (whepRtxCodecs_rtx hcodec)).repairs
      rw [hassociated, hnot] at hrtx
      cases hrtx
  · intro hcodec
    obtain ⟨codec, hcodec, rfl, hleads⟩ := hcodec
    obtain ⟨first, hfirst, rfl⟩ := leadsFor_iff.mp hleads
    obtain ⟨negotiated, hnegotiated, -, fed, hfed, rfl⟩ := forall₂_mem_left hprimary hcodec
    obtain rfl := Option.some.inj (hfed.symm.trans hfirst)
    obtain ⟨made, -, hmade⟩ := forall₂_mem_left (mapM_ok.mp h.made)
      (List.mem_append_left added hnegotiated)
    obtain ⟨entry, rfl⟩ := makePayloadTypeMapping_primary rfl hmade
    obtain ⟨hrtx, hfrom, hto⟩ := makePayloadTypeMapping_entry hmade
    refine ⟨entry, h.mem_payloadTypes.mpr ⟨_, List.mem_append_left added hnegotiated, hmade⟩, ?_⟩
    exact ⟨hrtx, hfrom, hto⟩

end

/-! ## The forwarded sections -/

/-- A publisher that was answered, and a subscriber which was answered against its offer and
got a configuration. The publisher's offer may have been cut down to its accepted sections. -/
structure Forwarding where
  publisherOffer : WebrtcOfferSummary
  publisherOptions : SdpAnswerOptions
  publisherAnswer : BuiltSdpAnswer
  published : buildWhipAnswer publisherOffer publisherOptions = .ok publisherAnswer
  forwardedOffer : WebrtcOfferSummary
  forwards : forwardedOffer = publisherOffer ∨
    makeOfferSummary publisherOffer publisherAnswer.acceptedMlineIndexes = .ok forwardedOffer
  subscriberOffer : WebrtcOfferSummary
  subscriberOptions : SdpAnswerOptions
  subscriberAnswer : BuiltSdpAnswer
  subscribed : buildWhepAnswer subscriberOffer forwardedOffer subscriberOptions =
    .ok subscriberAnswer
  publisherSessionId : Text
  sources : List SdpAnswerMediaSource
  config : RtpRewriter.RewriterConfig
  configured : makeWhepRtpRewriterConfig publisherSessionId forwardedOffer
    { subscriberOffer := subscriberOffer
      acceptedMlineIndexes := subscriberAnswer.acceptedMlineIndexes.map Int.ofNat
      acceptedMediaSources := sources } = .ok config

/-- An accepted section of the subscriber with its mapping, the publisher's section feeding it and
what the publisher was answered there. -/
structure Forwarding.Section (f : Forwarding) where
  position : ℕ
  index : ℕ
  accepted : f.subscriberAnswer.acceptedMlineIndexes[position]? = some index
  media : MediaSummary
  offered : f.subscriberOffer.media[index]? = some media
  publisher : MediaSummary
  fed : findWhepForwardedPublisherMedia media index f.subscriberOffer f.forwardedOffer =
    some publisher
  publisherIndex : ℕ
  published : f.publisherOffer.media[publisherIndex]? = some publisher
  publisherAnswered : MediaDescription
  answered : f.publisherAnswer.description.mediaDescriptions[publisherIndex]? =
    some publisherAnswered
  mapping : MediaMapping
  configured : f.config.media[position]? = some mapping

namespace Forwarding.Section
variable {f : Forwarding}

/-- The codecs of the section in the subscriber's answer. -/
def codecs (s : f.Section) : List CodecInfo := whepCodecs s.media s.publisher

theorem codecs_answered (s : f.Section) : negotiateCodecs s.media s.publisher = .ok s.codecs ∧
    f.subscriberAnswer.description.mediaDescriptions[s.index]? =
      some (makeAcceptedAnswerMedia f.subscriberOptions s.media (some s.publisher) s.codecs) := by
  obtain ⟨media, publisher, hmedia, hpublisher, hcodecs, hsection⟩ :=
    whep_accepted_section f.subscribed (List.mem_of_getElem? s.accepted)
  obtain rfl := Option.some.inj (hmedia.symm.trans s.offered)
  obtain rfl := Option.some.inj (hpublisher.symm.trans s.fed)
  exact ⟨hcodecs, hsection⟩

/-- A codec of the publisher that the publisher was answered and the subscriber can decode, with
its normalised form. -/
structure Decodable (s : f.Section) (offered codec : CodecInfo) : Prop where
  member : offered ∈ s.publisher.codecs
  primary : isRtxCodec offered = false
  listed : payloadTypeText offered.payloadType ∈ s.publisherAnswered.mediaName.formats
  normalized : normalizeSupportedCodec s.publisher offered = some codec
  compatible : ∃ answered ∈ s.codecs, codecsAreCompatible codec answered = true

/-- The payload type has an entry, to the payload type of an answered codec it is compatible with. -/
def Maps (s : f.Section) (payloadType : UInt16) (codec : CodecInfo) : Prop :=
  ∃ entry ∈ s.mapping.payloadTypes, entry.rtx = false ∧
    entry.sourcePayloadType.toNat = payloadType.toNat ∧
    ∃ answered ∈ s.codecs, codecsAreCompatible codec answered = true ∧
      entry.targetPayloadType.toNat = answered.payloadType.toNat

/-- A codec the subscriber lists, in its normalised form, which the publisher's section can feed. -/
def Wanted (s : f.Section) (codec : CodecInfo) : Prop :=
  (∃ original ∈ s.media.codecs, normalizeListedCodec s.media original = some codec) ∧
    hasCompatiblePublisherCodec s.publisher codec = true

/-- The payload type is that of the first codec which can feed a wanted one, and the wanted one
has the payload type of a compatible codec. -/
def Leads (s : f.Section) (payloadType : UInt16) (codec : CodecInfo) : Prop :=
  ∃ wanted, s.Wanted wanted ∧ LeadsFor s.publisher wanted payloadType ∧
    ∃ answered, s.Wanted answered ∧ codecsAreCompatible codec answered = true ∧
      answered.payloadType = wanted.payloadType

/-- The answered codecs a primary codec is compatible with are wanted ones. -/
theorem answered_iff (s : f.Section) {codec answered : CodecInfo}
    (hprimary : isRtxCodec codec = false)
    (hcompatible : codecsAreCompatible codec answered = true) :
    answered ∈ s.codecs ↔ s.Wanted answered := by
  constructor
  · intro hanswered
    rcases List.mem_append.mp hanswered with hanswered | hanswered
    · exact mem_whepPrimaries.mp hanswered
    · have hrtx := whepRtxCodecs_rtx hanswered
      rw [← compatible_rtx hcompatible, hprimary] at hrtx
      cases hrtx
  · intro hwanted
    exact List.mem_append_left _ (mem_whepPrimaries.mpr hwanted)

theorem makes (s : f.Section) : ∃ source codecMappings entries start,
    MakesMapping f.forwardedOffer f.subscriberOffer (Int.ofNat s.index, source) s.mapping s.media
      s.publisher codecMappings entries start := by
  obtain ⟨_, source, hplace, hmapping⟩ := makeWhepRtpRewriterConfig_at f.configured s.configured
  obtain ⟨media, publisher, codecMappings, entries, start, hmakes⟩ :=
    makeMediaMapping_makes hmapping
  have hindex := s.accepted
  rw [List.getElem?_map, hindex] at hplace
  obtain rfl := Option.some.inj hplace
  have hat : subscriberMediaAt f.subscriberOffer (Int.ofNat s.index) = some s.media := by
    simpa [subscriberMediaAt] using s.offered
  obtain rfl := Option.some.inj (hmakes.place.symm.trans hat)
  obtain rfl := Option.some.inj (hmakes.fed.symm.trans s.fed)
  exact ⟨source, codecMappings, entries, start, hmakes⟩

theorem maps_iff (s : f.Section) {payloadType : UInt16} {codec : CodecInfo}
    (hprimary : isRtxCodec codec = false) :
    s.Maps payloadType codec ↔ s.Leads payloadType codec := by
  obtain ⟨source, codecMappings, entries, start, hmakes⟩ := s.makes
  constructor
  · intro hmaps
    obtain ⟨entry, hentry, hnot, hsource, answered, hanswered, hcompatible, htarget⟩ := hmaps
    obtain ⟨wanted, hwanted, hpayloadType, hleads⟩ :=
      hmakes.primary_iff.mp ⟨entry, hentry, hnot, hsource, htarget⟩
    exact ⟨wanted, mem_whepPrimaries.mp hwanted, hleads, answered,
      (s.answered_iff hprimary hcompatible).mp hanswered, hcompatible, hpayloadType.symm⟩
  · intro hleads
    obtain ⟨wanted, hwanted, hleads, answered, hanswered, hcompatible, hpayloadType⟩ := hleads
    obtain ⟨entry, hentry, hnot, hsource, htarget⟩ := hmakes.primary_iff.mpr
      ⟨wanted, mem_whepPrimaries.mpr hwanted, hpayloadType.symm, hleads⟩
    exact ⟨entry, hentry, hnot, hsource, answered,
      (s.answered_iff hprimary hcompatible).mpr hanswered, hcompatible, htarget⟩

end Forwarding.Section

/-- Every codec that the publisher was answered and the subscriber can decode has an entry. -/
def Forwarding.NoCodecDropped (f : Forwarding) : Prop :=
  ∀ (s : f.Section) (offered codec : CodecInfo), s.Decodable offered codec →
    s.Maps offered.payloadType codec

/-- Every such codec is the first one for a codec of the subscriber. -/
def Forwarding.EveryCodecLeads (f : Forwarding) : Prop :=
  ∀ (s : f.Section) (offered codec : CodecInfo), s.Decodable offered codec →
    s.Leads offered.payloadType codec

theorem no_codec_dropped_iff (f : Forwarding) : f.NoCodecDropped ↔ f.EveryCodecLeads := by
  constructor
  · intro hmapped s offered codec hdecodable
    have hprimary := normalized_not_rtx hdecodable.normalized
    exact (s.maps_iff hprimary).mp (hmapped s offered codec hdecodable)
  · intro hleads s offered codec hdecodable
    have hprimary := normalized_not_rtx hdecodable.normalized
    exact (s.maps_iff hprimary).mpr (hleads s offered codec hdecodable)

/-! ## One codec under two payload types -/

/-- A publisher that offers VP8 under the payload types 96 and 98. -/
def twiceVp8Description : SessionDescription :=
  publisherDescription "BUNDLE 0" [{
    mediaName := { media := ascii "video", port := 9, formats := [ascii "96", ascii "98"] }
    attributes :=
      [⟨ascii "mid", ascii "0"⟩, { key := ascii "sendonly" }, { key := ascii "rtcp-mux" },
        ⟨ascii "rtpmap", ascii "96 VP8/90000"⟩, ⟨ascii "rtpmap", ascii "98 VP8/90000"⟩] }]

def twiceVp8Publisher : WebrtcOfferSummary := extractedOffer twiceVp8Description

def vp8Subscriber : WebrtcOfferSummary :=
  extractedOffer (publisherDescription "BUNDLE v" [{
    mediaName := { media := ascii "video", port := 9, formats := [ascii "96"] }
    attributes :=
      [⟨ascii "mid", ascii "v"⟩, { key := ascii "recvonly" }, { key := ascii "rtcp-mux" },
        ⟨ascii "rtpmap", ascii "96 VP8/90000"⟩] }])

def twiceVp8Answer : BuiltSdpAnswer :=
  ((buildWhipAnswer twiceVp8Publisher localOptions).toOption).getD ⟨{}, []⟩

def vp8Answer : BuiltSdpAnswer :=
  ((buildWhepAnswer vp8Subscriber twiceVp8Publisher localOptions).toOption).getD ⟨{}, []⟩

def twiceVp8Config : RtpRewriter.RewriterConfig :=
  ((makeWhepRtpRewriterConfig (ascii "publisher") twiceVp8Publisher {
    subscriberOffer := vp8Subscriber
    acceptedMlineIndexes := vp8Answer.acceptedMlineIndexes.map Int.ofNat
    acceptedMediaSources := videoSources }).toOption).getD ⟨[], []⟩

def twiceVp8Forwarding : Forwarding where
  publisherOffer := twiceVp8Publisher
  publisherOptions := localOptions
  publisherAnswer := twiceVp8Answer
  published := by decide +kernel
  forwardedOffer := twiceVp8Publisher
  forwards := Or.inl rfl
  subscriberOffer := vp8Subscriber
  subscriberOptions := localOptions
  subscriberAnswer := vp8Answer
  subscribed := by decide +kernel
  publisherSessionId := ascii "publisher"
  sources := videoSources
  config := twiceVp8Config
  configured := by decide +kernel

def twiceVp8Section : twiceVp8Forwarding.Section where
  position := 0
  index := 0
  accepted := by decide +kernel
  media := (vp8Subscriber.media[0]?).getD {}
  offered := by decide +kernel
  publisher := (twiceVp8Publisher.media[0]?).getD {}
  fed := by decide +kernel
  publisherIndex := 0
  published := by decide +kernel
  publisherAnswered := (twiceVp8Answer.description.mediaDescriptions[0]?).getD (vp8Section "0")
  answered := by decide +kernel
  mapping := { vp8Mapping with
    targetRtxSsrc := 2
    payloadTypes := [{ sourcePayloadType := 96
                       targetPayloadType := 96
                       clockRate := 90000
                       codecName := ascii "VP8" }] }
  configured := by decide +kernel

/-- The codec which the publisher offers second. -/
def secondVp8 : CodecInfo :=
  { payloadType := 98
    name := ascii "VP8"
    clockRate := 90000 }

theorem secondVp8_decodable : twiceVp8Section.Decodable secondVp8 secondVp8 := by
  constructor
  · decide +kernel
  · decide +kernel
  · decide +kernel
  · decide +kernel
  · decide +kernel

/-- The publisher was answered 96 and 98, and the mapping has an entry for 96 alone. -/
theorem second_payload_type_dropped : ¬∀ f : Forwarding, f.NoCodecDropped := by
  intro hall
  obtain ⟨entry, hentry, -, hsource, -⟩ := hall _ _ _ _ secondVp8_decodable
  obtain rfl := List.mem_singleton.mp hentry
  cases hsource

end SimpleWebrtc.ConfiguredRewriter
