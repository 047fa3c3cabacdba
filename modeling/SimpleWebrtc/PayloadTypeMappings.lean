import SimpleWebrtc.WhepAgreement

/-!
# Payload type mappings

Selecting the codecs of a section and mapping them search the publisher's list
twice and by other predicates. The mapping still has one entry for each selected
codec, in order, and an entry of a retransmission codec repeats the pair of a
primary entry on both sides.
-/
namespace SimpleWebrtc.SdpCodecNegotiator
open Library Library.Text SdpSummary SdpAnswer RewriterConfig WhipPublisher

/-- The entry of a primary codec: a listed codec of the publisher that can feed it. -/
structure PrimaryEntry (subscriberMedia publisherMedia : MediaSummary) (codec : CodecInfo)
    (entry : CodecPayloadTypeMapping) : Prop where
  offered : ∃ original ∈ subscriberMedia.codecs,
    original.payloadType ∈ subscriberMedia.payloadTypes ∧
    normalizeSupportedCodec subscriberMedia original = some codec
  fed : ∃ publisherCodec ∈ publisherMedia.codecs,
    publisherCodec.payloadType = entry.publisherPayloadType ∧
    publisherCodec.payloadType ∈ publisherMedia.payloadTypes ∧
    iequals publisherCodec.name codec.name = true ∧ publisherCodec.clockRate = codec.clockRate ∧
    ∃ normalized, normalizeSupportedCodec publisherMedia publisherCodec = some normalized ∧
      codecsAreCompatible normalized codec = true
  alone : entry.publisherAssociatedPayloadType = none ∧
    entry.subscriberAssociatedPayloadType = none

/-- The entry of a retransmission codec: both its codecs repair the pair of one primary entry. -/
structure RtxEntry (subscriberMedia publisherMedia : MediaSummary)
    (entries : List CodecPayloadTypeMapping) (codec : CodecInfo)
    (entry : CodecPayloadTypeMapping) : Prop where
  offered : codec ∈ subscriberMedia.codecs ∧ codec.payloadType ∈ subscriberMedia.payloadTypes
  repairs : ∃ primary ∈ entries, primary.publisherAssociatedPayloadType = none ∧
    primary.subscriberAssociatedPayloadType = none ∧
    entry.publisherAssociatedPayloadType = some primary.publisherPayloadType ∧
    entry.subscriberAssociatedPayloadType = some primary.subscriberPayloadType ∧
    findCodecAptPayloadType codec = some primary.subscriberPayloadType ∧
    ∃ publisherRtx ∈ publisherMedia.codecs, isRtxCodec publisherRtx = true ∧
      publisherRtx.payloadType = entry.publisherPayloadType ∧
      publisherRtx.payloadType ∈ publisherMedia.payloadTypes ∧
      findCodecAptPayloadType publisherRtx = some primary.publisherPayloadType

structure EntryOf (subscriberMedia publisherMedia : MediaSummary)
    (entries : List CodecPayloadTypeMapping) (codec : CodecInfo)
    (entry : CodecPayloadTypeMapping) : Prop where
  payloadType : entry.subscriberPayloadType = codec.payloadType
  primary : isRtxCodec codec = false → PrimaryEntry subscriberMedia publisherMedia codec entry
  rtx : isRtxCodec codec = true → RtxEntry subscriberMedia publisherMedia entries codec entry

/-- The entries correspond to the selected codecs in order. Where those have distinct payload
types, each has exactly one entry with its own. -/
structure MapsSelected (subscriberMedia publisherMedia : MediaSummary)
    (selected : List CodecInfo) (entries : List CodecPayloadTypeMapping) : Prop where
  mapped : List.Forall₂ (EntryOf subscriberMedia publisherMedia entries) selected entries
  single : (selected.map CodecInfo.payloadType).Nodup → ∀ codec ∈ selected,
    ∃! entry, entry ∈ entries ∧ entry.subscriberPayloadType = codec.payloadType

section
variable {subscriberMedia publisherMedia : MediaSummary}

theorem primaryEntry_of_maps {codec : CodecInfo} {entry : CodecPayloadTypeMapping}
    (hcodec : codec ∈ whepPrimaries subscriberMedia publisherMedia)
    (h : PrimaryMaps publisherMedia codec entry) :
    PrimaryEntry subscriberMedia publisherMedia codec entry := by
  obtain ⟨-, publisherCodec, hfind, rfl⟩ := h
  obtain ⟨⟨original, horiginal, hlisted⟩, -⟩ := mem_whepPrimaries.mp hcodec
  constructor
  case offered => exact ⟨original, horiginal, normalizeListedCodec_some hlisted⟩
  case alone => exact ⟨rfl, rfl⟩
  case fed =>
    have hmatches := List.find?_some hfind
    simp only [publisherCodecMatches, Bool.and_eq_true, decide_eq_true_eq] at hmatches
    obtain ⟨-, hpayloadType, hnormalizes⟩ := hmatches
    cases hnormalized : normalizeSupportedCodec publisherMedia publisherCodec with
    | none =>
        rw [hnormalized] at hnormalizes
        cases hnormalizes
    | some normalized =>
        rw [hnormalized] at hnormalizes
        obtain ⟨fmtp, hfmtp⟩ := normalizeSupportedCodec_origin hnormalized
        have hcompatible := hnormalizes
        simp only [codecsAreCompatible, Bool.and_eq_true, decide_eq_true_eq] at hcompatible
        rw [hfmtp] at hcompatible
        exact ⟨publisherCodec, List.mem_of_find?_eq_some hfind, rfl, hpayloadType,
          hcompatible.1.1.1, hcompatible.1.1.2, normalized, hnormalized, hnormalizes⟩

theorem rtxCodecIsAnswerable_listed {selected : List CodecInfo} {codec : CodecInfo}
    (h : rtxCodecIsAnswerable subscriberMedia publisherMedia selected codec = true) :
    codec.payloadType ∈ subscriberMedia.payloadTypes := by
  unfold rtxCodecIsAnswerable rtxPrimary at h
  split_ifs at h with hcondition
  · exact hcondition.2.2
  · simp at h

theorem RtxEntry.mono {entries more : List CodecPayloadTypeMapping} {codec : CodecInfo}
    {entry : CodecPayloadTypeMapping}
    (h : RtxEntry subscriberMedia publisherMedia entries codec entry)
    (hsubset : ∀ e ∈ entries, e ∈ more) :
    RtxEntry subscriberMedia publisherMedia more codec entry := by
  obtain ⟨primary, hprimary, hrest⟩ := h.repairs
  exact ⟨h.offered, primary, hsubset primary hprimary, hrest⟩

/-- What one retransmission codec adds to the entries before it. -/
theorem addRtxPayloadTypeMapping_adds {before after : List CodecPayloadTypeMapping}
    {codec : CodecInfo} (hcodec : codec ∈ whepRtxCodecs subscriberMedia publisherMedia)
    (hpairs : ∀ e ∈ before, e.subscriberAssociatedPayloadType = none →
      e.publisherAssociatedPayloadType = none)
    (h : addRtxPayloadTypeMapping subscriberMedia publisherMedia before codec = .ok after) :
    ∃ entry, after = before ++ [entry] ∧ entry.subscriberPayloadType = codec.payloadType ∧
      entry.subscriberAssociatedPayloadType ≠ none ∧
      RtxEntry subscriberMedia publisherMedia before codec entry := by
  obtain ⟨apt, hapt, h⟩ := bind_ok.mp h
  obtain ⟨primary, hprimary, h⟩ := bind_ok.mp h
  obtain ⟨publisherRtx, hrtx, h⟩ := bind_ok.mp h
  cases h
  replace hapt := orError_ok.mp hapt
  replace hprimary := orError_ok.mp hprimary
  replace hrtx := orError_ok.mp hrtx
  have hfound := List.find?_some hprimary
  simp only [Bool.and_eq_true, decide_eq_true_eq, Option.isNone_iff_eq_none] at hfound
  have hrepairs := List.find?_some hrtx
  simp only [Bool.and_eq_true, decide_eq_true_eq] at hrepairs
  have hmem := List.mem_of_find?_eq_some hprimary
  refine ⟨_, rfl, rfl, by simp, ?_⟩
  constructor
  case offered =>
    obtain ⟨hcodecs, hanswerable⟩ := List.mem_filter.mp hcodec
    exact ⟨hcodecs, rtxCodecIsAnswerable_listed hanswerable⟩
  case repairs =>
    refine ⟨primary, hmem, hpairs primary hmem hfound.2, hfound.2, rfl, rfl, ?_, ?_⟩
    · rw [hapt, hfound.1]
    · exact ⟨publisherRtx, List.mem_of_find?_eq_some hrtx, hrepairs.1.2, rfl, hrepairs.1.1,
        hrepairs.2⟩

/-- What the retransmission codecs add, one entry each. -/
theorem addRtxPayloadTypeMappings_add {codecs : List CodecInfo}
    {before after : List CodecPayloadTypeMapping}
    (hcodecs : ∀ codec ∈ codecs, codec ∈ whepRtxCodecs subscriberMedia publisherMedia)
    (hpairs : ∀ e ∈ before, e.subscriberAssociatedPayloadType = none →
      e.publisherAssociatedPayloadType = none)
    (h : codecs.foldlM (addRtxPayloadTypeMapping subscriberMedia publisherMedia) before =
      .ok after) :
    ∃ added, after = before ++ added ∧
      List.Forall₂ (EntryOf subscriberMedia publisherMedia after) codecs added := by
  induction codecs generalizing before with
  | nil =>
      cases h
      exact ⟨[], (List.append_nil _).symm, .nil⟩
  | cons codec codecs ih =>
      rw [List.foldlM_cons] at h
      obtain ⟨middle, hstep, hrest⟩ := bind_ok.mp h
      have hcodec := hcodecs codec List.mem_cons_self
      obtain ⟨entry, rfl, hpayloadType, hassociated, hentry⟩ :=
        addRtxPayloadTypeMapping_adds hcodec hpairs hstep
      have hpairs' : ∀ e ∈ before ++ [entry], e.subscriberAssociatedPayloadType = none →
          e.publisherAssociatedPayloadType = none := by
        intro e he hnone
        rcases List.mem_append.mp he with he | he
        · exact hpairs e he hnone
        · rw [List.mem_singleton.mp he] at hnone
          exact absurd hnone hassociated
      obtain ⟨added, rfl, hadded⟩ := ih (fun c hc => hcodecs c (List.mem_cons_of_mem _ hc))
        hpairs' hrest
      refine ⟨entry :: added, by simp, .cons ?_ hadded⟩
      constructor
      case payloadType => exact hpayloadType
      case primary =>
        intro hnot
        rw [whepRtxCodecs_rtx hcodec] at hnot
        cases hnot
      case rtx =>
        intro _
        apply hentry.mono
        intro e he
        exact List.mem_append_left _ (List.mem_append_left _ he)

/-- Entries with the payload types of the codecs, in order, are one for each of distinct ones. -/
theorem single_of_payloadTypes {selected : List CodecInfo}
    {entries : List CodecPayloadTypeMapping}
    (h : List.Forall₂ (fun (codec : CodecInfo) (entry : CodecPayloadTypeMapping) =>
      entry.subscriberPayloadType = codec.payloadType) selected entries)
    (hdistinct : (selected.map CodecInfo.payloadType).Nodup) :
    ∀ codec ∈ selected,
      ∃! entry, entry ∈ entries ∧ entry.subscriberPayloadType = codec.payloadType := by
  induction h with
  | nil => simp
  | @cons first entry selected entries hfirst hrest ih =>
      obtain ⟨hfresh, hdistinct⟩ := List.nodup_cons.mp hdistinct
      intro codec hcodec
      rcases List.mem_cons.mp hcodec with rfl | hcodec
      · refine ⟨entry, ⟨List.mem_cons_self, hfirst⟩, ?_⟩
        rintro other ⟨hother, hsame⟩
        rcases List.mem_cons.mp hother with rfl | hother
        · rfl
        · obtain ⟨c, hc, hpayloadType⟩ := forall₂_mem_right hrest hother
          refine absurd (List.mem_map.mpr ⟨c, hc, ?_⟩) hfresh
          rw [← hpayloadType, hsame]
      · obtain ⟨found, ⟨hfound, hsame⟩, hunique⟩ := ih hdistinct codec hcodec
        refine ⟨found, ⟨List.mem_cons_of_mem _ hfound, hsame⟩, ?_⟩
        rintro other ⟨hother, hpayloadType⟩
        rcases List.mem_cons.mp hother with rfl | hother
        · refine absurd (List.mem_map.mpr ⟨codec, hcodec, ?_⟩) hfresh
          rw [← hpayloadType, hfirst]
        · exact hunique other ⟨hother, hpayloadType⟩

/-- The primary codecs are mapped first, each to the publisher's codec which feeds it. -/
theorem negotiated_parts {entries : List CodecPayloadTypeMapping}
    (h : negotiateCodecPayloadTypeMappings subscriberMedia publisherMedia = .ok entries) :
    ∃ primary added, entries = primary ++ added ∧
      List.Forall₂ (PrimaryMaps publisherMedia) (whepPrimaries subscriberMedia publisherMedia)
        primary ∧
      List.Forall₂ (EntryOf subscriberMedia publisherMedia entries)
        (whepRtxCodecs subscriberMedia publisherMedia) added := by
  obtain ⟨selected, hcodecs, h⟩ := bind_ok.mp h
  obtain ⟨rfl, -⟩ := negotiateCodecs_ok hcodecs
  rw [whepCodecs_primaries, whepCodecs_rtx] at h
  obtain ⟨primary, hmapped, hadd⟩ := bind_ok.mp h
  obtain ⟨primary', hmapped', hprimary⟩ := @primaryMappings_ok subscriberMedia publisherMedia
  obtain rfl := Except.ok.inj (hmapped'.symm.trans hmapped)
  have hpairs : ∀ e ∈ primary', e.subscriberAssociatedPayloadType = none →
      e.publisherAssociatedPayloadType = none := by
    intro e he _
    obtain ⟨codec, -, -, publisherCodec, -, rfl⟩ := forall₂_mem_right hprimary he
    rfl
  obtain ⟨added, rfl, hadded⟩ := addRtxPayloadTypeMappings_add (fun _ hc => hc) hpairs hadd
  exact ⟨primary', added, rfl, hprimary, hadded⟩

theorem mapsSelected_of_negotiated {entries : List CodecPayloadTypeMapping}
    (h : negotiateCodecPayloadTypeMappings subscriberMedia publisherMedia = .ok entries) :
    MapsSelected subscriberMedia publisherMedia (whepCodecs subscriberMedia publisherMedia)
      entries := by
  obtain ⟨primary, added, rfl, hprimary, hadded⟩ := negotiated_parts h
  have hentries : List.Forall₂
      (EntryOf subscriberMedia publisherMedia (primary ++ added))
      (whepCodecs subscriberMedia publisherMedia) (primary ++ added) := by
    have hlisted := (List.forall₂_and_left
      (p := (· ∈ whepPrimaries subscriberMedia publisherMedia)) _ _).mpr ⟨fun _ hc => hc, hprimary⟩
    apply List.rel_append _ hadded
    apply hlisted.imp
    rintro codec entry ⟨hcodec, hmaps⟩
    constructor
    case payloadType =>
      obtain ⟨-, publisherCodec, -, rfl⟩ := hmaps
      rfl
    case primary =>
      intro _
      exact primaryEntry_of_maps hcodec hmaps
    case rtx =>
      intro hrtx
      rw [hmaps.1] at hrtx
      cases hrtx
  constructor
  case mapped => exact hentries
  case single => exact single_of_payloadTypes (hentries.imp fun _ _ hentry => hentry.payloadType)

end

/-- Negotiated codecs are always mapped, and whatever is mapped corresponds to them. -/
theorem mappings_of_negotiated (subscriberMedia publisherMedia : MediaSummary) :
    (∀ entries, negotiateCodecPayloadTypeMappings subscriberMedia publisherMedia = .ok entries →
      ∃ selected, negotiateCodecs subscriberMedia publisherMedia = .ok selected ∧
        MapsSelected subscriberMedia publisherMedia selected entries) ∧
    ∀ selected, negotiateCodecs subscriberMedia publisherMedia = .ok selected →
      ∃ entries, negotiateCodecPayloadTypeMappings subscriberMedia publisherMedia =
        .ok entries := by
  constructor
  · intro entries h
    obtain ⟨selected, hselected, -⟩ := bind_ok.mp h
    obtain ⟨rfl, -⟩ := negotiateCodecs_ok hselected
    exact ⟨_, hselected, mapsSelected_of_negotiated h⟩
  · intro selected hselected
    obtain ⟨rfl, -⟩ := negotiateCodecs_ok hselected
    obtain ⟨entries, hentries, -⟩ := negotiateCodecPayloadTypeMappings_ok hselected
    exact ⟨entries, hentries⟩

/-- A section which describes its payload type twice. -/
def repeatedSubscriber : WebrtcOfferSummary :=
  extractedOffer (publisherDescription "BUNDLE v" [{
    mediaName := { media := ascii "video", port := 9, formats := [ascii "96"] }
    attributes :=
      [⟨ascii "mid", ascii "v"⟩, { key := ascii "recvonly" }, { key := ascii "rtcp-mux" },
        ⟨ascii "rtpmap", ascii "96 VP8/90000"⟩, ⟨ascii "rtpmap", ascii "96 VP8/90000"⟩] }])

def vp8Codec : CodecInfo :=
  { payloadType := 96
    name := ascii "VP8"
    clockRate := 90000 }

theorem repeated_payload_type_mapped_twice :
    ¬∀ (subscriberMedia publisherMedia : MediaSummary) (selected : List CodecInfo)
      (entries : List CodecPayloadTypeMapping),
      negotiateCodecs subscriberMedia publisherMedia = .ok selected →
      negotiateCodecPayloadTypeMappings subscriberMedia publisherMedia = .ok entries →
      ∀ codec ∈ selected, (entries.filter fun entry =>
        decide (entry.subscriberPayloadType = codec.payloadType)).length = 1 := by
  intro hall
  have hselected : negotiateCodecs (repeatedSubscriber.media.headD {})
      (plainPublisher.media.headD {}) = .ok [vp8Codec, vp8Codec] := by decide +kernel
  have hentries : negotiateCodecPayloadTypeMappings (repeatedSubscriber.media.headD {})
      (plainPublisher.media.headD {}) =
        .ok [⟨96, 96, none, none⟩, ⟨96, 96, none, none⟩] := by decide +kernel
  have hone := hall _ _ _ _ hselected hentries vp8Codec List.mem_cons_self
  exact absurd hone (by decide)

end SimpleWebrtc.SdpCodecNegotiator
