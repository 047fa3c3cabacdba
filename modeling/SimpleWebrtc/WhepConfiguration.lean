import SimpleWebrtc.ConfiguredRewriter
import SimpleWebrtc.Library.PairedLists
import SimpleWebrtc.OfferFacts
import SimpleWebrtc.WhepAnswer

/-!
# The configuration for a subscriber's section

The rewriter is configured from the codecs which a subscriber's and a
publisher's section negotiate. Each negotiated codec gets a payload type
mapping, a retransmission codec that of the primary codec it repairs, and each
selected header extension gets an entry under the id the subscriber gave it.
-/
namespace SimpleWebrtc.RewriterConfig
open Library Library.Text SdpSummary SdpCodecNegotiator SdpAnswer RewrittenExtensions RtpRewriter
  ConfiguredRewriter

/-! ## Payload type mappings -/

/-- What the mapping of a negotiated codec says about it. -/
structure MapsCodec (subscriberMedia publisherMedia : MediaSummary) (codec : CodecInfo)
    (mapping : CodecPayloadTypeMapping) : Prop where
  subscriber : mapping.subscriberPayloadType = codec.payloadType
  publisher : mapping.publisherPayloadType ∈ publisherMedia.payloadTypes
  primary : isRtxCodec codec = false → mapping.publisherAssociatedPayloadType = none ∧
    mapping.subscriberAssociatedPayloadType = none
  rtx : isRtxCodec codec = true →
    (∃ a ∈ publisherMedia.payloadTypes, mapping.publisherAssociatedPayloadType = some a) ∧
    ∃ repaired ∈ whepPrimaries subscriberMedia publisherMedia,
      findCodecAptPayloadType codec = some repaired.payloadType ∧
      mapping.subscriberAssociatedPayloadType = some repaired.payloadType

theorem findCompatiblePublisherPrimaryCodec_some {publisherMedia : MediaSummary}
    {subscriberCodec publisherCodec : CodecInfo}
    (h : findCompatiblePublisherPrimaryCodec publisherMedia subscriberCodec =
      some publisherCodec) : publisherCodec.payloadType ∈ publisherMedia.payloadTypes := by
  have hmatches := List.find?_some h
  simp only [publisherCodecMatches, Bool.and_eq_true, decide_eq_true_eq] at hmatches
  exact hmatches.2.1

/-- The mapping of a primary codec is that of the publisher's codec which feeds it. -/
def PrimaryMaps (publisherMedia : MediaSummary) (codec : CodecInfo)
    (mapping : CodecPayloadTypeMapping) : Prop :=
  isRtxCodec codec = false ∧ ∃ publisherCodec,
    findCompatiblePublisherPrimaryCodec publisherMedia codec = some publisherCodec ∧
    mapping = { publisherPayloadType := publisherCodec.payloadType
                subscriberPayloadType := codec.payloadType }

theorem PrimaryMaps.mapsCodec {subscriberMedia publisherMedia : MediaSummary} {codec : CodecInfo}
    {mapping : CodecPayloadTypeMapping} (h : PrimaryMaps publisherMedia codec mapping) :
    MapsCodec subscriberMedia publisherMedia codec mapping := by
  obtain ⟨hnot, publisherCodec, hfind, rfl⟩ := h
  constructor
  · rfl
  · exact findCompatiblePublisherPrimaryCodec_some hfind
  · exact fun _ => ⟨rfl, rfl⟩
  · intro hrtx
    rw [hnot] at hrtx
    cases hrtx

/-- Every selected primary codec has a mapping. -/
theorem primaryPayloadTypeMapping_ok {subscriberMedia publisherMedia : MediaSummary}
    {codec : CodecInfo} (h : hasCompatiblePublisherCodec publisherMedia codec = true) :
    ∃ mapping, primaryPayloadTypeMapping subscriberMedia publisherMedia codec = .ok mapping ∧
      PrimaryMaps publisherMedia codec mapping := by
  obtain ⟨other, hother, hmatches⟩ := List.any_eq_true.mp h
  have hnot := publisherCodecMatches_not_rtx hmatches
  have hsome : (findCompatiblePublisherPrimaryCodec publisherMedia codec).isSome = true := by
    rw [findCompatiblePublisherPrimaryCodec, List.find?_isSome]
    exact ⟨other, hother, by simp [hmatches, hnot.2]⟩
  obtain ⟨publisherCodec, hfind⟩ := Option.isSome_iff_exists.mp hsome
  refine ⟨_, ?_, hnot.1, publisherCodec, hfind, rfl⟩
  simp [primaryPayloadTypeMapping, hfind, orError]

section
variable {subscriberMedia publisherMedia : MediaSummary}

/-- The mappings of the primary codecs, in their order. -/
theorem primaryMappings_ok :
    ∃ primary, (whepPrimaries subscriberMedia publisherMedia).mapM
        (primaryPayloadTypeMapping subscriberMedia publisherMedia) = .ok primary ∧
      List.Forall₂ (PrimaryMaps publisherMedia) (whepPrimaries subscriberMedia publisherMedia)
        primary := by
  apply exists_mapM_ok (List.forall₂_same.mpr fun _ _ => rfl)
  intro codec hcodec _ hsame
  rw [← hsame]
  exact primaryPayloadTypeMapping_ok (mem_whepPrimaries.mp hcodec).2

/-- An answerable retransmission codec repairs a selected codec which the publisher retransmits. -/
theorem rtxCodecIsAnswerable_parts {selected : List CodecInfo} {codec : CodecInfo}
    (h : rtxCodecIsAnswerable subscriberMedia publisherMedia selected codec = true) :
    ∃ apt repaired publisherCodec publisherRtx, findCodecAptPayloadType codec = some apt ∧
      findSelectedCodecByPayloadType selected apt = some repaired ∧
      findCompatiblePublisherPrimaryCodec publisherMedia repaired = some publisherCodec ∧
      findRtxCodecForApt publisherMedia publisherCodec.payloadType = some publisherRtx := by
  unfold rtxCodecIsAnswerable rtxPrimary at h
  rw [Bool.and_eq_true] at h
  replace h := h.2
  split_ifs at h
  · cases hapt : findCodecAptPayloadType codec with
    | none => simp [hapt] at h
    | some apt =>
        cases hrepaired : findSelectedCodecByPayloadType selected apt with
        | none => simp [hapt, hrepaired] at h
        | some repaired =>
            cases hpublisher : findCompatiblePublisherPrimaryCodec publisherMedia repaired with
            | none => simp [hapt, hrepaired, hpublisher] at h
            | some publisherCodec =>
                simp only [hapt, Option.bind_some, hrepaired, hpublisher,
                  mediaHasRtxCodecForApt] at h
                obtain ⟨publisherRtx, hrtx⟩ := Option.isSome_iff_exists.mp h
                exact ⟨apt, repaired, publisherCodec, publisherRtx, rfl, hrepaired, hpublisher,
                  hrtx⟩
  · simp at h

/-- One retransmission codec adds its mapping behind those of the primary codecs. -/
theorem addRtxPayloadTypeMapping_ok {primary : List CodecPayloadTypeMapping}
    (later : List CodecPayloadTypeMapping)
    (hprimary : List.Forall₂ (PrimaryMaps publisherMedia)
      (whepPrimaries subscriberMedia publisherMedia) primary) {codec : CodecInfo}
    (hcodec : codec ∈ whepRtxCodecs subscriberMedia publisherMedia) :
    ∃ mapping, addRtxPayloadTypeMapping subscriberMedia publisherMedia (primary ++ later) codec =
        .ok (primary ++ later ++ [mapping]) ∧
      MapsCodec subscriberMedia publisherMedia codec mapping := by
  obtain ⟨apt, repaired, publisherCodec, publisherRtx, hapt, hrepaired, hpublisher, hrtx⟩ :=
    rtxCodecIsAnswerable_parts (List.mem_filter.mp hcodec).2
  have hpayloadType : repaired.payloadType = apt := by simpa using List.find?_some hrepaired
  have hsame : ∀ c m, PrimaryMaps publisherMedia c m → decide (c.payloadType = apt) =
      (decide (m.subscriberPayloadType = apt) && m.subscriberAssociatedPayloadType.isNone) := by
    rintro c m ⟨-, q, -, rfl⟩
    simp
  obtain ⟨mapped, hmapped, -, other, hother, rfl⟩ := find?_forall₂ hsame hprimary hrepaired
  obtain rfl : other = publisherCodec := Option.some.inj (hother.symm.trans hpublisher)
  have hfind : (primary ++ later).find? (fun m => decide (m.subscriberPayloadType = apt) &&
      m.subscriberAssociatedPayloadType.isNone) = some
        { publisherPayloadType := other.payloadType
          subscriberPayloadType := repaired.payloadType } := by
    rw [List.find?_append, hmapped]
    rfl
  have hlisted := List.find?_some hrtx
  simp only [Bool.and_eq_true, decide_eq_true_eq] at hlisted
  refine ⟨{
    publisherPayloadType := publisherRtx.payloadType
    subscriberPayloadType := codec.payloadType
    publisherAssociatedPayloadType := some other.payloadType
    subscriberAssociatedPayloadType := some repaired.payloadType }, ?_, rfl, hlisted.1.1, ?_, ?_⟩
  · exact bind_ok.mpr ⟨apt, orError_ok.mpr hapt, bind_ok.mpr ⟨_, orError_ok.mpr hfind,
      bind_ok.mpr ⟨publisherRtx, orError_ok.mpr hrtx, rfl⟩⟩⟩
  · intro hnot
    rw [whepRtxCodecs_rtx hcodec] at hnot
    cases hnot
  · intro _
    refine ⟨⟨_, findCompatiblePublisherPrimaryCodec_some hpublisher, rfl⟩, repaired,
      List.mem_of_find?_eq_some hrepaired, ?_, rfl⟩
    rw [hapt, hpayloadType]

theorem addRtxPayloadTypeMappings_ok {primary : List CodecPayloadTypeMapping}
    (later : List CodecPayloadTypeMapping)
    (hprimary : List.Forall₂ (PrimaryMaps publisherMedia)
      (whepPrimaries subscriberMedia publisherMedia) primary) {codecs : List CodecInfo}
    (hcodecs : ∀ codec ∈ codecs, codec ∈ whepRtxCodecs subscriberMedia publisherMedia) :
    ∃ added, codecs.foldlM (addRtxPayloadTypeMapping subscriberMedia publisherMedia)
        (primary ++ later) = .ok (primary ++ later ++ added) ∧
      List.Forall₂ (MapsCodec subscriberMedia publisherMedia) codecs added := by
  induction codecs generalizing later with
  | nil => exact ⟨[], by simp [pure, Except.pure], .nil⟩
  | cons codec rest ih =>
      obtain ⟨mapping, hmapping, hmaps⟩ :=
        addRtxPayloadTypeMapping_ok later hprimary (hcodecs codec (by simp))
      obtain ⟨added, hadded, hforall⟩ := ih (later ++ [mapping])
        fun c hc => hcodecs c (List.mem_cons_of_mem _ hc)
      refine ⟨mapping :: added, ?_, .cons hmaps hforall⟩
      rw [List.foldlM_cons, hmapping]
      simpa [bind, Except.bind] using hadded

theorem whepCodecs_primaries :
    (whepCodecs subscriberMedia publisherMedia).filter (fun codec => !isRtxCodec codec) =
      whepPrimaries subscriberMedia publisherMedia := by
  rw [whepCodecs, List.filter_append, List.filter_eq_self.mpr, List.filter_eq_nil_iff.mpr,
    List.append_nil]
  · intro codec hcodec
    simp [whepRtxCodecs_rtx hcodec]
  · intro codec hcodec
    simp [whepPrimaries_not_rtx hcodec]

theorem whepCodecs_rtx :
    (whepCodecs subscriberMedia publisherMedia).filter isRtxCodec =
      whepRtxCodecs subscriberMedia publisherMedia := by
  rw [whepCodecs, List.filter_append, List.filter_eq_nil_iff.mpr, List.filter_eq_self.mpr,
    List.nil_append]
  · intro codec hcodec
    exact whepRtxCodecs_rtx hcodec
  · intro codec hcodec
    simp [whepPrimaries_not_rtx hcodec]

/-- Negotiated codecs can be mapped, each by one mapping. -/
theorem negotiateCodecPayloadTypeMappings_ok
    (h : negotiateCodecs subscriberMedia publisherMedia =
      .ok (whepCodecs subscriberMedia publisherMedia)) :
    ∃ mappings, negotiateCodecPayloadTypeMappings subscriberMedia publisherMedia = .ok mappings ∧
      List.Forall₂ (MapsCodec subscriberMedia publisherMedia)
        (whepCodecs subscriberMedia publisherMedia) mappings := by
  obtain ⟨primary, hprimary, hforall⟩ :=
    @primaryMappings_ok subscriberMedia publisherMedia
  obtain ⟨added, hadded, hrtx⟩ := addRtxPayloadTypeMappings_ok [] hforall
    fun codec (hcodec : codec ∈ whepRtxCodecs subscriberMedia publisherMedia) => hcodec
  refine ⟨primary ++ added, ?_, ?_⟩
  · rw [negotiateCodecPayloadTypeMappings, h]
    simp only [bind, Except.bind, whepCodecs_primaries, whepCodecs_rtx, hprimary]
    simpa using hadded
  · exact List.rel_append (hforall.imp fun _ _ hmaps => hmaps.mapsCodec) hrtx

end

/-! ## Payload types of the configuration -/

/-- The offered codec whose clock rate and name an entry has: one with the payload type of the
negotiated codec, or of the codec which that one repairs. -/
def DescribedBy (subscriberMedia publisherMedia : MediaSummary) (codec described : CodecInfo)
    (p : PayloadTypeMapping) : Prop :=
  p.clockRate = described.clockRate ∧ p.codecName = described.name ∧
    (isRtxCodec codec = false → described.payloadType = codec.payloadType) ∧
    (isRtxCodec codec = true → ∃ repaired ∈ whepPrimaries subscriberMedia publisherMedia,
      described.payloadType = repaired.payloadType ∧
      p.targetAssociatedPayloadType.toNat = repaired.payloadType.toNat)

/-- The entry the configuration has for a negotiated codec. A retransmission codec has none when
the section has no repair SSRC. -/
structure ConfiguresCodec (subscriberMedia publisherMedia : MediaSummary) (targetRtxSsrc : UInt32)
    (codec : CodecInfo) (entry : Option PayloadTypeMapping) : Prop where
  left_out : entry = none ↔ isRtxCodec codec = true ∧ targetRtxSsrc = 0
  target : ∀ p ∈ entry, p.targetPayloadType.toNat = codec.payloadType.toNat
  rtx : ∀ p ∈ entry, p.rtx = isRtxCodec codec
  described : ∀ p ∈ entry, ∃ described ∈ subscriberMedia.codecs,
    DescribedBy subscriberMedia publisherMedia codec described p

theorem MapsCodec.rtx_eq {subscriberMedia publisherMedia : MediaSummary} {codec : CodecInfo}
    {mapping : CodecPayloadTypeMapping}
    (h : MapsCodec subscriberMedia publisherMedia codec mapping) :
    mapping.publisherAssociatedPayloadType.isSome = isRtxCodec codec := by
  cases hrtx : isRtxCodec codec with
  | false => rw [(h.primary hrtx).1, Option.isSome_none]
  | true =>
      obtain ⟨⟨a, -, ha⟩, -⟩ := h.rtx hrtx
      rw [ha, Option.isSome_some]

theorem toNat_toUInt8 {payloadType : UInt16} (h : payloadType ≤ 127) :
    payloadType.toUInt8.toNat = payloadType.toNat := by
  have hle := UInt16.le_iff_toNat_le.mp h
  simp only [UInt16.toNat_toUInt8, UInt16.reduceToNat] at hle ⊢
  omega

/-- The payload type whose codec describes an entry, and the ones it repairs. -/
theorem associatedPayloadTypes_maps {subscriberMedia publisherMedia : MediaSummary}
    {codec : CodecInfo} {mapping : CodecPayloadTypeMapping} {mid : Text}
    {associated : Option (UInt16 × UInt16)}
    (hmaps : MapsCodec subscriberMedia publisherMedia codec mapping)
    (h : associatedPayloadTypes mid mapping = .ok associated) :
    (isRtxCodec codec = false → associated = none) ∧
      (isRtxCodec codec = true → ∃ a, ∃ repaired ∈ whepPrimaries subscriberMedia publisherMedia,
        associated = some (a, repaired.payloadType) ∧ repaired.payloadType ≤ 127) := by
  unfold associatedPayloadTypes at h
  constructor
  · intro hprimary
    rw [(hmaps.primary hprimary).1] at h
    cases h
    rfl
  · intro hrtx
    obtain ⟨⟨a, -, ha⟩, repaired, hmem, -, hrepaired⟩ := hmaps.rtx hrtx
    rw [ha, hrepaired] at h
    obtain ⟨subscriber, hsubscriber, h⟩ := bind_ok.mp h
    obtain ⟨_, hrange, h⟩ := bind_ok.mp h
    cases h
    cases hsubscriber
    exact ⟨a, repaired, hmem, rfl, (ensure_ok.mp hrange).2⟩

theorem makePayloadTypeMapping_configures {subscriberMedia publisherMedia : MediaSummary}
    {targetRtxSsrc : UInt32} {codec : CodecInfo} {mapping : CodecPayloadTypeMapping}
    (hmaps : MapsCodec subscriberMedia publisherMedia codec mapping)
    {entry : Option PayloadTypeMapping}
    (h : makePayloadTypeMapping subscriberMedia targetRtxSsrc mapping = .ok entry) :
    ConfiguresCodec subscriberMedia publisherMedia targetRtxSsrc codec entry := by
  obtain ⟨_, hrange, h⟩ := bind_ok.mp h
  have htarget := (ensure_ok.mp hrange).2
  rw [hmaps.subscriber] at htarget
  simp only [hmaps.rtx_eq] at h
  split_ifs at h with hskip
  · cases h
    exact ⟨⟨fun _ => hskip, fun _ => rfl⟩, by simp, by simp, by simp⟩
  · obtain ⟨associated, hassociated, h⟩ := bind_ok.mp h
    obtain ⟨targetCodec, hcodec, h⟩ := bind_ok.mp h
    cases h
    obtain ⟨hfind, -⟩ := Option.filter_eq_some_iff.mp (orError_ok.mp hcodec)
    have hpayloadType := List.find?_some hfind
    rw [decide_eq_true_eq] at hpayloadType
    obtain ⟨hprimary, hrtx⟩ := associatedPayloadTypes_maps hmaps hassociated
    refine ⟨⟨fun hnone => ?_, fun hcase => absurd hcase hskip⟩, ?_, ?_, ?_⟩
    · cases hnone
    · intro p hp
      cases hp
      dsimp only
      rw [hmaps.subscriber, toNat_toUInt8 htarget]
    · intro p hp
      cases hp
      rfl
    · intro p hp
      cases hp
      refine ⟨targetCodec, List.mem_of_find?_eq_some hfind, rfl, rfl, ?_, ?_⟩
      · intro hnot
        rw [hpayloadType, hprimary hnot, ← hmaps.subscriber]
        rfl
      · intro hyes
        obtain ⟨a, repaired, hmem, rfl, hle⟩ := hrtx hyes
        exact ⟨repaired, hmem, hpayloadType, toNat_toUInt8 hle⟩

/-- The payload types of the configuration are those of the codecs which have an entry. -/
theorem configured_payloadTypes {subscriberMedia publisherMedia : MediaSummary}
    {targetRtxSsrc : UInt32} {codecs : List CodecInfo} {entries : List (Option PayloadTypeMapping)}
    (h : List.Forall₂ (ConfiguresCodec subscriberMedia publisherMedia targetRtxSsrc) codecs
      entries) (n : ℕ) :
    (∃ p ∈ entries.filterMap id, p.targetPayloadType.toNat = n) ↔
      ∃ codec ∈ codecs, codec.payloadType.toNat = n ∧
        (isRtxCodec codec = true → targetRtxSsrc ≠ 0) := by
  induction h with
  | nil => simp
  | @cons codec entry codecs entries hentry _ ih =>
      cases entry with
      | none =>
          have hskip := hentry.left_out.mp rfl
          have hnot : ¬(isRtxCodec codec = true → targetRtxSsrc ≠ 0) :=
            fun hne => hne hskip.1 hskip.2
          simp only [List.filterMap_cons_none (f := id) (a := (none : Option PayloadTypeMapping))
            rfl, ih, List.mem_cons, exists_eq_or_imp, hnot, and_false, false_or]
      | some p =>
          have hkept : isRtxCodec codec = true → targetRtxSsrc ≠ 0 := by
            intro hrtx hzero
            cases hentry.left_out.mpr ⟨hrtx, hzero⟩
          have htarget := hentry.target p rfl
          rw [List.filterMap_cons_some (f := id) (b := p) rfl]
          simp only [List.mem_cons, exists_eq_or_imp, ih, htarget, and_iff_left hkept]

/-! ## Header extensions of the configuration -/

/-- Whether something holds of the ids and URIs a mapping sends header extensions under. The
transport-wide id is zero where there is none. -/
def SendsOnly (P : ℕ → Text → Prop) (mapping : MediaMapping) : Prop :=
  (∀ e ∈ mapping.headerExtensions, P e.targetId.toNat e.uri) ∧
    (mapping.targetTransportCcExtensionId ≠ 0 →
      P mapping.targetTransportCcExtensionId.toNat RewrittenExtensions.kTransportWideCcExtensionUri)

theorem toNat_ofNat_id {id : Int} (h : 0 < id ∧ id ≤ 255) :
    (UInt8.ofNat id.toNat).toNat = id.toNat := by
  rw [UInt8.toNat_ofNat_of_lt']
  simp only [UInt8.size]
  omega

/-- The selected extensions are sent under the ids the subscriber gave them. The transport-wide
id is overwritten, which loses nothing as long as no URI is selected twice. -/
theorem addHeaderExtensionMappings_ok {P : ℕ → Text → Prop} {publisherMedia : MediaSummary}
    {selected : List RtpHeaderExtension} {start mapping : MediaMapping}
    (hrange : ∀ e ∈ selected, 0 < e.id ∧ e.id ≤ 255)
    (hdistinct : (selected.map RtpHeaderExtension.uri).Nodup)
    (h : selected.foldlM (addHeaderExtensionMapping publisherMedia) start = .ok mapping)
    (hstart : RewrittenExtensions.kTransportWideCcExtensionUri ∈
      selected.map RtpHeaderExtension.uri → start.targetTransportCcExtensionId = 0) :
    (mapping.payloadTypes = start.payloadTypes ∧ mapping.targetSsrc = start.targetSsrc ∧
        mapping.targetRtxSsrc = start.targetRtxSsrc) ∧
      (SendsOnly P mapping ↔ SendsOnly P start ∧ ∀ e ∈ selected, P e.id.toNat e.uri) := by
  induction selected generalizing start with
  | nil =>
      cases h
      simp
  | cons e rest ih =>
      rw [List.foldlM_cons] at h
      obtain ⟨next, hnext, h⟩ := bind_ok.mp h
      have hid := hrange e (by simp)
      have hrest : ∀ other ∈ rest, 0 < other.id ∧ other.id ≤ 255 :=
        fun other hother => hrange other (List.mem_cons_of_mem _ hother)
      rw [List.map_cons, List.nodup_cons] at hdistinct
      unfold addHeaderExtensionMapping at hnext
      split_ifs at hnext with hwide
      · cases hnext
        have hnone : start.targetTransportCcExtensionId = 0 := hstart (by simp [hwide])
        obtain ⟨hkept, hsends⟩ := ih hrest hdistinct.2 h
          fun hmem => absurd hmem (by rw [← hwide]; exact hdistinct.1)
        refine ⟨hkept, ?_⟩
        rw [hsends]
        simp only [SendsOnly, hnone, ne_eq, not_true_eq_false, false_implies, and_true,
          ofNat_id_ne_zero hid, not_false_eq_true, true_implies, toNat_ofNat_id hid,
          List.forall_mem_cons, and_assoc, hwide]
      · cases hfind : findHeaderExtension publisherMedia e.uri with
        | none =>
            rw [hfind] at hnext
            cases hnext
        | some source =>
            rw [hfind] at hnext
            cases hnext
            obtain ⟨hkept, hsends⟩ := ih hrest hdistinct.2 h
              fun hmem => hstart (List.mem_cons_of_mem _ hmem)
            refine ⟨hkept, ?_⟩
            rw [hsends]
            simp only [SendsOnly, List.forall_mem_append, List.forall_mem_singleton,
              toNat_ofNat_id hid, List.forall_mem_cons]
            tauto

/-! ## Mappings of sections -/

/-- The header extensions of a subscriber's section which a publisher's section can feed. -/
def whepExtensions (media publisher : MediaSummary) : List RtpHeaderExtension :=
  selectAnswerHeaderExtensions media (some publisher)
    (mediaOffersTransportCc media (whepCodecs media publisher) false)

/-- What a mapping that was made says about its section. -/
structure Configures (media publisher : MediaSummary) (source : SdpAnswerMediaSource)
    (mapping : MediaMapping) : Prop where
  targetSsrc : mapping.targetSsrc = source.ssrc
  targetRtxSsrc : mapping.targetRtxSsrc = source.rtxRepairSsrc
  entries : ∃ entries, List.Forall₂ (ConfiguresCodec media publisher source.rtxRepairSsrc)
    (whepCodecs media publisher) entries ∧ mapping.payloadTypes = entries.filterMap id
  extensions : ∀ P : ℕ → Text → Prop, SendsOnly P mapping ↔
    ∀ e ∈ whepExtensions media publisher, P e.id.toNat e.uri

theorem Configures.payloadTypes {media publisher : MediaSummary} {source : SdpAnswerMediaSource}
    {mapping : MediaMapping} (h : Configures media publisher source mapping) (n : ℕ) :
    (∃ p ∈ mapping.payloadTypes, p.targetPayloadType.toNat = n) ↔
      ∃ codec ∈ whepCodecs media publisher, codec.payloadType.toNat = n ∧
        (isRtxCodec codec = true → source.rtxRepairSsrc ≠ 0) := by
  obtain ⟨entries, hentries, heq⟩ := h.entries
  rw [heq]
  exact configured_payloadTypes hentries n

theorem negotiateCodecPayloadTypeMappings_whep {subscriberMedia publisherMedia : MediaSummary}
    {mappings : List CodecPayloadTypeMapping}
    (h : negotiateCodecPayloadTypeMappings subscriberMedia publisherMedia = .ok mappings) :
    negotiateCodecs subscriberMedia publisherMedia =
        .ok (whepCodecs subscriberMedia publisherMedia) ∧
      List.Forall₂ (MapsCodec subscriberMedia publisherMedia)
        (whepCodecs subscriberMedia publisherMedia) mappings := by
  obtain ⟨codecs, hcodecs, -⟩ := bind_ok.mp h
  obtain ⟨rfl, -⟩ := negotiateCodecs_ok hcodecs
  obtain ⟨other, hother, hforall⟩ := negotiateCodecPayloadTypeMappings_ok hcodecs
  rw [h] at hother
  cases hother
  exact ⟨hcodecs, hforall⟩

theorem makeMediaMapping_configures {publisherOffer subscriberOffer : WebrtcOfferSummary}
    {index : ℕ} {source : SdpAnswerMediaSource} {media : MediaSummary} {mapping : MediaMapping}
    (hmedia : subscriberOffer.media[index]? = some media) (hwell : media.WellFormed)
    (h : makeMediaMapping publisherOffer subscriberOffer (Int.ofNat index, source) =
      .ok mapping) :
    ∃ publisher, findWhepForwardedPublisherMedia media index subscriberOffer publisherOffer =
        some publisher ∧ Configures media publisher source mapping := by
  obtain ⟨subscriberMedia, publisher, mappings, entries, start, hmakes⟩ :=
    makeMediaMapping_makes h
  have hat : subscriberMediaAt subscriberOffer (Int.ofNat index) = some media := by
    simpa [subscriberMediaAt] using hmedia
  obtain rfl : subscriberMedia = media := Option.some.inj (hmakes.place.symm.trans hat)
  refine ⟨publisher, hmakes.fed, ?_⟩
  obtain ⟨hcodecs, hmaps⟩ := negotiateCodecPayloadTypeMappings_whep hmakes.negotiated
  have hextended := hmakes.extended
  have hselected : selectWhepAnswerHeaderExtensions subscriberMedia publisher =
      whepExtensions subscriberMedia publisher := by
    rw [selectWhepAnswerHeaderExtensions, hcodecs, whepExtensions]
  rw [hselected] at hextended
  have hdistinct : ((whepExtensions subscriberMedia publisher).map RtpHeaderExtension.uri).Nodup :=
    hwell.extensionUris.sublist (List.filter_sublist.map _)
  have hextensions := fun P : ℕ → Text → Prop =>
    @addHeaderExtensionMappings_ok P publisher _ _ _ selected_id_in_range hdistinct hextended
      fun _ => hmakes.empty.2
  have hconfigures : List.Forall₂
      (ConfiguresCodec subscriberMedia publisher source.rtxRepairSsrc)
      (whepCodecs subscriberMedia publisher) entries := by
    refine forall₂_comp ?_ hmaps (mapM_ok.mp hmakes.made)
    intro codec mapping entry hmap hentry
    exact makePayloadTypeMapping_configures hmap hentry
  obtain ⟨hkept, -⟩ := hextensions fun _ _ => True
  refine ⟨hkept.2.1.trans hmakes.targetSsrc, hkept.2.2.trans hmakes.targetRtxSsrc,
    ⟨entries, hconfigures, hkept.1.trans hmakes.payloadTypes⟩, ?_⟩
  intro P
  rw [(hextensions P).2]
  apply and_iff_right
  rw [SendsOnly, hmakes.empty.1, hmakes.empty.2]
  constructor
  · intro e he
    cases he
  · intro hne
    exact absurd rfl hne

end SimpleWebrtc.RewriterConfig
