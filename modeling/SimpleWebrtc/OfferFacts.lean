import SimpleWebrtc.SdpSummary

/-!
# What an extracted offer guarantees

Every section of an offer summary has a known kind, offers `rtcp-mux`, lists the
payload types of its codecs, and gives every header extension an id in range
and a URI of its own.
-/
namespace SimpleWebrtc.SdpSummary
open Library Library.Text

/-- A nonempty part of a codec description. -/
def IsToken (text : Text) : Prop := ∀ c ∈ text, isBlank c = false ∧ c ≠ 47

structure CodecInfo.WellFormed (codec : CodecInfo) : Prop where
  name_ne_nil : codec.name ≠ []
  name : IsToken codec.name
  encodingParameters : IsToken codec.encodingParameters

structure MediaSummary.WellFormed (media : MediaSummary) : Prop where
  kind : media.kind = kAudio ∨ media.kind = kVideo
  rtcpMux : media.rtcpMux = true
  codecs_ne_nil : media.codecs ≠ []
  codecs : ∀ codec ∈ media.codecs, codec.WellFormed
  listed : ∀ codec ∈ media.codecs, codec.payloadType ∈ media.payloadTypes
  payloadTypes : ∀ payloadType ∈ media.payloadTypes, payloadType ≤ 127
  extensionIds : ∀ e ∈ media.headerExtensions, 0 < e.id ∧ e.id ≤ 255
  extensionUris : (media.headerExtensions.map RtpHeaderExtension.uri).Nodup

theorem parsePayloadType_le {value : Text} {payloadType : UInt16}
    (h : parsePayloadType value = .ok payloadType) : payloadType ≤ 127 := by
  unfold parsePayloadType at h
  simp only at h
  split_ifs at h
  cases hread : readUInt32 (trim isBlank value) with
  | none =>
      rw [hread] at h
      cases h
  | some parsed =>
      rw [hread] at h
      simp only at h
      split_ifs at h with hle
      cases h
      have hparsed : parsed.toNat ≤ 127 := by
        have := UInt32.not_lt.mp hle
        exact UInt32.le_iff_toNat_le.mp this
      rw [UInt16.le_iff_toNat_le]
      simp only [UInt32.toNat_toUInt16, UInt16.reduceToNat]
      omega

theorem encodingParametersOf_isToken {pieces : List Text} (h : ∀ piece ∈ pieces, IsToken piece) :
    IsToken (encodingParametersOf pieces) := by
  cases pieces with
  | nil => simp [encodingParametersOf, IsToken]
  | cons piece pieces => exact h piece (by simp)

theorem parseRtpMapAttribute_wellFormed {value : Text} {codec : CodecInfo}
    (h : parseRtpMapAttribute value = .ok codec) : codec.WellFormed := by
  unfold parseRtpMapAttribute at h
  split at h
  · next payloadTypeText description hfields =>
      obtain ⟨payloadType, -, h⟩ := bind_ok.mp h
      have hmem : description ∈ fields isBlank value := by simp [hfields]
      have hdescription := (field_of_mem hmem).2
      have htokens : ∀ piece ∈ splitOnByte 47 description, IsToken piece := by
        intro piece hpiece c hc
        obtain ⟨hslash, hin⟩ := piece_of_mem_splitOnP hpiece c hc
        exact ⟨(hdescription c hin).1, by simpa using hslash⟩
      split at h
      · next name rate rest hsplit =>
          rw [hsplit] at htokens
          obtain ⟨_, hname, h⟩ := bind_ok.mp h
          obtain ⟨clockRate, -, h⟩ := bind_ok.mp h
          cases h
          refine ⟨(ensure_ok.mp hname).1, htokens name (by simp), ?_⟩
          exact encodingParametersOf_isToken fun piece hpiece => htokens piece (by simp [hpiece])
      · cases h
  · cases h

/-! ## Codecs of a section -/

/-- A change of a codec that leaves its description alone. -/
def KeepsDescription (f : CodecInfo → CodecInfo) : Prop :=
  ∀ codec, (f codec).payloadType = codec.payloadType ∧ (f codec).name = codec.name ∧
    (f codec).encodingParameters = codec.encodingParameters

/-- Codecs that are well formed and whose payload types are listed. -/
def CodecsListed (payloadTypes : List UInt16) (codecs : List CodecInfo) : Prop :=
  ∀ codec ∈ codecs, codec.WellFormed ∧ codec.payloadType ∈ payloadTypes

theorem CodecsListed.map {payloadTypes : List UInt16} {codecs : List CodecInfo}
    (h : CodecsListed payloadTypes codecs) {f : CodecInfo → CodecInfo} (hf : KeepsDescription f) :
    CodecsListed payloadTypes (codecs.map f) := by
  intro codec hcodec
  obtain ⟨original, horiginal, rfl⟩ := List.mem_map.mp hcodec
  obtain ⟨hwell, hlisted⟩ := h original horiginal
  obtain ⟨hpt, hname, hparameters⟩ := hf original
  refine ⟨⟨?_, ?_, ?_⟩, ?_⟩
  · rw [hname]
    exact hwell.name_ne_nil
  · rw [hname]
    exact hwell.name
  · rw [hparameters]
    exact hwell.encodingParameters
  · rw [hpt]
    exact hlisted

theorem mem_updateCodec {f : CodecInfo → CodecInfo} {payloadType : UInt16}
    {codecs : List CodecInfo} {codec : CodecInfo} (h : codec ∈ updateCodec f payloadType codecs) :
    codec ∈ codecs ∨ codec ∈ codecs.map f := by
  induction codecs with
  | nil => cases h
  | cons head codecs ih =>
      unfold updateCodec at h
      split_ifs at h
      · cases h with
        | head => exact Or.inr (by simp)
        | tail _ h => exact Or.inl (List.mem_cons_of_mem head h)
      · cases h with
        | head => exact Or.inl (by simp)
        | tail _ h =>
            rcases ih h with h | h
            · exact Or.inl (List.mem_cons_of_mem head h)
            · exact Or.inr (List.mem_cons_of_mem (f head) h)

theorem CodecsListed.update {payloadTypes : List UInt16} {codecs : List CodecInfo}
    (h : CodecsListed payloadTypes codecs) {f : CodecInfo → CodecInfo} (hf : KeepsDescription f)
    (payloadType : UInt16) : CodecsListed payloadTypes (updateCodec f payloadType codecs) := by
  intro codec hcodec
  rcases mem_updateCodec hcodec with hmem | hmem
  · exact h codec hmem
  · exact h.map hf codec hmem

theorem updateCodec_eq_nil {f : CodecInfo → CodecInfo} {payloadType : UInt16}
    {codecs : List CodecInfo} : updateCodec f payloadType codecs = [] ↔ codecs = [] := by
  cases codecs with
  | nil => simp [updateCodec]
  | cons codec codecs =>
      unfold updateCodec
      split_ifs <;> simp

theorem addFeedback_keeps (feedback : Text) : KeepsDescription (CodecInfo.addFeedback feedback) :=
  fun _ => ⟨rfl, rfl, rfl⟩

theorem applyFmtp_listed {payloadTypes : List UInt16} {codecs codecs' : List CodecInfo}
    {a : SdpAttribute} (hlisted : CodecsListed payloadTypes codecs)
    (h : applyFmtp codecs a = .ok codecs') : CodecsListed payloadTypes codecs' := by
  unfold applyFmtp at h
  split at h
  · obtain ⟨payloadType, -, h⟩ := bind_ok.mp h
    cases h
    apply hlisted.update
    exact fun _ => ⟨rfl, rfl, rfl⟩
  · cases h

theorem applyRtcpFeedback_listed {payloadTypes : List UInt16} {codecs codecs' : List CodecInfo}
    {a : SdpAttribute} (hlisted : CodecsListed payloadTypes codecs)
    (h : applyRtcpFeedback codecs a = .ok codecs') : CodecsListed payloadTypes codecs' := by
  unfold applyRtcpFeedback at h
  split at h
  · simp only at h
    split_ifs at h
    · cases h
      exact hlisted.map (addFeedback_keeps _)
    · obtain ⟨payloadType, -, h⟩ := bind_ok.mp h
      cases h
      exact hlisted.update (addFeedback_keeps _) payloadType
  · cases h

theorem parseCodecs_listed {payloadTypes : List UInt16} {media : MediaDescription}
    {codecs : List CodecInfo} (h : parseCodecs payloadTypes media = .ok codecs) :
    CodecsListed payloadTypes codecs ∧ codecs ≠ [] := by
  obtain ⟨rtpMaps, hrtpMaps, h⟩ := bind_ok.mp h
  obtain ⟨withFmtp, hfmtp, h⟩ := bind_ok.mp h
  obtain ⟨withFeedback, hfeedback, h⟩ := bind_ok.mp h
  obtain ⟨_, hne, h⟩ := bind_ok.mp h
  cases h
  have hwell := forall_of_mapM_ok hrtpMaps (P := CodecInfo.WellFormed)
    fun a _ codec hcodec => parseRtpMapAttribute_wellFormed hcodec
  have hstart : CodecsListed payloadTypes
      (rtpMaps.filter fun codec => decide (codec.payloadType ∈ payloadTypes)) := by
    intro codec hcodec
    obtain ⟨hmem, hlisted⟩ := List.mem_filter.mp hcodec
    exact ⟨hwell codec hmem, by simpa using hlisted⟩
  have hmiddle := foldlM_ok_invariant (P := CodecsListed payloadTypes)
    (fun _ a _ _ hlisted happly => applyFmtp_listed hlisted happly) hstart hfmtp
  exact ⟨foldlM_ok_invariant (P := CodecsListed payloadTypes)
    (fun _ a _ _ hlisted happly => applyRtcpFeedback_listed hlisted happly) hmiddle hfeedback,
    ensure_ok.mp hne⟩

/-! ## Header extensions of a section -/

theorem validateExtensions_ok {ids : List Int} {uris : List Text}
    {extensions : List RtpHeaderExtension} {u : Unit}
    (h : validateExtensions ids uris extensions = .ok u) :
    (∀ e ∈ extensions, (0 < e.id ∧ e.id ≤ 255) ∧ e.uri ∉ uris) ∧
      (extensions.map RtpHeaderExtension.uri).Nodup := by
  induction extensions generalizing ids uris with
  | nil => simp
  | cons e extensions ih =>
      obtain ⟨_, hid, h⟩ := bind_ok.mp h
      obtain ⟨_, -, h⟩ := bind_ok.mp h
      obtain ⟨_, huri, h⟩ := bind_ok.mp h
      obtain ⟨hall, hnodup⟩ := ih h
      constructor
      · intro other hother
        cases hother with
        | head => exact ⟨ensure_ok.mp hid, ensure_ok.mp huri⟩
        | tail _ hother =>
            obtain ⟨hrange, hnew⟩ := hall other hother
            exact ⟨hrange, fun hold => hnew (List.mem_append_left _ hold)⟩
      · rw [List.map_cons, List.nodup_cons]
        refine ⟨fun hmem => ?_, hnodup⟩
        obtain ⟨other, hother, heq⟩ := List.mem_map.mp hmem
        exact (hall other hother).2 (by simp [heq])

theorem validateMediaSummaryIdentity_ok {media : MediaSummary} {u : Unit}
    (h : validateMediaSummaryIdentity media = .ok u) :
    (∀ e ∈ media.headerExtensions, 0 < e.id ∧ e.id ≤ 255) ∧
      (media.headerExtensions.map RtpHeaderExtension.uri).Nodup := by
  obtain ⟨_, -, h⟩ := bind_ok.mp h
  obtain ⟨_, hextensions, h⟩ := bind_ok.mp h
  obtain ⟨hall, hnodup⟩ := validateExtensions_ok hextensions
  exact ⟨fun e he => (hall e he).1, hnodup⟩

theorem parsePayloadTypes_le {media : MediaDescription} {payloadTypes : List UInt16}
    (h : parsePayloadTypes media = .ok payloadTypes) :
    ∀ payloadType ∈ payloadTypes, payloadType ≤ 127 := by
  obtain ⟨parsed, hparsed, h⟩ := bind_ok.mp h
  obtain ⟨_, -, h⟩ := bind_ok.mp h
  cases h
  exact forall_of_mapM_ok hparsed fun _ _ _ hvalue => parsePayloadType_le hvalue

theorem parseMediaSummary_wellFormed {description : SessionDescription} {media : MediaDescription}
    {summary : MediaSummary} (h : parseMediaSummary description media = .ok summary) :
    summary.WellFormed := by
  obtain ⟨_, hkind, h⟩ := bind_ok.mp h
  obtain ⟨mid, -, h⟩ := bind_ok.mp h
  obtain ⟨direction, -, h⟩ := bind_ok.mp h
  obtain ⟨_, hmux, h⟩ := bind_ok.mp h
  obtain ⟨_, -, h⟩ := bind_ok.mp h
  obtain ⟨_, -, h⟩ := bind_ok.mp h
  obtain ⟨_, -, h⟩ := bind_ok.mp h
  obtain ⟨_, -, h⟩ := bind_ok.mp h
  obtain ⟨payloadTypes, hpayloadTypes, h⟩ := bind_ok.mp h
  obtain ⟨codecs, hcodecs, h⟩ := bind_ok.mp h
  obtain ⟨headerExtensions, -, h⟩ := bind_ok.mp h
  obtain ⟨⟨ptime, maxptime⟩, -, h⟩ := bind_ok.mp h
  obtain ⟨ssrcGroups, -, h⟩ := bind_ok.mp h
  obtain ⟨rids, -, h⟩ := bind_ok.mp h
  obtain ⟨simulcast, -, h⟩ := bind_ok.mp h
  obtain ⟨msids, -, h⟩ := bind_ok.mp h
  obtain ⟨_, hidentity, h⟩ := bind_ok.mp h
  cases h
  obtain ⟨hlisted, hne⟩ := parseCodecs_listed hcodecs
  obtain ⟨hids, huris⟩ := validateMediaSummaryIdentity_ok hidentity
  exact {
    kind := ensure_ok.mp hkind
    rtcpMux := ensure_ok.mp hmux
    codecs_ne_nil := hne
    codecs := fun codec hcodec => (hlisted codec hcodec).1
    listed := fun codec hcodec => (hlisted codec hcodec).2
    payloadTypes := parsePayloadTypes_le hpayloadTypes
    extensionIds := hids
    extensionUris := huris }

theorem extractWebrtcOfferSummary_wellFormed {description : SessionDescription}
    {offer : WebrtcOfferSummary} (h : extractWebrtcOfferSummary description = .ok offer) :
    ∀ media ∈ offer.media, media.WellFormed := by
  obtain ⟨iceUfrag, -, h⟩ := bind_ok.mp h
  obtain ⟨icePwd, -, h⟩ := bind_ok.mp h
  obtain ⟨fingerprintText, -, h⟩ := bind_ok.mp h
  obtain ⟨fingerprint, -, h⟩ := bind_ok.mp h
  obtain ⟨setupText, -, h⟩ := bind_ok.mp h
  obtain ⟨setup, -, h⟩ := bind_ok.mp h
  obtain ⟨media, hmedia, h⟩ := bind_ok.mp h
  obtain ⟨_, -, h⟩ := bind_ok.mp h
  obtain ⟨_, -, h⟩ := bind_ok.mp h
  cases h
  exact forall_of_mapM_ok hmedia fun _ _ _ hparsed => parseMediaSummary_wellFormed hparsed

end SimpleWebrtc.SdpSummary
