import SimpleWebrtc.H264Answer
import SimpleWebrtc.MirroredAnswer
import SimpleWebrtc.ParsedDescriptions

/-!
# Offers which were read from a text

No text an offer summary has taken from a parsed description has a line break in
it or a blank at its end, and negotiation keeps it so. A codec which is answered
has the name it was offered with, and parameters that were trimmed or made anew.
-/
namespace SimpleWebrtc.SdpFormatter
open Library Library.Text SdpSummary SdpParser SdpCodecNegotiator H264Fmtp H264Answer

/-! ## Tidy texts -/

def SingleLine (text : Text) : Prop := ∀ c ∈ text, isLineBreak c = false

/-- A text on one line which does not end with a blank. -/
structure Tidy (text : Text) : Prop where
  line : SingleLine text
  ends : text.rdropWhile isBlank = text

instance (text : Text) : Decidable (SingleLine text) := List.decidableBAll _ text

instance (text : Text) : Decidable (Tidy text) :=
  decidable_of_iff (SingleLine text ∧ text.rdropWhile isBlank = text)
    ⟨fun h => ⟨h.1, h.2⟩, fun h => ⟨h.line, h.ends⟩⟩

theorem singleLine_append {a b : Text} (ha : SingleLine a) (hb : SingleLine b) :
    SingleLine (a ++ b) := by
  intro c hc
  rcases List.mem_append.mp hc with hc | hc
  · exact ha c hc
  · exact hb c hc

theorem tidy_append {a b : Text} (ha : SingleLine a) (hb : Tidy b) (hne : b ≠ []) :
    Tidy (a ++ b) := by
  refine ⟨singleLine_append ha hb.line, ?_⟩
  have hends := List.rdropWhile_eq_self_iff.mp hb.ends hne
  rw [List.rdropWhile_eq_self_iff]
  intro hall
  rwa [List.getLast_append_of_ne_nil hall hne]

theorem tidy_of_chars {text : Text}
    (h : ∀ c ∈ text, isBlank c = false ∧ isLineBreak c = false) : Tidy text := by
  refine ⟨fun c hc => (h c hc).2, ?_⟩
  rw [List.rdropWhile_eq_self_iff]
  intro hne
  rw [(h _ (List.getLast_mem hne)).1]
  exact Bool.false_ne_true

theorem tidy_decimal (n : ℕ) : Tidy (decimal n) :=
  tidy_of_chars fun c hc => ⟨isBlank_of_isDigit (isDigit_decimal n c hc),
    not_lineBreak_of_isDigit (isDigit_decimal n c hc)⟩

theorem tidy_trim {text : Text} (h : SingleLine text) : Tidy (trim isBlank text) :=
  ⟨fun c hc => h c (mem_of_mem_trim hc), List.rdropWhile_idempotent _ _⟩

theorem tidy_field {p : UInt8 → Bool} (hp : ∀ c, p c = false → isBlank c = false)
    {text field : Text} (h : SingleLine text) (hfield : field ∈ fields p text) : Tidy field :=
  tidy_of_chars fun c hc => ⟨hp c ((field_of_mem hfield).2 c hc).1,
    h c ((field_of_mem hfield).2 c hc).2⟩

theorem isBlank_of_not_isSpace (c : UInt8) (h : isSpace c = false) : isBlank c = false := by
  have hspace : c ≠ 32 := by
    rintro rfl
    cases h
  have htab : c ≠ 9 := by
    rintro rfl
    cases h
  simp [isBlank, hspace, htab]

/-! ## Codecs -/

structure TidyCodec (codec : CodecInfo) : Prop where
  name : SingleLine codec.name
  encodingParameters : Tidy codec.encodingParameters
  fmtp : Tidy codec.fmtp

def TidyCodecs (codecs : List CodecInfo) : Prop := ∀ codec ∈ codecs, TidyCodec codec

theorem parseRtpMapAttribute_tidy {value : Text} {codec : CodecInfo} (hvalue : SingleLine value)
    (h : parseRtpMapAttribute value = .ok codec) : TidyCodec codec := by
  unfold parseRtpMapAttribute at h
  split at h
  · next payloadTypeText description hfields =>
      obtain ⟨payloadType, -, h⟩ := bind_ok.mp h
      have hmem : description ∈ fields isBlank value := by simp [hfields]
      have hpieces : ∀ piece ∈ splitOnByte 47 description,
          ∀ c ∈ piece, isBlank c = false ∧ isLineBreak c = false := by
        intro piece hpiece c hc
        have hin := (piece_of_mem_splitOnP hpiece c hc).2
        obtain ⟨hblank, hin⟩ := (field_of_mem hmem).2 c hin
        exact ⟨hblank, hvalue c hin⟩
      split at h
      · next name rate rest hsplit =>
          rw [hsplit] at hpieces
          obtain ⟨_, -, h⟩ := bind_ok.mp h
          obtain ⟨clockRate, -, h⟩ := bind_ok.mp h
          cases h
          refine ⟨fun c hc => (hpieces name (by simp) c hc).2, ?_, tidy_of_chars (by simp)⟩
          cases rest with
          | nil => exact tidy_of_chars (by simp [encodingParametersOf])
          | cons parameters rest => exact tidy_of_chars (hpieces parameters (by simp))
      · cases h
  · cases h

theorem parametersOf_tidy {value : Text} (hvalue : SingleLine value) :
    Tidy (parametersOf value) := by
  unfold parametersOf
  split
  · exact tidy_of_chars (by simp)
  · next key rest hcut =>
      obtain ⟨c, htext, -, -⟩ := cut_eq_some hcut
      refine tidy_trim fun d hd => hvalue d ?_
      rw [htext]
      exact List.mem_append_right _ (List.mem_cons_of_mem c hd)

theorem TidyCodecs.update {codecs : List CodecInfo} (h : TidyCodecs codecs)
    {f : CodecInfo → CodecInfo} (hf : ∀ codec, TidyCodec codec → TidyCodec (f codec))
    (payloadType : UInt16) : TidyCodecs (updateCodec f payloadType codecs) := by
  intro codec hcodec
  rcases mem_updateCodec hcodec with hmem | hmem
  · exact h codec hmem
  · obtain ⟨original, horiginal, rfl⟩ := List.mem_map.mp hmem
    exact hf original (h original horiginal)

theorem applyFmtp_tidy {codecs codecs' : List CodecInfo} {a : SdpAttribute}
    (hvalue : SingleLine a.value) (htidy : TidyCodecs codecs)
    (h : applyFmtp codecs a = .ok codecs') : TidyCodecs codecs' := by
  unfold applyFmtp at h
  split at h
  · obtain ⟨payloadType, -, h⟩ := bind_ok.mp h
    cases h
    refine htidy.update (fun codec hcodec => ?_) payloadType
    exact ⟨hcodec.name, hcodec.encodingParameters, parametersOf_tidy hvalue⟩
  · cases h

theorem applyRtcpFeedback_tidy {codecs codecs' : List CodecInfo} {a : SdpAttribute}
    (htidy : TidyCodecs codecs) (h : applyRtcpFeedback codecs a = .ok codecs') :
    TidyCodecs codecs' := by
  have hadd : ∀ feedback codec, TidyCodec codec →
      TidyCodec (CodecInfo.addFeedback feedback codec) :=
    fun _ _ hcodec => ⟨hcodec.name, hcodec.encodingParameters, hcodec.fmtp⟩
  unfold applyRtcpFeedback at h
  split at h
  · simp only at h
    split_ifs at h
    · cases h
      intro codec hcodec
      obtain ⟨original, horiginal, rfl⟩ := List.mem_map.mp hcodec
      exact hadd _ original (htidy original horiginal)
    · obtain ⟨payloadType, -, h⟩ := bind_ok.mp h
      cases h
      exact htidy.update (hadd _) payloadType
  · cases h

theorem ParsedMedia.singleLine {media : MediaDescription} (h : ParsedMedia media) {key : Text}
    {a : SdpAttribute} (ha : a ∈ findAttributes media.attributes key) : SingleLine a.value :=
  (h.attributes a (List.mem_filter.mp ha).1).printable.value

theorem parseCodecs_tidy {media : MediaDescription} (hmedia : ParsedMedia media)
    {payloadTypes : List UInt16} {codecs : List CodecInfo}
    (h : parseCodecs payloadTypes media = .ok codecs) : TidyCodecs codecs := by
  obtain ⟨rtpMaps, hrtpMaps, h⟩ := bind_ok.mp h
  obtain ⟨withFmtp, hfmtp, h⟩ := bind_ok.mp h
  obtain ⟨withFeedback, hfeedback, h⟩ := bind_ok.mp h
  obtain ⟨_, -, h⟩ := bind_ok.mp h
  cases h
  have htidy : TidyCodecs rtpMaps := forall_of_mapM_ok hrtpMaps fun a ha codec hcodec =>
    parseRtpMapAttribute_tidy (hmedia.singleLine ha) hcodec
  have hstart : TidyCodecs
      (rtpMaps.filter fun codec => decide (codec.payloadType ∈ payloadTypes)) :=
    fun codec hcodec => htidy codec (List.mem_filter.mp hcodec).1
  have hmiddle : TidyCodecs withFmtp := foldlM_ok_invariant
    (fun _ a ha _ hcodecs happly => applyFmtp_tidy (hmedia.singleLine ha) hcodecs happly)
    hstart hfmtp
  exact foldlM_ok_invariant
    (fun _ a _ _ hcodecs happly => applyRtcpFeedback_tidy hcodecs happly) hmiddle hfeedback

/-! ## Sections -/

structure TidyMedia (media : MediaSummary) : Prop where
  kind : media.kind = kAudio ∨ media.kind = kVideo
  mid_ne_nil : media.mid ≠ []
  mid : Tidy media.mid
  codecs : TidyCodecs media.codecs
  rids : ∀ rid ∈ media.rids, Tidy rid.id

theorem parseRidSummaries_tidy {media : MediaDescription} (hmedia : ParsedMedia media)
    {rids : List RidSummary} (h : parseRidSummaries media = .ok rids) :
    ∀ rid ∈ rids, Tidy rid.id := by
  have hone : ∀ {value : Text} {rid : RidSummary}, SingleLine value →
      parseRidSummary value = .ok rid → Tidy rid.id := by
    intro value rid hvalue hrid
    unfold parseRidSummary at hrid
    split at hrid
    · next id direction rest hfields =>
        simp only at hrid
        split_ifs at hrid
        cases hrid
        have hmem : id ∈ fields isSpace value := by simp [hfields]
        exact tidy_field isBlank_of_not_isSpace hvalue hmem
    · cases hrid
  refine foldlM_ok_invariant (P := fun rids => ∀ rid ∈ rids, Tidy rid.id) ?_ (by simp) h
  intro before a ha after hbefore hafter
  obtain ⟨rid, hrid, hafter⟩ := bind_ok.mp hafter
  obtain ⟨_, -, hafter⟩ := bind_ok.mp hafter
  cases hafter
  intro other hother
  rcases List.mem_append.mp hother with hother | hother
  · exact hbefore other hother
  · obtain rfl := List.mem_singleton.mp hother
    exact hone (hmedia.singleLine ha) hrid

theorem parseMediaSummary_tidy {description : SessionDescription} {media : MediaDescription}
    (hmedia : ParsedMedia media) {summary : MediaSummary}
    (h : parseMediaSummary description media = .ok summary) : TidyMedia summary := by
  obtain ⟨hname, hmidne, hmid⟩ := SdpAnswer.parseMediaSummary_name h
  obtain ⟨a, ha, hvalue⟩ := Option.map_eq_some_iff.mp hmid
  have hparsed := hmedia.attributes a (List.mem_of_find?_eq_some ha)
  have htidyMid : Tidy summary.mid := by
    rw [← hvalue]
    exact ⟨hparsed.printable.value, hparsed.ends⟩
  obtain ⟨_, hkind, h⟩ := bind_ok.mp h
  obtain ⟨mid, -, h⟩ := bind_ok.mp h
  obtain ⟨direction, -, h⟩ := bind_ok.mp h
  obtain ⟨_, -, h⟩ := bind_ok.mp h
  obtain ⟨_, -, h⟩ := bind_ok.mp h
  obtain ⟨_, -, h⟩ := bind_ok.mp h
  obtain ⟨_, -, h⟩ := bind_ok.mp h
  obtain ⟨_, -, h⟩ := bind_ok.mp h
  obtain ⟨payloadTypes, -, h⟩ := bind_ok.mp h
  obtain ⟨codecs, hcodecs, h⟩ := bind_ok.mp h
  obtain ⟨headerExtensions, -, h⟩ := bind_ok.mp h
  obtain ⟨⟨ptime, maxptime⟩, -, h⟩ := bind_ok.mp h
  obtain ⟨ssrcGroups, -, h⟩ := bind_ok.mp h
  obtain ⟨rids, hrids, h⟩ := bind_ok.mp h
  obtain ⟨simulcast, -, h⟩ := bind_ok.mp h
  obtain ⟨msids, -, h⟩ := bind_ok.mp h
  obtain ⟨_, -, h⟩ := bind_ok.mp h
  cases h
  exact {
    kind := ensure_ok.mp hkind
    mid_ne_nil := hmidne
    mid := htidyMid
    codecs := parseCodecs_tidy hmedia hcodecs
    rids := parseRidSummaries_tidy hmedia hrids }

def TidyOffer (offer : WebrtcOfferSummary) : Prop := ∀ media ∈ offer.media, TidyMedia media

theorem extractWebrtcOfferSummary_tidy {description : SessionDescription}
    (hparsed : Parsed description) {offer : WebrtcOfferSummary}
    (h : extractWebrtcOfferSummary description = .ok offer) : TidyOffer offer := by
  obtain ⟨hsections, -⟩ := SdpAnswer.extractWebrtcOfferSummary_sections h
  intro summary hsummary
  obtain ⟨media, hmedia, hparse⟩ := forall₂_mem_right hsections hsummary
  exact parseMediaSummary_tidy (hparsed.media media (List.mem_filter.mp hmedia).1) hparse

/-! ## Negotiated codecs -/

theorem not_lineBreak_of_not_isSpace (c : UInt8) (h : isSpace c = false) :
    isLineBreak c = false := by
  have hfeed : c ≠ 10 := by
    rintro rfl
    cases h
  have hreturn : c ≠ 13 := by
    rintro rfl
    cases h
  simp [isLineBreak, hfeed, hreturn]

theorem normalizeH264AnswerFmtp_tidy {fmtp result : Text}
    (h : normalizeH264AnswerFmtp fmtp = some result) : Tidy result := by
  obtain ⟨offer, -, -, -, rfl⟩ := negotiate_local.mp (ok_of_toOption h)
  have hflag : ∀ allowed : Bool,
      SingleLine (ascii "level-asymmetry-allowed=" ++ ascii (if allowed then "1" else "0")) := by
    decide
  have hmode : SingleLine (ascii ";packetization-mode=" ++ decimal (1 : UInt8).toNat) := by decide
  have hkey : SingleLine (ascii ";profile-level-id=") := by decide
  have hid : ∀ c ∈ (answerId offer).normalizedValue, isBlank c = false ∧ isLineBreak c = false := by
    intro c hc
    have hspace : isSpace c = false := by
      simp only [answerId, selectAnswerProfileLevelId, List.mem_append] at hc
      rcases hc with (hc | hc) | hc
      · exact (hexByte_plain _ c hc).1
      · exact (hexByte_plain _ c hc).1
      · exact (hexByte_plain _ c hc).1
    exact ⟨isBlank_of_not_isSpace c hspace, not_lineBreak_of_not_isSpace c hspace⟩
  have hne : (answerId offer).normalizedValue ≠ [] := List.cons_ne_nil _ _
  rw [makeAnswerFmtp, List.append_assoc _ (ascii ";packetization-mode=")]
  exact tidy_append (singleLine_append (singleLine_append (hflag _) hmode) hkey)
    (tidy_of_chars hid) hne

theorem appendNormalizedOpusFmtpParameter_tidy {result key value : Text} (hresult : Tidy result)
    (hkey : SingleLine key) (hvalue : Tidy value) (hne : value ≠ []) :
    Tidy (appendNormalizedOpusFmtpParameter result key value) := by
  have hfirst : SingleLine (if result = [] then [] else result ++ ascii ";") := by
    split_ifs
    · simp [SingleLine]
    · exact singleLine_append hresult.line (by decide)
  have hequals : SingleLine (ascii "=") := by decide
  exact tidy_append (singleLine_append (singleLine_append hfirst hkey) hequals) hvalue hne

theorem appendBooleanOpusFmtpParameter_tidy {parameters : List (Text × Text)}
    {key result result' : Text} (hresult : Tidy result) (hkey : SingleLine key)
    (h : appendBooleanOpusFmtpParameter parameters key result = .ok result') : Tidy result' := by
  obtain ⟨found, -, h⟩ := bind_ok.mp h
  cases found with
  | none =>
      cases h
      exact hresult
  | some value =>
      obtain ⟨hvalue, h⟩ := ensure_bind_ok.mp h
      cases h
      rcases hvalue with rfl | rfl
      · exact appendNormalizedOpusFmtpParameter_tidy hresult hkey (by decide) (by decide)
      · exact appendNormalizedOpusFmtpParameter_tidy hresult hkey (by decide) (by decide)

theorem appendU32OpusFmtpParameter_tidy {parameters : List (Text × Text)}
    {key result result' : Text} {minimum maximum : UInt32} (hresult : Tidy result)
    (hkey : SingleLine key)
    (h : appendU32OpusFmtpParameter parameters key minimum maximum result = .ok result') :
    Tidy result' := by
  obtain ⟨found, -, h⟩ := bind_ok.mp h
  cases found with
  | none =>
      cases h
      exact hresult
  | some value =>
      obtain ⟨parsed, -, h⟩ := bind_ok.mp h
      obtain ⟨-, h⟩ := ensure_bind_ok.mp h
      cases h
      exact appendNormalizedOpusFmtpParameter_tidy hresult hkey (tidy_decimal _)
        (decimal_ne_nil _)

theorem normalizeOpusFmtp_tidy {fmtp result : Text} (h : normalizeOpusFmtp fmtp = .ok result) :
    Tidy result := by
  unfold normalizeOpusFmtp at h
  split_ifs at h
  · cases h
    exact tidy_of_chars (by simp)
  · obtain ⟨parameters, -, h⟩ := bind_ok.mp h
    obtain ⟨minptime, hminptime, h⟩ := bind_ok.mp h
    obtain ⟨useinbandfec, huseinbandfec, h⟩ := bind_ok.mp h
    obtain ⟨usedtx, husedtx, h⟩ := bind_ok.mp h
    obtain ⟨stereo, hstereo, h⟩ := bind_ok.mp h
    obtain ⟨spropStereo, hspropStereo, h⟩ := bind_ok.mp h
    obtain ⟨maxplaybackrate, hmaxplaybackrate, h⟩ := bind_ok.mp h
    obtain ⟨maxcapturerate, hmaxcapturerate, h⟩ := bind_ok.mp h
    obtain ⟨maxaveragebitrate, hmaxaveragebitrate, h⟩ := bind_ok.mp h
    have htidy : Tidy minptime :=
      appendU32OpusFmtpParameter_tidy (tidy_of_chars (by simp)) (by decide) hminptime
    have htidy := appendBooleanOpusFmtpParameter_tidy htidy (by decide) huseinbandfec
    have htidy := appendBooleanOpusFmtpParameter_tidy htidy (by decide) husedtx
    have htidy := appendBooleanOpusFmtpParameter_tidy htidy (by decide) hstereo
    have htidy := appendBooleanOpusFmtpParameter_tidy htidy (by decide) hspropStereo
    have htidy := appendU32OpusFmtpParameter_tidy htidy (by decide) hmaxplaybackrate
    have htidy := appendU32OpusFmtpParameter_tidy htidy (by decide) hmaxcapturerate
    have htidy := appendU32OpusFmtpParameter_tidy htidy (by decide) hmaxaveragebitrate
    exact appendBooleanOpusFmtpParameter_tidy htidy (by decide) h

theorem normalizeSupportedCodec_tidy {media : MediaSummary} {codec codec' : CodecInfo}
    (hcodec : TidyCodec codec) (h : normalizeSupportedCodec media codec = some codec') :
    TidyCodec codec' := by
  unfold normalizeSupportedCodec at h
  split_ifs at h
  · obtain ⟨fmtp, hfmtp, rfl⟩ := Option.map_eq_some_iff.mp h
    exact ⟨hcodec.name, hcodec.encodingParameters, normalizeOpusFmtp_tidy (ok_of_toOption hfmtp)⟩
  · obtain ⟨fmtp, hfmtp, rfl⟩ := Option.map_eq_some_iff.mp h
    exact ⟨hcodec.name, hcodec.encodingParameters, normalizeH264AnswerFmtp_tidy hfmtp⟩
  · cases h
    exact hcodec

theorem appendAnswerable_tidy {answerable : List CodecInfo → CodecInfo → Bool}
    {selected offered : List CodecInfo} (hselected : TidyCodecs selected)
    (hoffered : TidyCodecs offered) :
    TidyCodecs (appendAnswerable answerable selected offered) := by
  induction offered generalizing selected with
  | nil => exact hselected
  | cons codec offered ih =>
      have hrest : TidyCodecs offered := fun other hother =>
        hoffered other (List.mem_cons_of_mem codec hother)
      rw [appendAnswerable, List.foldl_cons]
      split_ifs
      · refine ih (fun other hother => ?_) hrest
        rcases List.mem_append.mp hother with hother | hother
        · exact hselected other hother
        · obtain rfl := List.mem_singleton.mp hother
          exact hoffered other List.mem_cons_self
      · exact ih hselected hrest

theorem selected_tidy {media : MediaSummary} (hmedia : TidyMedia media)
    {selected : List CodecInfo}
    (hselected : ∀ codec ∈ selected,
      codec ∈ media.codecs.filterMap (normalizeListedCodec media)) :
    TidyCodecs (sortPrimaryCodecsByAnswerPreference media selected) := by
  intro codec hcodec
  have hperm := List.perm_insertionSort (fun left right =>
    codecAnswerPreferenceRank media left ≤ codecAnswerPreferenceRank media right) selected
  obtain ⟨original, horiginal, hlisted⟩ :=
    List.mem_filterMap.mp (hselected codec (hperm.mem_iff.mp hcodec))
  unfold normalizeListedCodec at hlisted
  split_ifs at hlisted
  exact normalizeSupportedCodec_tidy (hmedia.codecs original horiginal) hlisted

theorem negotiateOfferCodecs_tidy {media : MediaSummary} (hmedia : TidyMedia media)
    {codecs : List CodecInfo} (h : negotiateOfferCodecs media = .ok codecs) :
    TidyCodecs codecs := by
  obtain ⟨_, -, h⟩ := bind_ok.mp h
  obtain ⟨_, -, h⟩ := bind_ok.mp h
  cases h
  exact appendAnswerable_tidy (selected_tidy hmedia fun _ hcodec => hcodec) hmedia.codecs

theorem negotiateCodecs_tidy {subscriberMedia publisherMedia : MediaSummary}
    (hmedia : TidyMedia subscriberMedia) {codecs : List CodecInfo}
    (h : negotiateCodecs subscriberMedia publisherMedia = .ok codecs) : TidyCodecs codecs := by
  obtain ⟨_, -, h⟩ := bind_ok.mp h
  obtain ⟨_, -, h⟩ := bind_ok.mp h
  obtain ⟨_, -, h⟩ := bind_ok.mp h
  obtain ⟨_, -, h⟩ := bind_ok.mp h
  obtain ⟨_, -, h⟩ := bind_ok.mp h
  cases h
  exact appendAnswerable_tidy
    (selected_tidy hmedia fun _ hcodec => (List.mem_filter.mp hcodec).1) hmedia.codecs

end SimpleWebrtc.SdpFormatter
