import SimpleWebrtc.TidyOffers
import SimpleWebrtc.WhepAgreement
import SimpleWebrtc.WhepMediaSources

/-!
# The text of an answer

The attributes of an answer are made of what an offer was read from and of local
texts which were checked for white space, so each of them is one line of the
answer's text. An offer cannot slip a line into it: the parser finds in the text
the very sections and attributes that were built.
-/
namespace SimpleWebrtc.SdpFormatter
open Library Library.Text SdpSummary SdpParser SdpCodecNegotiator SdpAnswer RewriterConfig
  WhepHandler

/-! ## Attributes which are read as they were written -/

structure Faithful (a : SdpAttribute) : Prop where
  printable : PrintableAttribute a
  reread : rereadAttribute a = a

def IsKey (key : Text) : Prop :=
  key ≠ [] ∧ ∀ c ∈ key, isBlank c = false ∧ isLineBreak c = false ∧ c ≠ 58

instance (key : Text) : Decidable (IsKey key) :=
  @instDecidableAnd _ _ inferInstance (List.decidableBAll _ key)

theorem faithful {key value : Text} (hkey : IsKey key) (hvalue : Tidy value) :
    Faithful ⟨key, value⟩ := by
  have htidy : Tidy key := tidy_of_chars fun c hc => ⟨(hkey.2 c hc).1, (hkey.2 c hc).2.1⟩
  constructor
  · refine ⟨htidy.line, hvalue.line, ?_, .inl fun hcolon => (hkey.2 58 hcolon).2.2 rfl⟩
    obtain ⟨c, rest, hcons⟩ := List.exists_cons_of_ne_nil hkey.1
    exact ⟨c, rest, hcons, (hkey.2 c (by simp [hcons])).1⟩
  · unfold rereadAttribute
    split_ifs with hempty
    · rw [htidy.ends, ← hempty]
    · rw [hvalue.ends]

theorem faithful_property {key : Text} (hkey : IsKey key) : Faithful { key := key } :=
  faithful hkey (tidy_of_chars (by simp))

def AllFaithful (attributes : List SdpAttribute) : Prop := ∀ a ∈ attributes, Faithful a

theorem AllFaithful.append {before after : List SdpAttribute} (hbefore : AllFaithful before)
    (hafter : AllFaithful after) : AllFaithful (before ++ after) := by
  intro a ha
  rcases List.mem_append.mp ha with ha | ha
  · exact hbefore a ha
  · exact hafter a ha

theorem AllFaithful.cons {a : SdpAttribute} {attributes : List SdpAttribute} (ha : Faithful a)
    (hrest : AllFaithful attributes) : AllFaithful (a :: attributes) := by
  intro other hother
  rcases List.mem_cons.mp hother with rfl | hother
  · exact ha
  · exact hrest other hother

theorem AllFaithful.nil : AllFaithful [] := fun _ ha => absurd ha List.not_mem_nil

theorem propertyIf_faithful {condition : Bool} {key : Text} (hkey : IsKey key) :
    AllFaithful (propertyIf condition key) := by
  unfold propertyIf
  split_ifs
  · exact .cons (faithful_property hkey) .nil
  · exact .nil

/-! ## What is answered to an offer -/

theorem tidy_supportedUri {kind uri : Text} {transportCcEnabled : Bool}
    (h : isSupportedAnswerHeaderExtensionUri kind uri transportCcEnabled = true) :
    Tidy uri ∧ uri ≠ [] := by
  unfold isSupportedAnswerHeaderExtensionUri at h
  split_ifs at h with htransport hmid hrid haudio
  · rw [htransport.2]
    decide
  · rw [hmid]
    decide
  · rw [hrid]
    decide
  · rw [haudio]
    decide

theorem headerExtensionAttributes_faithful (media : MediaSummary) (forwarded : Option MediaSummary)
    (transportCcEnabled : Bool) :
    AllFaithful (headerExtensionAttributes media forwarded transportCcEnabled) := by
  refine .append ?_ ?_
  · intro a ha
    obtain ⟨e, he, rfl⟩ := List.mem_map.mp ha
    have hanswers := (List.mem_filter.mp he).2
    simp only [answersHeaderExtension, Bool.and_eq_true] at hanswers
    obtain ⟨huri, hne⟩ := tidy_supportedUri hanswers.1.1.2
    have hid : SingleLine (decimal e.id.toNat ++ ascii " ") :=
      singleLine_append (tidy_decimal _).line (by decide)
    exact faithful (by decide) (tidy_append hid huri hne)
  · split_ifs
    · exact .cons (faithful_property (by decide)) .nil
    · exact .nil

/-- A RID which can be written. -/
def TidyRid (rid : Text) : Prop := Tidy rid ∧ rid ≠ []

theorem tidy_join {rids : List Text} (h : ∀ rid ∈ rids, TidyRid rid) (hne : rids ≠ []) :
    Tidy (join (ascii ";") rids) ∧ join (ascii ";") rids ≠ [] := by
  induction rids with
  | nil => exact absurd rfl hne
  | cons rid rids ih =>
      cases rids with
      | nil => exact h rid List.mem_cons_self
      | cons next rids =>
          obtain ⟨htidy, hjoined⟩ :=
            ih (fun other hother => h other (List.mem_cons_of_mem rid hother))
              (List.cons_ne_nil next rids)
          have hfirst : SingleLine (rid ++ ascii ";") :=
            singleLine_append (h rid List.mem_cons_self).1.line (by decide)
          refine ⟨tidy_append hfirst htidy hjoined, ?_⟩
          exact List.append_ne_nil_of_right_ne_nil _ hjoined

theorem simulcastAttributes_faithful {direction : Text} (hdirection : Tidy direction)
    (hne : direction ≠ []) {rids : List Text} (h : ∀ rid ∈ rids, TidyRid rid) :
    AllFaithful (simulcastAttributes direction rids) := by
  unfold simulcastAttributes
  split_ifs with hempty
  · exact .nil
  · refine .append ?_ (.cons ?_ .nil)
    · intro a ha
      obtain ⟨rid, hrid, rfl⟩ := List.mem_map.mp ha
      have hfirst : SingleLine (rid ++ ascii " ") :=
        singleLine_append (h rid hrid).1.line (by decide)
      exact faithful (by decide) (tidy_append hfirst hdirection hne)
    · obtain ⟨htidy, hjoined⟩ := tidy_join h hempty
      have hfirst : SingleLine (direction ++ ascii " ") :=
        singleLine_append hdirection.line (by decide)
      exact faithful (by decide) (tidy_append hfirst htidy hjoined)

theorem answerable_of_collectRids {answerable : Text → Bool} {rids : List Text} {rid : Text}
    (h : rid ∈ collectRids answerable rids) : answerable rid = true := by
  have hall : ∀ (rids collected : List Text), (∀ rid ∈ collected, answerable rid = true) →
      ∀ rid ∈ rids.foldl (fun collected rid =>
        if answerable rid && !decide (rid ∈ collected) then collected ++ [rid] else collected)
        collected, answerable rid = true := by
    intro rids
    induction rids with
    | nil => exact fun _ hcollected => hcollected
    | cons first rids ih =>
        intro collected hcollected
        rw [List.foldl_cons]
        split_ifs with hfirst
        · refine ih _ fun other hother => ?_
          rcases List.mem_append.mp hother with hother | hother
          · exact hcollected other hother
          · obtain rfl := List.mem_singleton.mp hother
            exact (Bool.and_eq_true_iff.mp hfirst).1
        · exact ih collected hcollected
  exact hall rids [] (by simp) rid h

theorem tidyRid_of_answerable {direction rid : Text} {media : MediaSummary}
    (hmedia : TidyMedia media) (h : mediaHasAnswerableRid direction media rid = true) :
    TidyRid rid := by
  unfold mediaHasAnswerableRid at h
  obtain ⟨hne, hfound⟩ := Bool.and_eq_true_iff.mp h
  split at hfound
  · cases hfound
  · next current hcurrent =>
      have hid : current.id = rid := by simpa using List.find?_some hcurrent
      have hrid := hmedia.rids current (List.mem_of_find?_eq_some hcurrent)
      rw [hid] at hrid
      exact ⟨hrid, by simpa using hne⟩

theorem whipRids_tidy {media : MediaSummary} (hmedia : TidyMedia media) :
    ∀ rid ∈ collectAnswerableWhipSimulcastRids media, TidyRid rid := by
  unfold collectAnswerableWhipSimulcastRids
  intro rid hrid
  split at hrid
  · cases hrid
  · split_ifs at hrid
    · exact tidyRid_of_answerable hmedia (answerable_of_collectRids hrid)
    · cases hrid

theorem whepRids_tidy {media publisher : MediaSummary} (hmedia : TidyMedia media) :
    ∀ rid ∈ collectAnswerableWhepSimulcastRids media publisher, TidyRid rid := by
  unfold collectAnswerableWhepSimulcastRids
  intro rid hrid
  split at hrid
  · split_ifs at hrid
    · have hanswerable := answerable_of_collectRids hrid
      simp only [Bool.and_eq_true] at hanswerable
      exact tidyRid_of_answerable hmedia hanswerable.1.1
    · cases hrid
  · cases hrid

theorem tidy_answeredFeedback {mediaKind : Text} {genericNackEnabled transportCcEnabled : Bool}
    {seen feedbacks : List Text} {f : Text}
    (h : f ∈ answeredFeedback (fun feedback => rtcpFeedbackIsSupportedForAnswerMedia mediaKind
      feedback genericNackEnabled transportCcEnabled) seen feedbacks) : Tidy f ∧ f ≠ [] := by
  induction feedbacks generalizing seen with
  | nil => cases h
  | cons feedback feedbacks ih =>
      rw [answeredFeedback] at h
      split_ifs at h with hsupported
      · rcases List.mem_cons.mp h with rfl | h
        · have hvalue := hsupported.1
          unfold rtcpFeedbackIsSupportedForAnswerMedia at hvalue
          simp only at hvalue
          split_ifs at hvalue with htransport hvideo
          · rw [htransport.2]
            decide
          · simp only [Bool.or_eq_true, Bool.and_eq_true, decide_eq_true_eq] at hvalue
            rcases hvalue with (⟨-, hvalue⟩ | hvalue) | hvalue
            · rw [hvalue]
              decide
            · rw [hvalue]
              decide
            · rw [hvalue]
              decide
        · exact ih h
      · exact ih h

theorem codecAttributesFrom_faithful {supported : Text → Bool}
    (hsupported : ∀ seen feedbacks, ∀ f ∈ answeredFeedback supported seen feedbacks,
      Tidy f ∧ f ≠ []) {emitted : List (UInt16 × Text)} {codecs : List CodecInfo}
    (hcodecs : TidyCodecs codecs) : AllFaithful (codecAttributesFrom supported emitted codecs) := by
  induction codecs generalizing emitted with
  | nil => exact .nil
  | cons codec codecs ih =>
      have hcodec := hcodecs codec List.mem_cons_self
      have hpayloadType : SingleLine (payloadTypeText codec.payloadType ++ ascii " ") :=
        singleLine_append (tidy_decimal _).line (by decide)
      have hrtpMap : Tidy (makeRtpMapValue codec) := by
        have hrate : SingleLine (payloadTypeText codec.payloadType ++ ascii " " ++ codec.name ++
            ascii "/") :=
          singleLine_append (singleLine_append hpayloadType hcodec.name) (by decide)
        unfold makeRtpMapValue
        split_ifs with hparameters
        · rw [List.append_nil]
          exact tidy_append hrate (tidy_decimal _) (decimal_ne_nil _)
        · rw [← List.append_assoc]
          exact tidy_append (singleLine_append
            (singleLine_append hrate (tidy_decimal _).line) (by decide))
            hcodec.encodingParameters hparameters
      rw [codecAttributesFrom]
      refine .cons (faithful (by decide) hrtpMap) (.append (.append ?_ ?_) ?_)
      · split_ifs with hfmtp
        · exact .nil
        · exact .cons (faithful (by decide) (tidy_append hpayloadType hcodec.fmtp hfmtp)) .nil
      · intro a ha
        obtain ⟨f, hf, rfl⟩ := List.mem_map.mp ha
        obtain ⟨htidy, hne⟩ := hsupported _ _ f hf
        exact faithful (by decide) (tidy_append hpayloadType htidy hne)
      · exact ih fun other hother => hcodecs other (List.mem_cons_of_mem codec hother)

theorem codecAttributes_faithful (mediaKind : Text) {codecs : List CodecInfo}
    (hcodecs : TidyCodecs codecs) (genericNackEnabled transportCcEnabled : Bool) :
    AllFaithful (codecAttributes mediaKind codecs genericNackEnabled transportCcEnabled) :=
  codecAttributesFrom_faithful (fun _ _ _ hf => tidy_answeredFeedback hf) hcodecs

theorem mediaTimingAttributes_faithful (media : MediaSummary) :
    AllFaithful (mediaTimingAttributes media) := by
  have htime : ∀ {key : Text} (time : Option UInt32), IsKey key →
      AllFaithful (timeAttribute key time) := by
    intro key time hkey
    cases time with
    | none => exact .nil
    | some time => exact .cons (faithful hkey (tidy_decimal _)) .nil
  unfold mediaTimingAttributes
  split_ifs
  · exact .nil
  · exact (htime _ (by decide)).append (htime _ (by decide))

/-! ## What is answered of the server's own -/

structure TidyOptions (options : SdpAnswerOptions) : Prop where
  iceUfrag : Tidy options.localIceUfrag
  icePwd : Tidy options.localIcePwd
  algorithm : Tidy options.localFingerprint.algorithm
  fingerprint : Tidy options.localFingerprint.value ∧ options.localFingerprint.value ≠ []
  streamId : Tidy options.localStreamId
  addresses : ∀ address ∈ options.localCandidateAddresses, Tidy address

theorem validateToken_tidy {value name : Text} {u : Unit} (h : validateToken value name = .ok u) :
    Tidy value ∧ value ≠ [] := by
  obtain ⟨hne, h⟩ := ensure_bind_ok.mp h
  have hclean := ensure_ok.mp h
  refine ⟨tidy_of_chars fun c hc => ?_, hne⟩
  simp only [containsWhitespace, List.any_eq_false, Bool.or_eq_true, decide_eq_true_eq] at hclean
  have hchar := hclean c hc
  push Not at hchar
  simp [isBlank, isLineBreak, hchar]

theorem validateCandidateAddresses_tidy {index : ℕ} {addresses : List Text} {u : Unit}
    (h : validateCandidateAddresses index addresses = .ok u) :
    ∀ address ∈ addresses, Tidy address := by
  induction addresses generalizing index with
  | nil => simp
  | cons address addresses ih =>
      obtain ⟨_, haddress, h⟩ := bind_ok.mp h
      intro other hother
      rcases List.mem_cons.mp hother with rfl | hother
      · exact (validateToken_tidy haddress).1
      · exact ih h other hother

theorem validateOptions_tidy {options : SdpAnswerOptions} {u : Unit}
    (h : validateOptions options = .ok u) : TidyOptions options := by
  obtain ⟨_, hufrag, h⟩ := bind_ok.mp h
  obtain ⟨_, hpwd, h⟩ := bind_ok.mp h
  obtain ⟨_, halgorithm, h⟩ := bind_ok.mp h
  obtain ⟨_, hfingerprint, h⟩ := bind_ok.mp h
  obtain ⟨_, hstreamId, h⟩ := bind_ok.mp h
  obtain ⟨-, h⟩ := ensure_bind_ok.mp h
  obtain ⟨-, h⟩ := ensure_bind_ok.mp h
  exact {
    iceUfrag := (validateToken_tidy hufrag).1
    icePwd := (validateToken_tidy hpwd).1
    algorithm := (validateToken_tidy halgorithm).1
    fingerprint := validateToken_tidy hfingerprint
    streamId := (validateToken_tidy hstreamId).1
    addresses := validateCandidateAddresses_tidy h }

theorem iceCandidateAttributes_faithful {options : SdpAnswerOptions} (h : TidyOptions options) :
    AllFaithful (iceCandidateAttributes options) := by
  refine .append ?_ (.cons (faithful_property (by decide)) .nil)
  intro a ha
  obtain ⟨index, hindex, rfl⟩ := List.mem_mapIdx.mp ha
  have haddress := h.addresses _ (List.getElem_mem hindex)
  have hblank : SingleLine (ascii " ") := by decide
  have hudp : SingleLine (ascii " 1 udp ") := by decide
  refine faithful (by decide) (tidy_append ?_ (by decide) (by decide))
  exact singleLine_append (singleLine_append (singleLine_append (singleLine_append
    (singleLine_append (singleLine_append (tidy_decimal _).line hudp) (tidy_decimal _).line) hblank)
    haddress.line) hblank) (tidy_decimal _).line

/-- The names under which sources are described. -/
def TidyNames (options : SdpAnswerOptions) : Prop :=
  ∀ source ∈ options.mediaSources, Tidy source.cname ∧ source.cname ≠ []

theorem ssrcAttributes_faithful (ssrc : UInt32) {cname msid : Text}
    (hcname : Tidy cname ∧ cname ≠ []) (hmsid : Tidy msid ∧ msid ≠ []) :
    AllFaithful (ssrcAttributes ssrc cname msid) := by
  have hfirst : ∀ {label : Text}, SingleLine label → SingleLine (decimal ssrc.toNat ++ label) :=
    fun hlabel => singleLine_append (tidy_decimal _).line hlabel
  refine .cons ?_ (.cons ?_ .nil)
  · exact faithful (by decide) (tidy_append (hfirst (by decide)) hcname.1 hcname.2)
  · exact faithful (by decide) (tidy_append (hfirst (by decide)) hmsid.1 hmsid.2)

theorem findAnswerMediaSource_mem {options : SdpAnswerOptions} {media forwarded : MediaSummary}
    {source : SdpAnswerMediaSource}
    (h : findAnswerMediaSource options media forwarded = some source) :
    source ∈ options.mediaSources := by
  unfold findAnswerMediaSource at h
  cases hmedia : options.mediaSources.find? (answerMediaSourceMatchesMedia media) with
  | some found =>
      rw [hmedia] at h
      obtain rfl := Option.some.inj h
      exact List.mem_of_find?_eq_some hmedia
  | none =>
      cases hforwarded : options.mediaSources.find? (answerMediaSourceMatchesMedia forwarded) with
      | some found =>
          rw [hmedia, hforwarded] at h
          obtain rfl := Option.some.inj h
          exact List.mem_of_find?_eq_some hforwarded
      | none =>
          rw [hmedia, hforwarded] at h
          have hunique : findUniqueAnswerMediaSourceByKind options media.kind = some source := h
          unfold findUniqueAnswerMediaSourceByKind at hunique
          split at hunique
          · next found hfound =>
              obtain rfl := Option.some.inj hunique
              have hmem : found ∈ options.mediaSources.filter fun s =>
                  decide (s.ssrc ≠ 0) && decide (s.kind = media.kind) := by
                rw [hfound]
                exact List.mem_singleton_self _
              exact (List.mem_filter.mp hmem).1
          · cases hunique

theorem sendingAttributes_faithful {options : SdpAnswerOptions} (h : TidyOptions options)
    (hnames : TidyNames options) (media : MediaSummary) {forwarded : MediaSummary}
    (hforwarded : TidyMedia forwarded) (codecs : List CodecInfo) :
    AllFaithful (sendingAttributes options media forwarded codecs) := by
  have hkind : SingleLine forwarded.kind := by
    rcases hforwarded.kind with hkind | hkind
    · rw [hkind]
      decide
    · rw [hkind]
      decide
  have hmsid : Tidy (makeMsidValue options forwarded) ∧ makeMsidValue options forwarded ≠ [] := by
    have hfirst : SingleLine (options.localStreamId ++ ascii " " ++ forwarded.kind ++ ascii "-") :=
      singleLine_append (singleLine_append (singleLine_append h.streamId.line (by decide)) hkind)
        (by decide)
    exact ⟨tidy_append hfirst hforwarded.mid hforwarded.mid_ne_nil,
      List.append_ne_nil_of_right_ne_nil _ hforwarded.mid_ne_nil⟩
  unfold sendingAttributes
  refine .cons (faithful (by decide) hmsid.1) ?_
  split
  · exact .nil
  · next source hsource =>
      have hcname := hnames source (findAnswerMediaSource_mem hsource)
      refine .append (ssrcAttributes_faithful _ hcname hmsid) ?_
      split_ifs
      · exact .nil
      · have hgroup : SingleLine (ascii "FID " ++ decimal source.ssrc.toNat ++ ascii " ") :=
          singleLine_append (singleLine_append (by decide) (tidy_decimal _).line) (by decide)
        exact .cons (faithful (by decide) (tidy_append hgroup (tidy_decimal _) (decimal_ne_nil _)))
          (ssrcAttributes_faithful _ hcname hmsid)

/-! ## Sections -/

/-- A section which is read as it was written, but for its address. -/
structure FaithfulMedia (media : MediaDescription) : Prop where
  name : PrintableName media.mediaName
  connection : SingleLine media.connectionAddress
  attributes : AllFaithful media.attributes

theorem mediaType_of_kind {media : MediaSummary} (h : TidyMedia media) :
    media.kind ∈ mediaTypes := by
  rcases h.kind with hkind | hkind
  · rw [hkind]
    decide
  · rw [hkind]
    decide

theorem decimal_format (n : ℕ) :
    Text.IsWord isBlank (decimal n) ∧ ∀ c ∈ decimal n, isLineBreak c = false :=
  ⟨isWord_decimal n, (tidy_decimal n).line⟩

theorem makeRejectedAnswerMedia_faithful {media : MediaSummary} (h : TidyMedia media) :
    FaithfulMedia (makeRejectedAnswerMedia media) := by
  have hconnection : SingleLine (ascii "0.0.0.0") := by decide
  refine ⟨⟨mediaType_of_kind h, by simp [makeRejectedAnswerMedia], ?_, ?_⟩, hconnection, ?_⟩
  · simp only [makeRejectedAnswerMedia]
    split_ifs with hempty
    · exact List.cons_ne_nil _ _
    · simpa using hempty
  · intro format hformat
    simp only [makeRejectedAnswerMedia] at hformat
    split_ifs at hformat
    · obtain rfl := List.mem_singleton.mp hformat
      exact ⟨⟨by decide, by decide +kernel⟩, by decide +kernel⟩
    · obtain ⟨payloadType, -, rfl⟩ := List.mem_map.mp hformat
      exact decimal_format _
  · refine .append (.append ?_ (propertyIf_faithful (by decide))) (propertyIf_faithful (by decide))
    exact .cons (faithful (by decide) h.mid) (.cons (faithful_property (by decide)) .nil)

theorem makeAcceptedAnswerMedia_faithful {options : SdpAnswerOptions}
    (hoptions : TidyOptions options) (hnames : TidyNames options) {media : MediaSummary}
    (h : TidyMedia media) {forwarded : Option MediaSummary}
    (hforwarded : ∀ publisher ∈ forwarded, TidyMedia publisher) {codecs : List CodecInfo}
    (hcodecs : TidyCodecs codecs) (hne : codecs ≠ []) :
    FaithfulMedia (makeAcceptedAnswerMedia options media forwarded codecs) := by
  refine ⟨⟨mediaType_of_kind h, by simp [makeAcceptedAnswerMedia], ?_, ?_⟩, ?_, ?_⟩
  · simpa [makeAcceptedAnswerMedia] using hne
  · intro format hformat
    obtain ⟨codec, -, rfl⟩ := List.mem_map.mp hformat
    exact decimal_format _
  · simp only [makeAcceptedAnswerMedia]
    cases haddresses : options.localCandidateAddresses with
    | nil => simp [SingleLine]
    | cons address addresses => exact (hoptions.addresses address (by simp [haddresses])).line
  · have hdirection : IsKey (makeAnswerDirection forwarded.isSome media).toText := by
      unfold makeAnswerDirection
      split_ifs
      · decide
      · decide
      · decide
    refine .append (.append (.append (.append (.append (.append (.append ?_ ?_) ?_) ?_) ?_) ?_)
      ?_) ?_
    · exact .cons (faithful (by decide) h.mid)
        (.cons (faithful_property hdirection) (.cons (faithful_property (by decide)) .nil))
    · exact propertyIf_faithful (by decide)
    · exact headerExtensionAttributes_faithful _ _ _
    · cases forwarded with
      | none => exact simulcastAttributes_faithful (by decide) (by decide) (whipRids_tidy h)
      | some publisher =>
          exact simulcastAttributes_faithful (by decide) (by decide) (whepRids_tidy h)
    · exact codecAttributes_faithful _ hcodecs _ _
    · exact mediaTimingAttributes_faithful media
    · exact iceCandidateAttributes_faithful hoptions
    · cases forwarded with
      | none => exact .nil
      | some publisher =>
          exact sendingAttributes_faithful hoptions hnames media (hforwarded publisher rfl) codecs

theorem answeredCodecs_tidy {media : MediaSummary} (h : TidyMedia media) {index : ℕ}
    {offer : WebrtcOfferSummary} {publisherOffer : Option WebrtcOfferSummary}
    (hpublisher : ∀ publisher ∈ publisherOffer, TidyOffer publisher)
    {forwarded : Option MediaSummary} {codecs : List CodecInfo}
    (hanswered : answeredCodecs media index offer publisherOffer = some (forwarded, codecs)) :
    (∀ publisher ∈ forwarded, TidyMedia publisher) ∧ TidyCodecs codecs ∧ codecs ≠ [] := by
  cases publisherOffer with
  | none =>
      rw [answeredCodecs_whip] at hanswered
      split_ifs at hanswered with hne
      cases hanswered
      refine ⟨by simp, fun codec hcodec => ?_, hne⟩
      unfold whipCodecs at hcodec
      cases hnegotiated : negotiateOfferCodecs media with
      | error message =>
          rw [hnegotiated] at hcodec
          cases hcodec
      | ok negotiated =>
          rw [hnegotiated] at hcodec
          exact negotiateOfferCodecs_tidy h hnegotiated codec (List.mem_filter.mp hcodec).1
  | some offered =>
      obtain ⟨publisher, rfl, hfound, hnegotiated⟩ := answeredCodecs_whep hanswered
      obtain ⟨hcodecs, hprimaries⟩ := negotiateCodecs_ok hnegotiated
      refine ⟨?_, negotiateCodecs_tidy h hnegotiated, ?_⟩
      · intro other hother
        obtain rfl := Option.some.inj hother
        exact hpublisher offered rfl _ (findWhepForwardedPublisherMedia_mem hfound)
      · rw [hcodecs]
        exact List.append_ne_nil_of_left_ne_nil hprimaries _

/-! ## Answers -/

theorem answerMediaDescriptions_faithful {options : SdpAnswerOptions}
    (hoptions : TidyOptions options) (hnames : TidyNames options) {offer : WebrtcOfferSummary}
    (hoffer : TidyOffer offer) {publisherOffer : Option WebrtcOfferSummary}
    (hpublisher : ∀ publisher ∈ publisherOffer, TidyOffer publisher) :
    ∀ media ∈ answerMediaDescriptions options offer publisherOffer, FaithfulMedia media := by
  intro answered hanswered
  obtain ⟨index, hindex, rfl⟩ := List.mem_mapIdx.mp hanswered
  have hmedia := hoffer _ (List.getElem_mem hindex)
  unfold makeAnswerMedia
  split_ifs
  · exact makeRejectedAnswerMedia_faithful hmedia
  · split
    · exact makeRejectedAnswerMedia_faithful hmedia
    · next forwarded codecs hcodecs =>
        obtain ⟨hforwarded, htidy, hne⟩ := answeredCodecs_tidy hmedia hpublisher hcodecs
        exact makeAcceptedAnswerMedia_faithful hoptions hnames hmedia hforwarded htidy hne

theorem makeBundleGroupValue_tidy {offer : WebrtcOfferSummary} (hoffer : TidyOffer offer)
    {indexes : List ℕ} (hindexes : ∀ index ∈ indexes, index < offer.media.length) :
    Tidy (makeBundleGroupValue offer indexes) := by
  have hall : ∀ indexes : List ℕ, (∀ index ∈ indexes, index < offer.media.length) →
      indexes ≠ [] → Tidy (indexes.flatMap fun index =>
        ascii " " ++ ((offer.media[index]?).map MediaSummary.mid).getD []) ∧
      (indexes.flatMap fun index =>
        ascii " " ++ ((offer.media[index]?).map MediaSummary.mid).getD []) ≠ [] := by
    intro indexes
    induction indexes with
    | nil => exact fun _ hne => absurd rfl hne
    | cons index indexes ih =>
        intro hbounds _
        have hindex := hbounds index List.mem_cons_self
        have hmedia := hoffer _ (List.getElem_mem hindex)
        have hmid : ((offer.media[index]?).map MediaSummary.mid).getD [] =
            (offer.media[index]).mid := by
          rw [List.getElem?_eq_getElem hindex]
          rfl
        have hfirst : Tidy (ascii " " ++ (offer.media[index]).mid) :=
          tidy_append (by decide) hmedia.mid hmedia.mid_ne_nil
        rw [List.flatMap_cons, hmid]
        by_cases hrest : indexes = []
        · subst hrest
          rw [List.flatMap_nil, List.append_nil]
          exact ⟨hfirst, List.append_ne_nil_of_right_ne_nil _ hmedia.mid_ne_nil⟩
        · obtain ⟨htidy, hne⟩ :=
            ih (fun other hother => hbounds other (List.mem_cons_of_mem index hother)) hrest
          exact ⟨tidy_append hfirst.line htidy hne, List.append_ne_nil_of_right_ne_nil _ hne⟩
  by_cases hempty : indexes = []
  · subst hempty
    rw [makeBundleGroupValue, List.flatMap_nil, List.append_nil]
    decide
  · obtain ⟨htidy, hne⟩ := hall indexes hindexes hempty
    exact tidy_append (by decide) htidy hne

/-- What is left of an answer when its text is read. -/
def readAnswer (description : SessionDescription) : SessionDescription where
  attributes := description.attributes
  mediaDescriptions := description.mediaDescriptions.map fun media =>
    { media with connectionAddress := [] }

theorem reread_faithful {description : SessionDescription}
    (hattributes : AllFaithful description.attributes)
    (hmedia : ∀ media ∈ description.mediaDescriptions, FaithfulMedia media) :
    Printable description ∧ reread description = readAnswer description := by
  have hsame : ∀ {attributes : List SdpAttribute}, AllFaithful attributes →
      attributes.map rereadAttribute = attributes := by
    intro attributes hall
    conv_rhs => rw [← List.map_id attributes]
    exact List.map_congr_left fun a ha => (hall a ha).reread
  constructor
  · refine ⟨fun a ha => (hattributes a ha).printable, fun media hmem => ?_⟩
    have hfaithful := hmedia media hmem
    exact ⟨hfaithful.name, hfaithful.connection, fun a ha => (hfaithful.attributes a ha).printable⟩
  · have hsections : description.mediaDescriptions.map rereadMedia =
        description.mediaDescriptions.map fun media => { media with connectionAddress := [] } := by
      refine List.map_congr_left fun media hmem => ?_
      rw [rereadMedia, hsame (hmedia media hmem).attributes]
    rw [reread, readAnswer, hsame hattributes, hsections]

/-- An offer which was read from a text, or some of its sections. -/
def ReadOffer (offer : WebrtcOfferSummary) : Prop :=
  ∃ text description original, parseSessionDescription text = .ok description ∧
    extractWebrtcOfferSummary description = .ok original ∧
    ∀ media ∈ offer.media, media ∈ original.media

theorem ReadOffer.tidy {offer : WebrtcOfferSummary} (h : ReadOffer offer) : TidyOffer offer := by
  obtain ⟨text, description, original, hparse, hextract, hsections⟩ := h
  have htidy := extractWebrtcOfferSummary_tidy (Parsed.of_parse hparse) hextract
  exact fun media hmedia => htidy media (hsections media hmedia)

/-- The sources an answer is built with: none for a publisher, drawn ones for a subscriber. -/
def OwnSources (options : SdpAnswerOptions) (offer : WebrtcOfferSummary) : Prop :=
  options.mediaSources = [] ∨
    ∃ cnameValues g, options.mediaSources = makeWhepOutboundMediaSources cnameValues g offer

theorem makeMediaSources_cname (cname : Text) (g : SsrcGenerator) (media : List MediaSummary) :
    ∀ source ∈ makeMediaSources cname g media, source.cname = cname := by
  induction media generalizing g with
  | nil => simp [makeMediaSources]
  | cons first media ih =>
      intro source hsource
      rcases List.mem_cons.mp hsource with rfl | hsource
      · rfl
      · exact ih _ source hsource

theorem OwnSources.names {options : SdpAnswerOptions} {offer : WebrtcOfferSummary}
    (h : OwnSources options offer) : TidyNames options := by
  intro source hsource
  rcases h with hnone | ⟨cnameValues, g, hdrawn⟩
  · rw [hnone] at hsource
    cases hsource
  · rw [hdrawn] at hsource
    rw [makeMediaSources_cname _ _ _ source hsource]
    have hdigit : ∀ value : Fin 16,
        isBlank (cnameDigit value) = false ∧ isLineBreak (cnameDigit value) = false := by decide
    refine ⟨tidy_of_chars fun c hc => ?_, List.cons_ne_nil _ _⟩
    rcases List.mem_append.mp hc with hc | hc
    · have hfixed : ∀ c ∈ ascii "sw-", isBlank c = false ∧ isLineBreak c = false := by
        decide +kernel
      exact hfixed c hc
    · obtain ⟨value, -, rfl⟩ := List.mem_map.mp hc
      exact hdigit value

end SimpleWebrtc.SdpFormatter
