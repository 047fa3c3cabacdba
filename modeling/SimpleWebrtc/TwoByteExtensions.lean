import SimpleWebrtc.WhepAgreement

/-!
# Two-byte header extensions

The answer to a section allows mixed header extensions where an id it selected
does not fit the one-byte format. The rewriter goes by the subscriber's offer
instead, and chooses the format packet by packet, also by the lengths of the
values. So with small ids alone a packet is in the two-byte format exactly when
a value it carries is empty or longer than sixteen bytes, and the answer never
allowed it.
-/
namespace SimpleWebrtc.RewriterConfig
open Library Library.Text Library.Bytes SdpSummary SdpCodecNegotiator SdpAnswer RtpHeaderExtension
  RtpPacket RewrittenExtensions RtpRewriter ConfiguredRewriter WhepHandler WhipPublisher

/-! ## The format of a packet -/

/-- The header extensions of a packet are in the two-byte format. -/
def SendsTwoByte (packet : List UInt8) : Prop :=
  hasExtension packet = true ∧
    readU16 packet (RtpPacket.baseHeaderSize packet) = kTwoByteExtensionProfileValue

/-- The values a packet is sent with, but for the transport-wide number, fit the one-byte
format. -/
def ValuesFit (mapping : MediaMapping) (sources : List ParsedHeaderExtension) : Prop :=
  ∀ id value, plainValueAt mapping sources id = some value → value ≠ [] ∧ value.length ≤ 16

/-- Every value is sent under an id of the mapping. -/
theorem plainValueAt_target {mapping : MediaMapping} {sources : List ParsedHeaderExtension}
    {id : UInt8} {value : List UInt8} (h : plainValueAt mapping sources id = some value) :
    ∃ e ∈ mapping.headerExtensions, e.targetId = id := by
  unfold plainValueAt at h
  cases hsource : sources.find? (carriesTo mapping id) with
  | some source =>
      have hcarries := List.find?_some hsource
      unfold carriesTo at hcarries
      cases hm : mapping.findHeaderExtensionMapping source.id with
      | none => simp [hm] at hcarries
      | some m =>
          simp only [hm, Bool.and_eq_true, decide_eq_true_eq] at hcarries
          exact ⟨m, List.mem_of_find?_eq_some hm, hcarries.1.1⟩
  | none =>
      cases hm : mapping.findMidExtensionMapping with
      | none => simp [hsource, hm] at h
      | some m =>
          simp only [hsource, hm] at h
          split_ifs at h with hid
          exact ⟨m, List.mem_of_find?_eq_some hm, hid⟩

theorem extensionsFitOneByteFormat_iff {extensions : List ParsedHeaderExtension}
    (h : Distinct extensions) :
    extensionsFitOneByteFormat extensions = true ↔ ∀ id value,
      valueAt extensions id = some value → id.toNat < 15 ∧ value ≠ [] ∧ value.length ≤ 16 := by
  have hreserved : ∀ id : UInt8, ¬kOneByteExtensionReservedId ≤ id ↔ id.toNat < 15 := by
    intro id
    rw [UInt8.le_iff_toNat_le, Nat.not_le]
    rfl
  rw [extensionsFitOneByteFormat, List.all_eq_true]
  constructor
  · intro hall id value hvalue
    have hfit := hall _ (h.mem_iff.mp hvalue)
    simp only [Bool.and_eq_true, Bool.not_eq_true', Bool.or_eq_false_iff, decide_eq_false_iff_not,
      List.isEmpty_eq_false_iff, hreserved, Nat.not_lt] at hfit
    exact ⟨hfit.1.2, hfit.2.1, hfit.2.2⟩
  · intro hall e he
    obtain ⟨hid, hne, hle⟩ := hall e.id e.value (h.mem_iff.mpr he)
    simp only [Bool.and_eq_true, Bool.not_eq_true', Bool.or_eq_false_iff, decide_eq_false_iff_not,
      List.isEmpty_eq_false_iff, hreserved, Nat.not_lt]
    exact ⟨⟨h.nonzero e he, hid⟩, hne, hle⟩

/-- Under small ids the format of a packet goes by its values alone. -/
theorem rewritten_fit_iff {parsed : ParsedRtpPacket} {mapping : MediaMapping}
    {transportSequenceNumber : UInt16} {extensions : List ParsedHeaderExtension}
    (hmid : MidIdNonzero mapping) (hsmall : SendsOnly (fun id _ => id < 15) mapping)
    (h : rewriteHeaderExtensions parsed mapping transportSequenceNumber = .ok extensions) :
    extensionsFitOneByteFormat extensions = true ↔
      ValuesFit mapping parsed.headerExtensions := by
  obtain ⟨hdistinct, hvalues⟩ := rewriteHeaderExtensions_spec hmid h
  rw [extensionsFitOneByteFormat_iff hdistinct]
  simp only [hvalues]
  constructor
  · intro hall id value hplain
    exact (hall id value (by rw [hplain, Option.some_or])).2
  · intro hfit id value hvalue
    cases hplain : plainValueAt mapping parsed.headerExtensions id with
    | some plain =>
        rw [hplain, Option.some_or] at hvalue
        obtain rfl := Option.some.inj hvalue
        obtain ⟨e, he, rfl⟩ := plainValueAt_target hplain
        exact ⟨hsmall.1 e he, hfit _ _ hplain⟩
    | none =>
        rw [hplain, Option.none_or] at hvalue
        split_ifs at hvalue with hcc
        obtain rfl := Option.some.inj hvalue
        rw [← hcc.2]
        refine ⟨hsmall.2 hcc.1, ?_, ?_⟩
        · exact List.ne_nil_of_length_pos (by rw [u16Bytes_length]; omega)
        · rw [u16Bytes_length]
          omega

/-- The profile of a block which is built. -/
theorem buildHeaderExtensionBlock_profile {extensions : List ParsedHeaderExtension}
    {targetExtmapAllowMixed : Bool} {block : List UInt8}
    (h : buildHeaderExtensionBlock extensions targetExtmapAllowMixed = .ok block) :
    (block = [] ∧ extensionsFitOneByteFormat extensions = true) ∨
      4 ≤ block.length ∧ (readU16 block 0 = kTwoByteExtensionProfileValue ↔
        extensionsFitOneByteFormat extensions = false) := by
  have hprofiles : kOneByteExtensionProfile ≠ kTwoByteExtensionProfileValue := by decide
  unfold buildHeaderExtensionBlock at h
  by_cases hnil : extensions = []
  · subst hnil
    left
    exact ⟨(Except.ok.inj h).symm, rfl⟩
  · right
    rw [if_neg (by simpa using hnil)] at h
    simp only at h
    split_ifs at h with hmixed hone hlarge hlarge
    all_goals
      rw [Except.ok.injEq] at h
      subst h
    · constructor
      · simp only [List.length_append, u16Bytes_length]
        omega
      · rw [List.append_assoc, readU16_u16Bytes, hone]
        simp [hprofiles]
    · constructor
      · simp only [List.length_append, u16Bytes_length]
        omega
      · rw [List.append_assoc, readU16_u16Bytes]
        simpa using hone

/-- An assembled packet has the profile of its block. -/
theorem assemblePacket_twoByte {packet : List UInt8} {parsed : ParsedRtpPacket}
    (hparse : parseRewriteableRtpPacket packet = .ok parsed) {block : List UInt8}
    (hblock : block = [] ∨ 4 ≤ block.length) (targetPayloadType : UInt8)
    (sequenceNumber : UInt16) (timestamp ssrc : UInt32) (original : Option UInt16) :
    SendsTwoByte (assemblePacket packet parsed block targetPayloadType sequenceNumber timestamp
      ssrc original) ↔ block ≠ [] ∧ readU16 block 0 = kTwoByteExtensionProfileValue := by
  obtain ⟨head, sourceBlock, tail, sources, paddingSize, rfl, hwf, rfl⟩ :=
    assembled_of_parse hparse
  have h12 : 12 ≤ head.length := hwf.headLength ▸ baseHeaderSize_ge head
  rw [assemblePacket_eq h12]
  obtain ⟨hext, -, hcsrc, -⟩ :=
    rewrittenHead_flags block targetPayloadType sequenceNumber timestamp ssrc h12
  have hlen : (rewrittenHead head block targetPayloadType sequenceNumber timestamp ssrc).length =
      head.length := rewrittenHead_length block targetPayloadType sequenceNumber timestamp ssrc
  set head' := rewrittenHead head block targetPayloadType sequenceNumber timestamp ssrc
  have hbase : RtpPacket.baseHeaderSize (head' ++ block ++ rewrittenTail tail original) =
      head'.length := by
    rw [List.append_assoc, baseHeaderSize_append _ (by omega), RtpPacket.baseHeaderSize, hcsrc, hlen,
      hwf.headLength, RtpPacket.baseHeaderSize]
  have hflag : hasExtension (head' ++ block ++ rewrittenTail tail original) = !block.isEmpty := by
    rw [List.append_assoc, hasExtension_append _ (by omega), hext]
  rw [SendsTwoByte, hbase, hflag]
  rcases hblock with rfl | h4
  · simp
  · have hne : block ≠ [] := List.ne_nil_of_length_pos (by omega)
    have hleft : readU16 (block ++ rewrittenTail tail original) 0 = readU16 block 0 :=
      readU16_append_left (by omega) _
    have hright := readU16_append_right head' (block ++ rewrittenTail tail original) 0
    rw [Nat.add_zero, hleft, ← List.append_assoc] at hright
    rw [hright]
    simp [hne]

/-- A packet is sent in the two-byte format exactly when its extensions do not fit the other. -/
theorem rewrite_twoByte_iff {s : Impl} {packet : List UInt8} {transportSequenceNumber : UInt16}
    {result : RewriteResult} (hresult : (s.rewrite packet transportSequenceNumber).2 = .ok result)
    (hstate : result.state = .rewritten) :
    ∃ parsed resolved extensions, parseRewriteableRtpPacket packet = .ok parsed ∧
      s.resolve parsed = some resolved ∧
      rewriteHeaderExtensions parsed resolved.current.mapping transportSequenceNumber =
        .ok extensions ∧
      (SendsTwoByte result.packet ↔ extensionsFitOneByteFormat extensions = false) := by
  rcases s.rewrite_cases packet transportSequenceNumber with ⟨-, hnone⟩ |
    ⟨parsed, resolved, bound, hparse, hresolve, hbind, heq⟩
  · rw [hresult] at hnone
    have hdropped : result.state = .dropped := hnone
    rw [hstate] at hdropped
    cases hdropped
  · rw [heq] at hresult
    obtain ⟨-, -, hemit⟩ := rewriteBound_emits hbind hresult hstate
    obtain ⟨block, targetTimestamp, hblock, hfields⟩ := emit_result hemit
    obtain ⟨-, hmap⟩ := bindSource_some hbind
    rw [hmap] at hblock
    unfold extensionBlockFor at hblock
    cases hextensions : rewriteHeaderExtensions parsed resolved.current.mapping
        transportSequenceNumber with
    | error e => simp [hextensions] at hblock
    | ok extensions =>
        simp only [hextensions] at hblock
        refine ⟨parsed, resolved, extensions, hparse, hresolve, hextensions, ?_⟩
        have hprofile := buildHeaderExtensionBlock_profile hblock
        have hlength : block = [] ∨ 4 ≤ block.length :=
          hprofile.imp And.left And.left
        rw [hfields]
        apply (assemblePacket_twoByte hparse hlength _ _ _ _ _).trans
        rcases hprofile with ⟨rfl, hfit⟩ | ⟨h4, hiff⟩
        · simp [hfit]
        · have hne : block ≠ [] := List.ne_nil_of_length_pos (by omega)
          simp [hne, hiff]

/-! ## The answer and the configuration -/

/-- The answer allows mixed extensions where a selected id needs the two-byte format. -/
theorem mem_whep_allowMixed {options : SdpAnswerOptions} {media publisher : MediaSummary}
    {codecs : List CodecInfo} :
    ({ key := ascii "extmap-allow-mixed" } : SdpAttribute) ∈
        (makeAcceptedAnswerMedia options media (some publisher) codecs).attributes ↔
      ∃ e ∈ selectAnswerHeaderExtensions media (some publisher)
        (mediaOffersTransportCc media codecs false), idRequiresTwoByte e.id = true := by
  have hkey : ascii "extmap-allow-mixed" ∉ whepOtherKeys := by decide
  have hextmap : ascii "extmap-allow-mixed" ≠ ascii "extmap" := by decide
  have hcodecs : (⟨ascii "extmap-allow-mixed", []⟩ : SdpAttribute) ∉ codecAttributes media.kind
      codecs true (mediaOffersTransportCc media codecs false) :=
    (codecAttributesFrom_keysIn _ _ _).not_mem (by decide) []
  have hsending := (sendingAttributes_keysIn options media publisher codecs).not_mem
    (show ascii "extmap-allow-mixed" ∉ [ascii "msid", ascii "ssrc", ascii "ssrc-group"] by decide) []
  rw [mem_whep_attributes hkey]
  simp only [hcodecs, hsending, or_false, headerExtensionAttributes, List.mem_append,
    List.mem_map, SdpAttribute.mk.injEq, hextmap.symm, false_and, and_false, exists_false,
    false_or]
  split_ifs with hany
  · simpa using hany
  · simpa using hany

/-- What holds of the selected extensions holds of those a mapping sends. -/
theorem addHeaderExtensionMapping_sendsOnly {P : ℕ → Text → Prop} {publisherMedia : MediaSummary}
    {mapping next : MediaMapping} {target : RtpHeaderExtension}
    (hrange : 0 < target.id ∧ target.id ≤ 255) (htarget : P target.id.toNat target.uri)
    (hsends : SendsOnly P mapping)
    (h : addHeaderExtensionMapping publisherMedia mapping target = .ok next) :
    SendsOnly P next := by
  rw [← toNat_ofNat_id hrange] at htarget
  unfold addHeaderExtensionMapping at h
  split_ifs at h with hwide
  · cases h
    rw [hwide] at htarget
    exact ⟨hsends.1, fun _ => htarget⟩
  · cases hfind : findHeaderExtension publisherMedia target.uri with
    | none =>
        rw [hfind] at h
        cases h
    | some source =>
        rw [hfind] at h
        cases h
        constructor
        · exact List.forall_mem_append.mpr ⟨hsends.1, List.forall_mem_singleton.mpr htarget⟩
        · exact hsends.2

theorem makeMediaMapping_sendsOnly {P : ℕ → Text → Prop}
    {publisherOffer subscriberOffer : WebrtcOfferSummary} {index : ℕ}
    {source : SdpAnswerMediaSource} {media publisher : MediaSummary} {mapping : MediaMapping}
    (hmedia : subscriberOffer.media[index]? = some media)
    (hpublisher : findWhepForwardedPublisherMedia media index subscriberOffer publisherOffer =
      some publisher)
    (hcodecs : negotiateCodecs media publisher = .ok (whepCodecs media publisher))
    (hall : ∀ e ∈ whepExtensions media publisher, P e.id.toNat e.uri)
    (h : makeMediaMapping publisherOffer subscriberOffer (Int.ofNat index, source) =
      .ok mapping) : SendsOnly P mapping := by
  obtain ⟨subscriberMedia, publisherMedia, codecMappings, entries, start, hmakes⟩ :=
    makeMediaMapping_makes h
  have hat : subscriberMediaAt subscriberOffer (Int.ofNat index) = some media := by
    simpa [subscriberMediaAt] using hmedia
  obtain rfl : subscriberMedia = media := Option.some.inj (hmakes.place.symm.trans hat)
  obtain rfl : publisherMedia = publisher :=
    Option.some.inj (hmakes.fed.symm.trans hpublisher)
  have hselected : selectWhepAnswerHeaderExtensions subscriberMedia publisherMedia =
      whepExtensions subscriberMedia publisherMedia := by
    rw [selectWhepAnswerHeaderExtensions, hcodecs, whepExtensions]
  have hextended := hmakes.extended
  rw [hselected] at hextended
  have hstart : SendsOnly P start := by
    rw [SendsOnly, hmakes.empty.1, hmakes.empty.2]
    exact ⟨by simp, fun hne => absurd rfl hne⟩
  refine foldlM_ok_invariant (fun mapping target hmem next => ?_) hstart hextended
  exact addHeaderExtensionMapping_sendsOnly (selected_id_in_range target hmem) (hall target hmem)

/-- A section of a configuration was made for an accepted section of the offer. -/
theorem makeWhepRtpRewriterConfig_at {publisherSessionId : Text}
    {publisherOffer : WebrtcOfferSummary} {target : WhepRtpRewriterTarget}
    {config : RtpRewriter.RewriterConfig}
    (h : makeWhepRtpRewriterConfig publisherSessionId publisherOffer target = .ok config)
    {mediaIndex : ℕ} {mapping : MediaMapping} (hat : config.media[mediaIndex]? = some mapping) :
    ∃ mlineIndex source, target.acceptedMlineIndexes[mediaIndex]? = some mlineIndex ∧
      makeMediaMapping publisherOffer target.subscriberOffer (mlineIndex, source) =
        .ok mapping := by
  obtain ⟨_, _, h⟩ := bind_ok.mp h
  obtain ⟨_, _, h⟩ := bind_ok.mp h
  obtain ⟨media, hmedia, h⟩ := bind_ok.mp h
  obtain ⟨_, _, h⟩ := bind_ok.mp h
  cases h
  have hforall := mapM_ok.mp hmedia
  obtain ⟨hlt, -⟩ := List.getElem?_eq_some_iff.mp hat
  rw [← hforall.length_eq] at hlt
  have hpair := List.getElem?_eq_getElem hlt
  refine ⟨_, _, ?_, forall₂_getElem? hforall hpair hat⟩
  have hzip := List.getElem?_zip_eq_some.mp hpair
  exact hzip.1

/-! ## Runs -/

/-- The configuration an operation leaves in force. -/
def configured (current : Option RtpRewriter.RewriterConfig) :
    Operation → Option RtpRewriter.RewriterConfig
  | .setConfig config => some config
  | _ => current

/-- The last configuration of a run. -/
def lastConfig (operations : List Operation) : Option RtpRewriter.RewriterConfig :=
  operations.foldl configured none

/-- The sections are those of the last configuration, whatever was done since. -/
theorem run_mappings {operations : List Operation} {r : RewriterRun}
    (h : RewriterRun.system.Run operations r) {config : RtpRewriter.RewriterConfig}
    (hlast : lastConfig operations = some config) : mappings r.rewriter = config.media := by
  induction h with
  | start h => cases hlast
  | @step events s s' operation hrun hstep ih =>
      simp only [lastConfig, List.foldl_append, List.foldl_cons, List.foldl_nil] at hlast
      rcases step_mappings hstep with ⟨next, rfl, hconfig⟩ | ⟨hother, hkept⟩
      · obtain rfl := Option.some.inj hlast
        exact hconfig
      · have hsame : ∀ last, configured last operation = last := by
          intro last
          cases operation with
          | setConfig next => exact absurd rfl (hother next)
          | clearSource => rfl
          | rewrite packet transportSequenceNumber => rfl
          | buildRetransmission packet transportSequenceNumber => rfl
        rw [hsame] at hlast
        exact hkept.trans (ih hlast)

/-- The section of the answer which a section of the configuration was made for. -/
def answeredSection (answer : BuiltSdpAnswer) (mediaIndex : ℕ) : Option MediaDescription :=
  answer.acceptedMlineIndexes[mediaIndex]?.bind fun mlineIndex =>
    answer.description.mediaDescriptions[mlineIndex]?

/-- Where a packet is in the two-byte format, the answer to its section allowed that. -/
def TwoByteNegotiated (answer : BuiltSdpAnswer) (s : Impl) (packet : List UInt8)
    (result : RewriteResult) : Prop :=
  ∃ parsed resolved answered, parseRewriteableRtpPacket packet = .ok parsed ∧
    s.resolve parsed = some resolved ∧
    answeredSection answer resolved.mediaIndex = some answered ∧
    (SendsTwoByte result.packet →
      { key := ascii "extmap-allow-mixed" } ∈ answered.attributes)

/-- A selected extension of the packet's section needs the two-byte format, or no value of the
packet does. -/
def FormatAllowed (subscriberOffer publisherOffer : WebrtcOfferSummary) (answer : BuiltSdpAnswer)
    (s : Impl) (packet : List UInt8) : Prop :=
  ∃ parsed resolved mlineIndex media publisher, parseRewriteableRtpPacket packet = .ok parsed ∧
    s.resolve parsed = some resolved ∧
    answer.acceptedMlineIndexes[resolved.mediaIndex]? = some mlineIndex ∧
    subscriberOffer.media[mlineIndex]? = some media ∧
    findWhepForwardedPublisherMedia media mlineIndex subscriberOffer publisherOffer =
      some publisher ∧
    ((∃ e ∈ whepExtensions media publisher, idRequiresTwoByte e.id = true) ∨
      ValuesFit resolved.current.mapping parsed.headerExtensions)

/-- A packet is in a format the answer allowed exactly when an extension the answer selected has
an id beyond the one-byte format, or all values of the packet are of one to sixteen bytes. -/
theorem run_two_byte_negotiated_iff {subscriberOffer publisherOffer : WebrtcOfferSummary}
    {options : SdpAnswerOptions} {answer : BuiltSdpAnswer} {publisherSessionId : Text}
    {config : RtpRewriter.RewriterConfig}
    (hanswer : buildWhepAnswer subscriberOffer publisherOffer options = .ok answer)
    (hconfig : makeWhepRtpRewriterConfig publisherSessionId publisherOffer
      (answeredTarget subscriberOffer options answer) = .ok config)
    {operations : List Operation} {r : RewriterRun}
    (hrun : RewriterRun.system.Run operations r) (hlast : lastConfig operations = some config)
    {packet : List UInt8} {transportSequenceNumber : UInt16} {result : RewriteResult}
    (hresult : (r.rewriter.rewrite packet transportSequenceNumber).2 = .ok result)
    (hstate : result.state = .rewritten) :
    TwoByteNegotiated answer r.rewriter packet result ↔
      FormatAllowed subscriberOffer publisherOffer answer r.rewriter packet := by
  have hmappings := run_mappings hrun hlast
  obtain ⟨parsed, resolved, extensions, hparse, hresolve, hextensions, hformat⟩ :=
    rewrite_twoByte_iff hresult hstate
  have hat : config.media[resolved.mediaIndex]? = some resolved.current.mapping := by
    rw [← hmappings, mappings, List.getElem?_map, (Impl.resolve_some hresolve).1]
    rfl
  obtain ⟨_, source, hplace, hmapping⟩ := makeWhepRtpRewriterConfig_at hconfig hat
  rw [answeredTarget, List.getElem?_map, Option.map_eq_some_iff] at hplace
  obtain ⟨mlineIndex, hplace, rfl⟩ := hplace
  obtain ⟨media, publisher, hmedia, hpublisher, hcodecs, hsection⟩ :=
    whep_accepted_section hanswer (List.mem_of_getElem? hplace)
  have hallowed := @mem_whep_allowMixed options media publisher (whepCodecs media publisher)
  have hanswered : answeredSection answer resolved.mediaIndex = some
      (makeAcceptedAnswerMedia options media (some publisher) (whepCodecs media publisher)) := by
    rw [answeredSection, hplace]
    exact hsection
  have hvalid := makeWhepRtpRewriterConfig_valid hconfig _ (List.mem_of_getElem? hat)
  simp only [TwoByteNegotiated, FormatAllowed, hparse, hresolve, hanswered, hplace,
    Except.ok.injEq, Option.some.injEq, exists_and_left, exists_eq_left', hmedia, hpublisher,
    hformat]
  rw [hallowed]
  by_cases hlarge : ∃ e ∈ whepExtensions media publisher, idRequiresTwoByte e.id = true
  · exact ⟨fun _ => Or.inl hlarge, fun _ _ => hlarge⟩
  · have hsmall : SendsOnly (fun id _ => id < 15) resolved.current.mapping := by
      apply makeMediaMapping_sendsOnly hmedia hpublisher hcodecs _ hmapping
      intro e he
      have hrange := selected_id_in_range e he
      have hnot : ¬idRequiresTwoByte e.id = true := fun hbig => hlarge ⟨e, he, hbig⟩
      simp only [idRequiresTwoByte, decide_eq_true_eq] at hnot
      omega
    rw [← rewritten_fit_iff hvalid.midIdNonzero hsmall hextensions]
    cases extensionsFitOneByteFormat extensions with
    | true => simp
    | false =>
        simp only [Bool.false_eq_true, or_false, true_implies]
        exact Iff.rfl

/-! ## A MID of seventeen bytes -/

/-- An offer of VP8 which allows mixed extensions and has the MID extension under a small id. -/
def mixedDescription (mid direction extmapId : String) : SessionDescription :=
  publisherDescription ("BUNDLE " ++ mid) [{
    mediaName := { media := ascii "video", port := 9, formats := [ascii "96"] }
    attributes :=
      [⟨ascii "mid", ascii mid⟩, { key := ascii direction }, { key := ascii "rtcp-mux" },
        { key := ascii "extmap-allow-mixed" },
        ⟨ascii "extmap", ascii extmapId ++ ascii " " ++ RewrittenExtensions.kMidExtensionUri⟩,
        ⟨ascii "rtpmap", ascii "96 VP8/90000"⟩] }]

def mixedSubscriber : WebrtcOfferSummary :=
  extractedOffer (mixedDescription "seventeen-letters" "recvonly" "3")

def mixedPublisher : WebrtcOfferSummary := extractedOffer (mixedDescription "0" "sendonly" "4")

def mixedOptions : SdpAnswerOptions :=
  { localOptions with
    mediaSources := [{ mid := ascii "seventeen-letters", kind := kVideo, ssrc := 1 }] }

def mixedAnswer : BuiltSdpAnswer :=
  ((buildWhepAnswer mixedSubscriber mixedPublisher mixedOptions).toOption).getD ⟨{}, []⟩

def mixedConfig : RtpRewriter.RewriterConfig :=
  ((makeWhepRtpRewriterConfig (ascii "publisher") mixedPublisher
    (answeredTarget mixedSubscriber mixedOptions mixedAnswer)).toOption).getD ⟨[], []⟩

def mixedRun : RewriterRun := { rewriter := Impl.setConfig {} mixedConfig }

def mixedResult : RewriteResult :=
  ((mixedRun.rewriter.rewrite plainPacket 0).2.toOption).getD {}

theorem mixed_answered :
    buildWhepAnswer mixedSubscriber mixedPublisher mixedOptions = .ok mixedAnswer := by
  decide +kernel

theorem mixed_configured : makeWhepRtpRewriterConfig (ascii "publisher") mixedPublisher
    (answeredTarget mixedSubscriber mixedOptions mixedAnswer) = .ok mixedConfig := by
  decide +kernel

theorem mixed_run : RewriterRun.system.Run [.setConfig mixedConfig] mixedRun := by
  have hstep : RewriterRun.system.step {} (.setConfig mixedConfig) mixedRun := rfl
  exact EventSystem.Run.step (.start rfl) hstep

theorem mixed_rewritten : (mixedRun.rewriter.rewrite plainPacket 0).2 = .ok mixedResult := by
  decide +kernel

theorem run_two_byte_negotiated_iff_long_mid :
    TwoByteNegotiated mixedAnswer mixedRun.rewriter plainPacket mixedResult ↔
      FormatAllowed mixedSubscriber mixedPublisher mixedAnswer mixedRun.rewriter plainPacket :=
  run_two_byte_negotiated_iff mixed_answered mixed_configured mixed_run rfl mixed_rewritten
    (by decide +kernel)

/-- The MID takes the two-byte format, which the answer did not allow. -/
theorem long_mid_not_negotiated :
    ¬ ∀ (subscriberOffer publisherOffer : WebrtcOfferSummary) (options : SdpAnswerOptions)
      (answer : BuiltSdpAnswer) (publisherSessionId : Text) (config : RtpRewriter.RewriterConfig)
      (operations : List Operation) (r : RewriterRun) (packet : List UInt8)
      (transportSequenceNumber : UInt16) (result : RewriteResult),
      buildWhepAnswer subscriberOffer publisherOffer options = .ok answer →
      makeWhepRtpRewriterConfig publisherSessionId publisherOffer
        (answeredTarget subscriberOffer options answer) = .ok config →
      RewriterRun.system.Run operations r → lastConfig operations = some config →
      (r.rewriter.rewrite packet transportSequenceNumber).2 = .ok result →
      result.state = .rewritten → TwoByteNegotiated answer r.rewriter packet result := by
  intro hall
  obtain ⟨parsed, resolved, answered, -, -, hanswered, hallowed⟩ :=
    hall _ _ _ _ _ _ _ _ plainPacket 0 mixedResult mixed_answered mixed_configured mixed_run rfl
      mixed_rewritten (by decide +kernel)
  have htwoByte : SendsTwoByte mixedResult.packet := by
    constructor
    · decide +kernel
    · decide +kernel
  have hnever : mixedAnswer.description.mediaDescriptions.all (fun answered => decide
      (({ key := ascii "extmap-allow-mixed" } : SdpAttribute) ∉ answered.attributes)) = true := by
    decide +kernel
  obtain ⟨mlineIndex, -, hplace⟩ := Option.bind_eq_some_iff.mp hanswered
  have hnot := List.all_eq_true.mp hnever answered (List.mem_of_getElem? hplace)
  exact of_decide_eq_true hnot (hallowed htwoByte)

end SimpleWebrtc.RewriterConfig
