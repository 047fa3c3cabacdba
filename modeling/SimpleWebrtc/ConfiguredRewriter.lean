import SimpleWebrtc.RewriterConfig
import SimpleWebrtc.RewriterSequence
import SimpleWebrtc.RewrittenPacket

/-!
# Rewritten packets of negotiated configurations

Every mapping computed from two offers has nonzero target ids and payload types
below 128, so in a run whose configurations were all computed so, a rewritten
packet is read back as it was meant unless it collides: it looks like RTCP, its
MID does not fit, or another extension takes the transport-wide id.
-/
namespace SimpleWebrtc.ConfiguredRewriter
open Library Library.Text SdpSummary SdpCodecNegotiator SdpAnswer RewriterConfig RtpPacket
  RewrittenExtensions RtpRewriter

/-! ## Negotiated mappings are valid -/

theorem selected_id_in_range {media : MediaSummary} {forwarded : Option MediaSummary}
    {transportCcEnabled : Bool} :
    ∀ e ∈ selectAnswerHeaderExtensions media forwarded transportCcEnabled,
      0 < e.id ∧ e.id ≤ 255 := by
  intro e he
  have h := (List.mem_filter.mp he).2
  simp only [answersHeaderExtension, Bool.and_eq_true, decide_eq_true_eq] at h
  exact h.1.1.1.1

theorem selectedWhep_id_in_range {subscriberMedia publisherMedia : MediaSummary} :
    ∀ e ∈ selectWhepAnswerHeaderExtensions subscriberMedia publisherMedia,
      0 < e.id ∧ e.id ≤ 255 := by
  unfold selectWhepAnswerHeaderExtensions
  cases negotiateCodecs subscriberMedia publisherMedia with
  | error message => simp
  | ok codecs => exact selected_id_in_range

theorem ofNat_id_ne_zero {id : Int} (h : 0 < id ∧ id ≤ 255) : UInt8.ofNat id.toNat ≠ 0 := by
  intro hzero
  have htoNat := congrArg UInt8.toNat hzero
  rw [UInt8.toNat_ofNat_of_lt' (by simp only [UInt8.size]; omega)] at htoNat
  have hpos : id.toNat ≠ 0 := by omega
  exact hpos htoNat

theorem makePayloadTypeMapping_target {subscriberMedia : MediaSummary} {targetRtxSsrc : UInt32}
    {mapping : CodecPayloadTypeMapping} {p : PayloadTypeMapping}
    (h : makePayloadTypeMapping subscriberMedia targetRtxSsrc mapping = .ok (some p)) :
    p.targetPayloadType.toNat < 128 := by
  obtain ⟨_, hrange, h⟩ := bind_ok.mp h
  have htarget := (ensure_ok.mp hrange).2
  simp only at h
  split_ifs at h
  · cases h
  · obtain ⟨associated, -, h⟩ := bind_ok.mp h
    obtain ⟨codec, -, h⟩ := bind_ok.mp h
    cases h
    have hle := UInt16.le_iff_toNat_le.mp htarget
    simp only [UInt16.toNat_toUInt8, UInt16.reduceToNat] at hle ⊢
    omega

theorem addHeaderExtensionMapping_valid {publisherMedia : MediaSummary} {mapping next : MediaMapping}
    {target : RtpHeaderExtension} (hid : 0 < target.id ∧ target.id ≤ 255)
    (hvalid : MappingValid mapping)
    (h : addHeaderExtensionMapping publisherMedia mapping target = .ok next) :
    MappingValid next := by
  unfold addHeaderExtensionMapping at h
  split_ifs at h
  · cases h
    exact ⟨hvalid.targetIds, hvalid.payloadTypes⟩
  · cases hfind : findHeaderExtension publisherMedia target.uri with
    | none =>
        rw [hfind] at h
        cases h
    | some source =>
        rw [hfind] at h
        cases h
        refine ⟨?_, hvalid.payloadTypes⟩
        intro e he
        rcases List.mem_append.mp he with he | he
        · exact hvalid.targetIds e he
        · obtain rfl := List.mem_singleton.mp he
          exact ofNat_id_ne_zero hid

/-- The steps of making a mapping: the two sections, their codec mappings, the entries for these
and the mapping the header extensions are added to. -/
structure MakesMapping (publisherOffer subscriberOffer : WebrtcOfferSummary)
    (accepted : Int × SdpAnswerMediaSource) (mapping : MediaMapping)
    (media publisher : MediaSummary) (codecMappings : List CodecPayloadTypeMapping)
    (entries : List (Option PayloadTypeMapping)) (start : MediaMapping) : Prop where
  place : subscriberMediaAt subscriberOffer accepted.1 = some media
  fed : findWhepForwardedPublisherMedia media accepted.1.toNat subscriberOffer
    publisherOffer = some publisher
  negotiated : negotiateCodecPayloadTypeMappings media publisher = .ok codecMappings
  made : codecMappings.mapM (makePayloadTypeMapping media accepted.2.rtxRepairSsrc) =
    .ok entries
  payloadTypes : start.payloadTypes = entries.filterMap id
  targetSsrc : start.targetSsrc = accepted.2.ssrc
  targetRtxSsrc : start.targetRtxSsrc = accepted.2.rtxRepairSsrc
  empty : start.headerExtensions = [] ∧ start.targetTransportCcExtensionId = 0
  extended : (selectWhepAnswerHeaderExtensions media publisher).foldlM
    (addHeaderExtensionMapping publisher) start = .ok mapping

theorem makeMediaMapping_makes {publisherOffer subscriberOffer : WebrtcOfferSummary}
    {accepted : Int × SdpAnswerMediaSource} {mapping : MediaMapping}
    (h : makeMediaMapping publisherOffer subscriberOffer accepted = .ok mapping) :
    ∃ media publisher codecMappings entries start,
      MakesMapping publisherOffer subscriberOffer accepted mapping media publisher codecMappings
        entries start := by
  obtain ⟨media, hmedia, h⟩ := bind_ok.mp h
  obtain ⟨_, -, h⟩ := bind_ok.mp h
  obtain ⟨_, -, h⟩ := bind_ok.mp h
  obtain ⟨publisher, hpublisher, h⟩ := bind_ok.mp h
  obtain ⟨codecMappings, hmappings, h⟩ := bind_ok.mp h
  obtain ⟨entries, hentries, h⟩ := bind_ok.mp h
  obtain ⟨_, -, h⟩ := bind_ok.mp h
  have hcodecs : negotiateCodecPayloadTypeMappings media publisher = .ok codecMappings := by
    cases hresult : negotiateCodecPayloadTypeMappings media publisher with
    | error message =>
        rw [hresult] at hmappings
        cases hmappings
    | ok found =>
        rw [hresult] at hmappings
        cases hmappings
        rfl
  exact ⟨media, publisher, codecMappings, entries, _, orError_ok.mp hmedia,
    orError_ok.mp hpublisher, hcodecs, hentries, rfl, rfl, rfl, ⟨rfl, rfl⟩, h⟩

/-- Adding header extensions leaves the rest of a mapping alone. -/
theorem addHeaderExtensionMapping_keeps {publisherMedia : MediaSummary}
    {mapping next : MediaMapping} {target : RtpHeaderExtension}
    (h : addHeaderExtensionMapping publisherMedia mapping target = .ok next) :
    next.payloadTypes = mapping.payloadTypes ∧ next.targetSsrc = mapping.targetSsrc := by
  unfold addHeaderExtensionMapping at h
  split_ifs at h
  · cases h
    exact ⟨rfl, rfl⟩
  · cases hfind : findHeaderExtension publisherMedia target.uri with
    | none =>
        rw [hfind] at h
        cases h
    | some source =>
        rw [hfind] at h
        cases h
        exact ⟨rfl, rfl⟩

theorem MakesMapping.keeps {publisherOffer subscriberOffer : WebrtcOfferSummary}
    {accepted : Int × SdpAnswerMediaSource} {mapping start : MediaMapping}
    {media publisher : MediaSummary} {codecMappings : List CodecPayloadTypeMapping}
    {entries : List (Option PayloadTypeMapping)}
    (h : MakesMapping publisherOffer subscriberOffer accepted mapping media publisher
      codecMappings entries start) :
    mapping.payloadTypes = entries.filterMap id ∧ mapping.targetSsrc = accepted.2.ssrc := by
  refine foldlM_ok_invariant (P := fun m => m.payloadTypes = entries.filterMap id ∧
    m.targetSsrc = accepted.2.ssrc) ?_ ⟨h.payloadTypes, h.targetSsrc⟩ h.extended
  intro before target _ after hsame hafter
  obtain ⟨hpayloadTypes, hssrc⟩ := addHeaderExtensionMapping_keeps hafter
  exact ⟨hpayloadTypes.trans hsame.1, hssrc.trans hsame.2⟩

theorem makeMediaMapping_valid {publisherOffer subscriberOffer : WebrtcOfferSummary}
    {accepted : Int × SdpAnswerMediaSource} {mapping : MediaMapping}
    (h : makeMediaMapping publisherOffer subscriberOffer accepted = .ok mapping) :
    MappingValid mapping := by
  obtain ⟨media, publisher, codecMappings, entries, start, hmakes⟩ := makeMediaMapping_makes h
  refine foldlM_ok_invariant (fun mapping target hmem next => ?_) ⟨?_, ?_⟩ hmakes.extended
  · exact addHeaderExtensionMapping_valid (selectedWhep_id_in_range target hmem)
  · rw [hmakes.empty.1]
    simp
  · have hall := forall_of_mapM_ok hmakes.made
      (P := fun x => ∀ p ∈ x, p.targetPayloadType.toNat < 128)
      fun mapping _ x hx p hp => makePayloadTypeMapping_target (by rw [hx, hp])
    intro p hp
    rw [hmakes.payloadTypes] at hp
    obtain ⟨x, hx, hxp⟩ := List.mem_filterMap.mp hp
    exact hall x hx p hxp

theorem makeWhepRtpRewriterConfig_valid {publisherSessionId : Text}
    {publisherOffer : WebrtcOfferSummary} {target : WhepRtpRewriterTarget}
    {config : RtpRewriter.RewriterConfig}
    (h : makeWhepRtpRewriterConfig publisherSessionId publisherOffer target = .ok config) :
    ∀ mapping ∈ config.media, MappingValid mapping := by
  obtain ⟨_, -, h⟩ := bind_ok.mp h
  obtain ⟨_, -, h⟩ := bind_ok.mp h
  obtain ⟨media, hmedia, h⟩ := bind_ok.mp h
  obtain ⟨_, -, h⟩ := bind_ok.mp h
  cases h
  exact forall_of_mapM_ok hmedia fun accepted _ mapping hmapping => makeMediaMapping_valid hmapping

/-! ## Runs -/

/-- An operation whose configuration, if it sets one, was computed from two offers. -/
def Negotiated : Operation → Prop
  | .setConfig config => ∃ publisherSessionId publisherOffer target,
      makeWhepRtpRewriterConfig publisherSessionId publisherOffer target = .ok config
  | _ => True

def negotiatedSystem : EventSystem RewriterRun Operation :=
  RewriterRun.system.restrict fun _ operation => Negotiated operation

def mappings (s : Impl) : List MediaMapping := s.media.map MediaRuntimeState.mapping

theorem map_mapping_set {media : List MediaRuntimeState} {index : ℕ}
    {current next : MediaRuntimeState} (hat : media[index]? = some current)
    (hmapping : next.mapping = current.mapping) :
    (media.set index next).map MediaRuntimeState.mapping =
      media.map MediaRuntimeState.mapping := by
  have hsame : (media.map MediaRuntimeState.mapping)[index]? = some next.mapping := by
    rw [List.getElem?_map, hat, hmapping]
    rfl
  obtain ⟨hlt, hget⟩ := List.getElem?_eq_some_iff.mp hsame
  rw [List.map_set, ← hget, List.set_getElem_self]

theorem rewrite_mappings (s : Impl) (packet : List UInt8) (transportSequenceNumber : UInt16) :
    mappings (s.rewrite packet transportSequenceNumber).1 = mappings s := by
  rcases s.rewrite_cases packet transportSequenceNumber with ⟨hsame, -⟩ |
    ⟨parsed, resolved, bound, -, hresolve, hbind, heq⟩
  · rw [hsame]
  · rw [heq]
    refine map_mapping_set (Impl.resolve_some hresolve).1 ?_
    rw [rewriteBound_mapping, (bindSource_some hbind).2]

theorem buildRetransmission_mappings (s : Impl) (packet : List UInt8)
    (transportSequenceNumber : UInt16) :
    mappings (s.buildRetransmission packet transportSequenceNumber).1 = mappings s := by
  rcases s.buildRetransmission_cases packet transportSequenceNumber with ⟨hsame, -⟩ |
    ⟨parsed, index, current, -, hat, -, heq⟩
  · rw [hsame]
  · rw [heq]
    refine map_mapping_set hat ?_
    rcases retransmit_cases current packet parsed transportSequenceNumber with ⟨h, -⟩ | ⟨h, -⟩
    · rw [h]
    · rw [h, MediaRuntimeState.allocate_mapping]

theorem clearSource_mappings (s : Impl) : mappings s.clearSource = mappings s := by
  simp only [mappings, Impl.clearSource, List.map_map]
  rfl

theorem setConfig_mappings (s : Impl) (config : RtpRewriter.RewriterConfig) :
    mappings (s.setConfig config) = config.media := nextMedia_mapping _ _ _

/-- A step sets a configuration or keeps the one there was. -/
theorem step_mappings {r r' : RewriterRun} {operation : Operation}
    (hstep : r.step operation = some r') :
    (∃ config, operation = .setConfig config ∧ mappings r'.rewriter = config.media) ∨
      (∀ config, operation ≠ .setConfig config) ∧ mappings r'.rewriter = mappings r.rewriter := by
  cases operation with
  | setConfig config =>
      obtain rfl := Option.some.inj hstep
      exact Or.inl ⟨config, rfl, setConfig_mappings _ _⟩
  | clearSource =>
      obtain rfl := Option.some.inj hstep
      exact Or.inr ⟨nofun, clearSource_mappings _⟩
  | rewrite packet transportSequenceNumber =>
      obtain rfl := Option.some.inj hstep
      exact Or.inr ⟨nofun, rewrite_mappings _ _ _⟩
  | buildRetransmission packet transportSequenceNumber =>
      obtain rfl := Option.some.inj hstep
      exact Or.inr ⟨nofun, buildRetransmission_mappings _ _ _⟩

def MappingsValid (r : RewriterRun) : Prop := ∀ m ∈ mappings r.rewriter, MappingValid m

theorem MappingsValid.step {r r' : RewriterRun} {operation : Operation} (h : MappingsValid r)
    (hnegotiated : Negotiated operation) (hstep : r.step operation = some r') :
    MappingsValid r' := by
  unfold MappingsValid at h ⊢
  rcases step_mappings hstep with ⟨config, rfl, hconfig⟩ | ⟨-, hkept⟩
  · obtain ⟨publisherSessionId, publisherOffer, target, hmade⟩ := hnegotiated
    rw [hconfig]
    exact makeWhepRtpRewriterConfig_valid hmade
  · rw [hkept]
    exact h

theorem run_mappings_valid {operations : List Operation} {r : RewriterRun}
    (h : negotiatedSystem.Run operations r) : MappingsValid r := by
  refine h.invariant ?_ ?_
  · intro r hr
    cases hr
    simp [MappingsValid, mappings]
  · intro r operation r' hinv hstep
    exact hinv.step hstep.1 hstep.2

/-- In every run of negotiated configurations a rewritten packet is read back as it was meant
exactly when it does not collide. -/
theorem run_rewrite_faithful_iff {operations : List Operation} {r : RewriterRun}
    (hrun : negotiatedSystem.Run operations r) {packet : List UInt8}
    {transportSequenceNumber : UInt16} {result : RewriteResult}
    (hresult : (r.rewriter.rewrite packet transportSequenceNumber).2 = .ok result)
    (hstate : result.state = .rewritten) :
    FaithfulRewrite r.rewriter packet transportSequenceNumber result ↔
      ¬RewriteCollides r.rewriter packet transportSequenceNumber := by
  have hvalid := run_mappings_valid hrun
  refine rewrite_faithful_iff (fun m hm => ?_) hresult hstate
  exact hvalid m.mapping (List.mem_map_of_mem hm)

def vp8Media (mid : Text) (direction : MediaDirection) (payloadType : UInt16) : MediaSummary where
  kind := kVideo
  mid := mid
  direction := direction
  rtcpMux := true
  payloadTypes := [payloadType]
  codecs := [{ payloadType := payloadType, name := ascii "VP8", clockRate := 90000 }]

def vp8Publisher : WebrtcOfferSummary where
  bundleMids := [ascii "0"]
  media := [vp8Media (ascii "0") .sendOnly 96]

/-- A subscriber which gave VP8 the payload type 72. -/
def vp8Target : WhepRtpRewriterTarget where
  subscriberOffer :=
    { bundleMids := [ascii "v"]
      media := [vp8Media (ascii "v") .recvOnly 72] }
  acceptedMlineIndexes := [0]
  acceptedMediaSources := [{ mid := ascii "v", kind := kVideo, ssrc := 1 }]

def vp8Mapping : MediaMapping where
  kind := kVideo
  sourceMid := ascii "0"
  targetMid := ascii "v"
  targetSsrc := 1
  payloadTypes := [{ sourcePayloadType := 96
                     targetPayloadType := 72
                     clockRate := 90000
                     codecName := ascii "VP8" }]

def vp8Config : RtpRewriter.RewriterConfig := ⟨ascii "publisher", [vp8Mapping]⟩

def vp8Run : RewriterRun := { rewriter := Impl.setConfig {} vp8Config }

theorem vp8Run_run : negotiatedSystem.Run [.setConfig vp8Config] vp8Run := by
  have hconfig : makeWhepRtpRewriterConfig (ascii "publisher") vp8Publisher vp8Target =
      .ok vp8Config := by decide +kernel
  have hnegotiated : Negotiated (.setConfig vp8Config) := ⟨_, _, _, hconfig⟩
  have hstep : negotiatedSystem.step {} (.setConfig vp8Config) vp8Run := ⟨hnegotiated, rfl⟩
  exact EventSystem.Run.step (.start rfl) hstep

def vp8Result (packet : List UInt8) : RewriteResult :=
  ((vp8Run.rewriter.rewrite packet 0).2.toOption).getD {}

/-- A packet of the publisher with the marker set. -/
def markedPacket : List UInt8 := [0x80, 0xE0, 0, 7, 0, 0, 0, 100, 0, 0, 0, 9, 1]

theorem run_rewrite_faithful_iff_unmarked :
    FaithfulRewrite vp8Run.rewriter plainPacket 0 (vp8Result plainPacket) ↔
      ¬RewriteCollides vp8Run.rewriter plainPacket 0 := by
  have hresult : (vp8Run.rewriter.rewrite plainPacket 0).2 = .ok (vp8Result plainPacket) := by
    decide +kernel
  exact run_rewrite_faithful_iff vp8Run_run hresult (by decide +kernel)

/-- The marker and the payload type 72 make the second byte that of an RTCP sender report. -/
theorem run_rewrite_not_faithful :
    ¬ ∀ (operations : List Operation) (r : RewriterRun) (packet : List UInt8)
      (transportSequenceNumber : UInt16) (result : RewriteResult),
      negotiatedSystem.Run operations r →
      (r.rewriter.rewrite packet transportSequenceNumber).2 = .ok result →
      result.state = .rewritten →
      FaithfulRewrite r.rewriter packet transportSequenceNumber result := by
  intro hall
  have hresult : (vp8Run.rewriter.rewrite markedPacket 0).2 = .ok (vp8Result markedPacket) := by
    decide +kernel
  obtain ⟨_, _, out, -, -, hfaithful⟩ := hall _ _ markedPacket 0 (vp8Result markedPacket)
    vp8Run_run hresult (by decide +kernel)
  have hrejected : (parseRewriteableRtpPacket (vp8Result markedPacket).packet).toOption = none := by
    decide +kernel
  rw [hfaithful.parse] at hrejected
  cases hrejected

end SimpleWebrtc.ConfiguredRewriter
