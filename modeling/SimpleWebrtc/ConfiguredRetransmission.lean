import SimpleWebrtc.ConfiguredRewriter
import SimpleWebrtc.RetransmittedPacket
import SimpleWebrtc.WhepConfiguration

/-!
# Retransmissions of rewritten packets

A packet which was rewritten for a section can be retransmitted as long as the
section keeps its configuration. The parser has to accept what the rewriter put
together, and the lookup of the transport-wide element has to find the two bytes
which the rewriter meant for it: it does unless the packet or its RTX packet
looks like RTCP, the MID does not fit its length byte, or another value of some
other length took the transport-wide id.
-/
namespace SimpleWebrtc.ConfiguredRewriter
open Library Library.Text Library.Bytes SdpSummary SdpCodecNegotiator SdpAnswer RewriterConfig
  RtpHeaderExtension RtpPacket RewrittenExtensions RtpRewriter

/-! ## A rewritten packet is parsed again -/

/-- What the parser finds in the extensions of a rewritten packet leaves room for the
transport-wide number. With an over-long MID that is what is left behind its cut length. -/
structure ExtensionsRead (mapping : MediaMapping) (parsed : ParsedRtpPacket)
    (transportSequenceNumber : UInt16) : Prop where
  fits : ¬MidOverflows mapping parsed.headerExtensions →
    mapping.targetTransportCcExtensionId ≠ 0 → ∀ value,
      plainValueAt mapping parsed.headerExtensions mapping.targetTransportCcExtensionId =
        some value → value.length = 2
  overflow : MidOverflows mapping parsed.headerExtensions → ∃ block elements,
    extensionBlockFor parsed mapping transportSequenceNumber = .ok block ∧
      ExtensionBlock block elements ∧ TransportCcFits mapping elements

theorem extensionBlockFor_ok {parsed : ParsedRtpPacket} {mapping : MediaMapping}
    {transportSequenceNumber : UInt16} {block : List UInt8}
    (h : extensionBlockFor parsed mapping transportSequenceNumber = .ok block) :
    ∃ extensions, rewriteHeaderExtensions parsed mapping transportSequenceNumber =
        .ok extensions ∧
      buildHeaderExtensionBlock extensions mapping.targetExtmapAllowMixed = .ok block := by
  unfold extensionBlockFor at h
  cases hextensions : rewriteHeaderExtensions parsed mapping transportSequenceNumber with
  | error e => simp [hextensions] at h
  | ok extensions => exact ⟨extensions, rfl, by simpa [hextensions] using h⟩

theorem parsed_header {packet : List UInt8} {parsed : ParsedRtpPacket}
    (h : parseRewriteableRtpPacket packet = .ok parsed) : parsed.header = readHeader packet := by
  obtain ⟨head, block, tail, elements, paddingSize, rfl, hwf, rfl⟩ := assembled_of_parse h
  have h12 : 12 ≤ head.length := hwf.headLength ▸ baseHeaderSize_ge head
  rw [List.append_assoc, readHeader_append _ h12]
  rfl

/-- A block holds one list of elements. -/
theorem extensionBlock_unique {block : List UInt8} {elements elements' : List ParsedHeaderExtension}
    (h : ExtensionBlock block elements) (h' : ExtensionBlock block elements') :
    elements = elements' := by
  obtain ⟨-, next, hnext, hwalk⟩ := h
  obtain ⟨-, next', hnext', hwalk'⟩ := h'
  obtain rfl := Option.some.inj (hnext.symm.trans hnext')
  exact Except.ok.inj (hwalk.symm.trans hwalk')

theorem buildHeaderExtensionBlock_nil {extensions : List ParsedHeaderExtension}
    {targetExtmapAllowMixed : Bool}
    (h : buildHeaderExtensionBlock extensions targetExtmapAllowMixed = .ok []) :
    extensions = [] := by
  by_contra hne
  unfold buildHeaderExtensionBlock at h
  rw [if_neg (by simpa using hne)] at h
  simp only at h
  split_ifs at h <;> simp [u16Bytes] at h

/-- The parser cuts a packet where its header and its block say. -/
theorem assembled_of_parts {head block tail : List UInt8}
    (hlen : head.length = RtpPacket.baseHeaderSize head)
    (hext : hasExtension head = !block.isEmpty)
    (hblock : block = [] ∨ block.length = kRtpExtensionHeaderSize + (readU16 block 2).toNat * 4)
    {out : ParsedRtpPacket} (h : parseRewriteableRtpPacket (head ++ block ++ tail) = .ok out) :
    ∃ elements paddingSize, Assembled head block tail elements paddingSize ∧
      out = reportOf head block tail elements paddingSize := by
  obtain ⟨head', block', tail', elements, paddingSize, hsplit, hwf, rfl⟩ := assembled_of_parse h
  have h12 : 12 ≤ head.length := hlen ▸ baseHeaderSize_ge head
  have h12' : 12 ≤ head'.length := hwf.headLength ▸ baseHeaderSize_ge head'
  rw [List.append_assoc, List.append_assoc] at hsplit
  have hsame : head.length = head'.length := by
    have hbase := congrArg RtpPacket.baseHeaderSize hsplit
    rw [baseHeaderSize_append _ (by omega), baseHeaderSize_append _ (by omega)] at hbase
    rw [hlen, hbase, hwf.headLength]
  obtain ⟨rfl, hrest⟩ := List.append_inj hsplit hsame
  have hframe := hwf.block
  have hblockLength : block.length = block'.length := by
    rw [hext] at hframe
    rcases hblock with rfl | hwords
    · simp only [List.isEmpty_nil, Bool.not_true, Bool.false_eq_true, if_false] at hframe
      rw [hframe.1]
    · have hne : block.isEmpty = false := by
        rw [List.isEmpty_eq_false_iff]
        apply List.ne_nil_of_length_pos
        rw [hwords, kRtpExtensionHeaderSize]
        omega
      simp only [hne, Bool.not_false, if_true] at hframe
      have h4' := (block_at [] [] hframe).1
      have h4 : 4 ≤ block.length := by
        rw [hwords, kRtpExtensionHeaderSize]
        omega
      have hread : readU16 (block ++ tail) 2 = readU16 (block' ++ tail') 2 := by rw [hrest]
      rw [readU16_append_left (by omega), readU16_append_left (by omega)] at hread
      rw [hwords, hframe.length, hread]
  obtain ⟨rfl, rfl⟩ := List.append_inj hrest hblockLength
  exact ⟨elements, paddingSize, hwf, rfl⟩

section
variable {packet : List UInt8} {parsed : ParsedRtpPacket} {mapping : MediaMapping}
  {targetPayloadType : UInt8} {transportSequenceNumber : UInt16} {block : List UInt8}
  {sequenceNumber : UInt16} {timestamp ssrc : UInt32}

/-- The header of a rewritten packet which is parsed. -/
theorem rewritten_header (hparse : parseRewriteableRtpPacket packet = .ok parsed)
    (hpt : targetPayloadType.toNat < 128) {out : ParsedRtpPacket}
    (hout : parseRewriteableRtpPacket (assemblePacket packet parsed block targetPayloadType
      sequenceNumber timestamp ssrc none) = .ok out) :
    out.header =
      { marker := parsed.header.marker
        payloadType := targetPayloadType
        sequenceNumber
        timestamp
        ssrc } := by
  obtain ⟨head, sourceBlock, tail, sources, paddingSize, rfl, hwf, rfl⟩ :=
    assembled_of_parse hparse
  have h12 : 12 ≤ head.length := hwf.headLength ▸ baseHeaderSize_ge head
  have hlen : (rewrittenHead head block targetPayloadType sequenceNumber timestamp ssrc).length =
      head.length := rewrittenHead_length block targetPayloadType sequenceNumber timestamp ssrc
  rw [parsed_header hout, assemblePacket_eq h12, List.append_assoc, readHeader_append _ (by omega),
    readHeader_rewrittenHead block targetPayloadType sequenceNumber timestamp ssrc h12 hpt]
  rfl

/-- A rewritten packet is parsed, with room for the transport-wide number, exactly when it does
not look like RTCP and its extensions are read so. -/
theorem rewritten_read_iff (hparse : parseRewriteableRtpPacket packet = .ok parsed)
    (hvalid : MappingValid mapping) (hpt : targetPayloadType.toNat < 128)
    (hblock : extensionBlockFor parsed mapping transportSequenceNumber = .ok block) :
    (∃ out, parseRewriteableRtpPacket (assemblePacket packet parsed block targetPayloadType
        sequenceNumber timestamp ssrc none) = .ok out ∧
        TransportCcFits mapping out.headerExtensions) ↔
      ¬LooksLikeRtcp parsed targetPayloadType ∧
        ExtensionsRead mapping parsed transportSequenceNumber := by
  obtain ⟨extensions, hextensions, hbuild⟩ := extensionBlockFor_ok hblock
  obtain ⟨hdistinct, hvalues⟩ := rewriteHeaderExtensions_spec hvalid.midIdNonzero hextensions
  have hshort := rewriteHeaderExtensions_short_iff hextensions
  have hwell : ¬MidOverflows mapping parsed.headerExtensions →
      (block = [] ∧ extensions = []) ∨ ExtensionBlock block extensions := by
    intro hmid
    by_cases hnil : extensions = []
    · left
      simp only [hnil, buildHeaderExtensionBlock, List.isEmpty_nil, if_true,
        Except.ok.injEq] at hbuild
      exact ⟨hbuild.symm, hnil⟩
    · exact Or.inr (buildHeaderExtensionBlock_spec hbuild hdistinct.nonzero
        (hshort.mpr hmid) hnil)
  have hfits : TransportCcFits mapping extensions ↔
      (mapping.targetTransportCcExtensionId ≠ 0 → ∀ value,
        plainValueAt mapping parsed.headerExtensions mapping.targetTransportCcExtensionId =
          some value → value.length = 2) := by
    apply imp_congr_right
    intro hid
    rw [hvalues, if_pos ⟨hid, rfl⟩]
    cases plainValueAt mapping parsed.headerExtensions mapping.targetTransportCcExtensionId with
    | none => simp
    | some value => simp
  obtain ⟨head, sourceBlock, tail, sources, paddingSize, rfl, hwf, rfl⟩ :=
    assembled_of_parse hparse
  have h12 : 12 ≤ head.length := hwf.headLength ▸ baseHeaderSize_ge head
  rw [assemblePacket_eq h12]
  have hlen : (rewrittenHead head block targetPayloadType sequenceNumber timestamp ssrc).length =
      head.length := rewrittenHead_length block targetPayloadType sequenceNumber timestamp ssrc
  obtain ⟨hext, -, hcsrc, -⟩ :=
    rewrittenHead_flags block targetPayloadType sequenceNumber timestamp ssrc h12
  have hreads : ∀ {elements : List ParsedHeaderExtension},
      ¬LooksLikeRtcp (reportOf head sourceBlock tail sources paddingSize) targetPayloadType →
      (block = [] ∧ elements = []) ∨ ExtensionBlock block elements →
      TransportCcFits mapping elements → ∃ out, parseRewriteableRtpPacket
        (rewrittenHead head block targetPayloadType sequenceNumber timestamp ssrc ++ block ++
          rewrittenTail tail none) = .ok out ∧ TransportCcFits mapping out.headerExtensions := by
    intro elements hrtcp helements hroom
    have hassembled := @rewritten_assembled _ _ _ _ _ _ _ hwf _ hpt
      (fun hlooks => hrtcp (looksLikeRtcp_iff.mpr hlooks)) helements sequenceNumber timestamp ssrc
      none (by simp)
    exact ⟨_, hassembled.parse, hroom⟩
  constructor
  · intro hread
    obtain ⟨out, hout, hroom⟩ := hread
    constructor
    · intro hlooks
      have hrtcp := isRtcpPacket_rewritten block (block ++ rewrittenTail tail none) h12 hwf.version
        hpt sequenceNumber timestamp ssrc (looksLikeRtcp_iff.mp hlooks)
      rw [← List.append_assoc, parsed_not_rtcp hout] at hrtcp
      cases hrtcp
    · have hbase : (rewrittenHead head block targetPayloadType sequenceNumber timestamp
          ssrc).length = RtpPacket.baseHeaderSize (rewrittenHead head block targetPayloadType
            sequenceNumber timestamp ssrc) := by
        rw [hlen, RtpPacket.baseHeaderSize, hcsrc, hwf.headLength, RtpPacket.baseHeaderSize]
      obtain ⟨elements, paddingSize', hassembled, rfl⟩ :=
        assembled_of_parts hbase hext (buildHeaderExtensionBlock_length hbuild) hout
      have hframe := hassembled.block
      rw [hext] at hframe
      constructor
      · intro hmid
        rw [← hfits]
        have hsame : elements = extensions := by
          rcases hwell hmid with ⟨rfl, rfl⟩ | hextensionBlock
          · simpa using hframe
          · obtain ⟨h4, -⟩ := block_at [] [] hextensionBlock
            have hne : block ≠ [] := List.ne_nil_of_length_pos (by omega)
            rw [List.isEmpty_eq_false_iff.mpr hne] at hframe
            exact extensionBlock_unique hframe hextensionBlock
        exact hsame ▸ hroom
      · intro hmid
        have hne : block ≠ [] := by
          rintro rfl
          have hnil := buildHeaderExtensionBlock_nil hbuild
          apply hshort.mp _ hmid
          simp [hnil]
        rw [List.isEmpty_eq_false_iff.mpr hne] at hframe
        exact ⟨block, elements, hblock, hframe, hroom⟩
  · intro hboth
    obtain ⟨hrtcp, hextensionsRead⟩ := hboth
    by_cases hmid : MidOverflows mapping
        (reportOf head sourceBlock tail sources paddingSize).headerExtensions
    · obtain ⟨block', elements, hblock', hextensionBlock, hroom⟩ := hextensionsRead.overflow hmid
      rw [hblock] at hblock'
      obtain rfl := Except.ok.inj hblock'
      exact hreads hrtcp (Or.inr hextensionBlock) hroom
    · exact hreads hrtcp (hwell hmid) (hfits.mpr (hextensionsRead.fits hmid))

end

/-! ## Configurations -/

/-- The primary entries of a target payload type agree on generic NACK. -/
def NackAgrees (mapping : MediaMapping) : Prop :=
  ∀ p ∈ mapping.payloadTypes, ∀ q ∈ mapping.payloadTypes, p.rtx = false → q.rtx = false →
    p.targetPayloadType = q.targetPayloadType → p.nack = q.nack

/-- A primary entry has generic NACK where the subscriber's codec of its payload type has. -/
theorem makePayloadTypeMapping_nack {subscriberMedia : MediaSummary} {targetRtxSsrc : UInt32}
    {mapping : CodecPayloadTypeMapping} {p : PayloadTypeMapping}
    (h : makePayloadTypeMapping subscriberMedia targetRtxSsrc mapping = .ok (some p))
    (hprimary : p.rtx = false) :
    ∃ payloadType : UInt16, payloadType ≤ 127 ∧ p.targetPayloadType = payloadType.toUInt8 ∧
      ∃ codec, ((findSelectedCodecByPayloadType subscriberMedia.codecs payloadType).filter
        fun codec => codec.clockRate != 0) = some codec ∧
        p.nack = codecSupportsGenericNack codec := by
  obtain ⟨_, hrange, h⟩ := bind_ok.mp h
  have htarget := (ensure_ok.mp hrange).2
  simp only at h
  split_ifs at h with hskip
  · cases h
  · obtain ⟨associated, hassociated, h⟩ := bind_ok.mp h
    obtain ⟨codec, hcodec, h⟩ := bind_ok.mp h
    cases h
    have hnone : mapping.publisherAssociatedPayloadType = none := by
      rwa [Option.isSome_eq_false_iff, Option.isNone_iff_eq_none] at hprimary
    rw [associatedPayloadTypes, hnone] at hassociated
    obtain rfl := Except.ok.inj hassociated
    refine ⟨mapping.subscriberPayloadType, htarget, rfl, codec, orError_ok.mp hcodec, ?_⟩
    simp [hnone]

/-- What of a mapping is fixed before its header extensions are added. -/
theorem makeMediaMapping_parts {publisherOffer subscriberOffer : WebrtcOfferSummary}
    {accepted : Int × SdpAnswerMediaSource} {mapping : MediaMapping}
    (h : makeMediaMapping publisherOffer subscriberOffer accepted = .ok mapping) :
    mapping.targetSsrc = accepted.2.ssrc ∧ NackAgrees mapping := by
  obtain ⟨subscriberMedia, publisherMedia, codecMappings, payloadTypes, start, hmakes⟩ :=
    makeMediaMapping_makes h
  obtain ⟨hpayloadTypes, hssrc⟩ := hmakes.keeps
  have hentries := forall_of_mapM_ok hmakes.made
    (P := fun x => ∀ p ∈ x, p.rtx = false → ∃ payloadType : UInt16, payloadType ≤ 127 ∧
      p.targetPayloadType = payloadType.toUInt8 ∧ ∃ codec,
        ((findSelectedCodecByPayloadType subscriberMedia.codecs payloadType).filter
          fun codec => codec.clockRate != 0) = some codec ∧
        p.nack = codecSupportsGenericNack codec)
    fun mapping _ x hx p hp => makePayloadTypeMapping_nack (by rw [hx, hp])
  refine ⟨hssrc, ?_⟩
  intro p hp q hq hpPrimary hqPrimary hsame
  rw [hpayloadTypes] at hp hq
  obtain ⟨x, hx, hxp⟩ := List.mem_filterMap.mp hp
  obtain ⟨y, hy, hyq⟩ := List.mem_filterMap.mp hq
  obtain ⟨a, ha, hap, codec, hcodec, hnack⟩ := hentries x hx p hxp hpPrimary
  obtain ⟨b, hb, hbq, other, hother, hnack'⟩ := hentries y hy q hyq hqPrimary
  have hab : a = b := by
    apply UInt16.toNat_inj.mp
    rw [← toNat_toUInt8 ha, ← toNat_toUInt8 hb, ← hap, ← hbq, hsame]
  subst hab
  obtain rfl := Option.some.inj (hcodec.symm.trans hother)
  rw [hnack, hnack']

/-- An operation whose configuration, if it sets one, was computed from two offers, for sources
with SSRCs of their own. -/
def DistinctlyNegotiated : Operation → Prop
  | .setConfig config => ∃ publisherSessionId publisherOffer target,
      (target.acceptedMediaSources.map SdpAnswerMediaSource.ssrc).Nodup ∧
      makeWhepRtpRewriterConfig publisherSessionId publisherOffer target = .ok config
  | _ => True

theorem DistinctlyNegotiated.negotiated {operation : Operation}
    (h : DistinctlyNegotiated operation) : Negotiated operation := by
  cases operation with
  | setConfig config =>
      obtain ⟨publisherSessionId, publisherOffer, target, -, hconfig⟩ := h
      exact ⟨publisherSessionId, publisherOffer, target, hconfig⟩
  | clearSource => trivial
  | rewrite packet transportSequenceNumber => trivial
  | buildRetransmission packet transportSequenceNumber => trivial

/-- The sections of a configuration can be told apart by their SSRCs. -/
structure Retransmittable (mappings : List MediaMapping) : Prop where
  valid : ∀ m ∈ mappings, MappingValid m
  nack : ∀ m ∈ mappings, NackAgrees m
  distinct : (mappings.map MediaMapping.targetSsrc).Nodup

theorem makeWhepRtpRewriterConfig_retransmittable {publisherSessionId : Text}
    {publisherOffer : WebrtcOfferSummary} {target : WhepRtpRewriterTarget}
    {config : RtpRewriter.RewriterConfig}
    (hdistinct : (target.acceptedMediaSources.map SdpAnswerMediaSource.ssrc).Nodup)
    (h : makeWhepRtpRewriterConfig publisherSessionId publisherOffer target = .ok config) :
    Retransmittable config.media := by
  have hvalid := makeWhepRtpRewriterConfig_valid h
  obtain ⟨_, -, h⟩ := bind_ok.mp h
  obtain ⟨_, hlength, h⟩ := bind_ok.mp h
  obtain ⟨media, hmedia, h⟩ := bind_ok.mp h
  obtain ⟨_, -, h⟩ := bind_ok.mp h
  cases h
  have hlen := ensure_ok.mp hlength
  have hforall := mapM_ok.mp hmedia
  constructor
  · exact hvalid
  · intro m hm
    obtain ⟨accepted, -, hmapping⟩ := forall₂_mem_right hforall hm
    exact (makeMediaMapping_parts hmapping).2
  · have hssrcs : (target.acceptedMlineIndexes.zip target.acceptedMediaSources).map
        (SdpAnswerMediaSource.ssrc ∘ Prod.snd) = media.map MediaMapping.targetSsrc :=
      forall₂_map_eq (fun _ _ hmapping => (makeMediaMapping_parts hmapping).1.symm) hforall
    have hsnd : (target.acceptedMlineIndexes.zip target.acceptedMediaSources).map Prod.snd =
        target.acceptedMediaSources := List.map_snd_zip (Nat.le_of_eq hlen.symm)
    have hdistinct' : (media.map MediaMapping.targetSsrc).Nodup := by
      rw [← hssrcs, ← List.map_map, hsnd]
      exact hdistinct
    exact hdistinct'

/-! ## Runs -/

def distinctSystem : EventSystem RewriterRun Operation :=
  RewriterRun.system.restrict fun _ operation => DistinctlyNegotiated operation

theorem run_retransmittable {operations : List Operation} {r : RewriterRun}
    (h : distinctSystem.Run operations r) : Retransmittable (mappings r.rewriter) := by
  induction h with
  | start h =>
      cases h
      constructor
      · exact nofun
      · exact nofun
      · exact List.nodup_nil
  | step hrun hstep ih =>
      rcases step_mappings hstep.2 with ⟨config, rfl, hconfig⟩ | ⟨-, hkept⟩
      · obtain ⟨publisherSessionId, publisherOffer, target, hdistinct, hmade⟩ := hstep.1
        rw [hconfig]
        exact makeWhepRtpRewriterConfig_retransmittable hdistinct hmade
      · rw [hkept]
        exact ih

theorem findTarget_of_mem {s : Impl} (h : Retransmittable (mappings s))
    {current : MediaRuntimeState} (hcurrent : current ∈ s.media) :
    ∃ index found, s.findTarget current.mapping.targetSsrc = some (index, found) ∧
      found.mapping = current.mapping := by
  have hsome : (s.media.find? fun other =>
      decide (other.mapping.targetSsrc = current.mapping.targetSsrc)).isSome = true := by
    rw [List.find?_isSome]
    exact ⟨current, hcurrent, decide_eq_true rfl⟩
  obtain ⟨found, hfind⟩ := Option.isSome_iff_exists.mp hsome
  refine ⟨s.media.findIdx fun other =>
    decide (other.mapping.targetSsrc = current.mapping.targetSsrc), found, ?_, ?_⟩
  · rw [Impl.findTarget, hfind]
    rfl
  · have hssrc : found.mapping.targetSsrc = current.mapping.targetSsrc := by
      simpa using List.find?_some hfind
    exact List.inj_on_of_nodup_map h.distinct
      (List.mem_map_of_mem (List.mem_of_find?_eq_some hfind)) (List.mem_map_of_mem hcurrent) hssrc

theorem NackAgrees.primary {mapping : MediaMapping} (h : NackAgrees mapping)
    {p : PayloadTypeMapping} (hp : p ∈ mapping.payloadTypes) (hprimary : p.rtx = false)
    (hnack : p.nack = true) : ∃ primary,
      findPrimaryMapping mapping p.targetPayloadType = some primary ∧ primary.nack = true := by
  have hsome : (findPrimaryMapping mapping p.targetPayloadType).isSome = true := by
    rw [findPrimaryMapping, List.find?_isSome]
    exact ⟨p, hp, by simp [hprimary]⟩
  obtain ⟨primary, hfind⟩ := Option.isSome_iff_exists.mp hsome
  refine ⟨primary, hfind, ?_⟩
  have hmatches := List.find?_some hfind
  simp only [Bool.and_eq_true, Bool.not_eq_true', decide_eq_true_eq] at hmatches
  rw [h primary (List.mem_of_find?_eq_some hfind) p hp hmatches.1 hprimary hmatches.2, hnack]

/-- A packet, sent under a payload type, which can be restored from its retransmissions: neither
it nor its RTX packet looks like RTCP, and its extensions leave room for the number. -/
structure Restorable (mapping : MediaMapping) (parsed : ParsedRtpPacket)
    (targetPayloadType : UInt8) (transportSequenceNumber : UInt16) : Prop where
  primary : ¬LooksLikeRtcp parsed targetPayloadType
  rtx : ∀ target ∈ rtxTarget mapping targetPayloadType, ¬LooksLikeRtcp parsed target.1
  extensions : ExtensionsRead mapping parsed transportSequenceNumber

/-- A rewritten packet is restored, by a section which still has its configuration, exactly when
it is restorable. -/
theorem run_retransmission_restores_iff {operations operations' : List Operation}
    {r r' : RewriterRun} (hrun : distinctSystem.Run operations r)
    (hrun' : distinctSystem.Run operations' r') {packet : List UInt8}
    {transportSequenceNumber : UInt16} {result : RewriteResult}
    (hresult : (r.rewriter.rewrite packet transportSequenceNumber).2 = .ok result)
    (hstate : result.state = .rewritten) (hprimary : result.rtx = false)
    {parsed : ParsedRtpPacket} (hparse : parseRewriteableRtpPacket packet = .ok parsed)
    {resolved : ResolvedMedia} (hresolve : r.rewriter.resolve parsed = some resolved)
    (hnack : resolved.payloadType.nack = true)
    (hunchanged : resolved.current.mapping ∈ mappings r'.rewriter) (number : UInt16) :
    Restores resolved.current.mapping result.packet number
        (r'.rewriter.buildRetransmission result.packet number).2 ↔
      Restorable resolved.current.mapping parsed resolved.payloadType.targetPayloadType
        transportSequenceNumber := by
  obtain ⟨current, hcurrent, hmapping⟩ := List.mem_map.mp hunchanged
  have hready := run_retransmittable hrun
  have hready' := run_retransmittable hrun'
  rcases r.rewriter.rewrite_cases packet transportSequenceNumber with ⟨-, hnone⟩ |
    ⟨parsed', resolved', bound, hparse', hresolve', hbind, heq⟩
  · rw [hresult] at hnone
    have hdropped : result.state = .dropped := hnone
    rw [hstate] at hdropped
    cases hdropped
  · obtain rfl := Except.ok.inj (hparse'.symm.trans hparse)
    obtain rfl := Option.some.inj (hresolve'.symm.trans hresolve)
    rw [heq] at hresult
    obtain ⟨horiginal, -, hemit⟩ := rewriteBound_emits hbind hresult hstate
    obtain ⟨block, targetTimestamp, hblock, hfields⟩ := emit_result hemit
    obtain ⟨-, hmap⟩ := bindSource_some hbind
    obtain ⟨hat, hentry⟩ := Impl.resolve_some hresolve
    have hrtx : resolved'.payloadType.rtx = false := by
      rw [hfields] at hprimary
      exact hprimary
    have hnoOriginal : mappedOriginal resolved'.current resolved'.payloadType.rtx packet parsed' =
        none := by
      rw [← Option.not_isSome_iff_eq_none, horiginal, hrtx]
      exact Bool.false_ne_true
    set mapping := resolved'.current.mapping with hm
    have hmem : mapping ∈ mappings r.rewriter :=
      List.mem_map_of_mem (List.mem_of_getElem? hat)
    have hvalid := hready.valid mapping hmem
    have hlisted := List.mem_of_find?_eq_some hentry
    have hpt := hvalid.payloadTypes _ hlisted
    obtain ⟨primary, hfound, hprimaryNack⟩ :=
      (hready.nack mapping hmem).primary hlisted hrtx hnack
    rw [hmap] at hblock
    have hpacket : result.packet = assemblePacket packet parsed' block
        resolved'.payloadType.targetPayloadType
        (bound.current.sequenceNumber resolved'.payloadType.rtx) targetTimestamp
        mapping.targetSsrc none := by
      rw [hfields, hnoOriginal, rewrittenResult, hmap, hrtx]
      rfl
    have hread := @rewritten_read_iff packet parsed' mapping _ _ _
      (bound.current.sequenceNumber resolved'.payloadType.rtx) targetTimestamp mapping.targetSsrc
      hparse hvalid hpt hblock
    rw [← hpacket] at hread
    have hheader := @rewritten_header packet parsed' _ block
      (bound.current.sequenceNumber resolved'.payloadType.rtx) targetTimestamp mapping.targetSsrc
      hparse hpt
    rw [← hpacket] at hheader
    obtain ⟨index, found, htarget, hfoundMapping⟩ := findTarget_of_mem hready' hcurrent
    rw [hmapping] at htarget hfoundMapping
    have hbuild : ∀ out, parseRewriteableRtpPacket result.packet = .ok out →
        (Restores mapping result.packet number
          (r'.rewriter.buildRetransmission result.packet number).2 ↔
        TransportCcFits mapping out.headerExtensions ∧
          ∀ target ∈ rtxTarget mapping resolved'.payloadType.targetPayloadType,
            ¬LooksLikeRtcp parsed' target.1) := by
      intro out hout
      have hfields' := hheader hout
      have hpayloadType : out.header.payloadType = resolved'.payloadType.targetPayloadType := by
        rw [hfields']
      have hmarker : ∀ payloadType, LooksLikeRtcp out payloadType ↔
          LooksLikeRtcp parsed' payloadType := by
        intro payloadType
        rw [LooksLikeRtcp, LooksLikeRtcp, hfields']
      have hcall : (r'.rewriter.buildRetransmission result.packet number).2 =
          (retransmit found result.packet out number).2 := by
        rw [Impl.buildRetransmission, hout]
        simp only
        rw [show out.header.ssrc = mapping.targetSsrc by rw [hfields'], htarget]
      have hiff := retransmit_restores_iff hout (hfoundMapping ▸ hvalid)
        (by rw [hfoundMapping, hpayloadType]; exact hfound) hprimaryNack number
      rw [hfoundMapping, hpayloadType] at hiff
      rw [hcall, hiff]
      simp only [hmarker]
    constructor
    · intro hrestores
      obtain ⟨out, outcome, hout, -⟩ := id hrestores
      obtain ⟨hroom, hrtcp⟩ := (hbuild out hout).mp hrestores
      obtain ⟨hlooks, hextensions⟩ := hread.mp ⟨out, hout, hroom⟩
      exact ⟨hlooks, hrtcp, hextensions⟩
    · intro hrestorable
      obtain ⟨out, hout, hroom⟩ := hread.mpr ⟨hrestorable.primary, hrestorable.extensions⟩
      exact (hbuild out hout).mpr ⟨hroom, hrestorable.rtx⟩

/-! ## A payload type whose marked packets look like RTCP -/

/-- VP8 with generic NACK. -/
def nackMedia (mid : Text) (direction : MediaDirection) (payloadType : UInt16) : MediaSummary :=
  { vp8Media mid direction payloadType with
    codecs := [{ payloadType := payloadType
                 name := ascii "VP8"
                 clockRate := 90000
                 rtcpFeedback := [ascii "nack"] }] }

def nackTarget : WhepRtpRewriterTarget where
  subscriberOffer :=
    { bundleMids := [ascii "v"]
      media := [nackMedia (ascii "v") .recvOnly 72] }
  acceptedMlineIndexes := [0]
  acceptedMediaSources := [{ mid := ascii "v", kind := kVideo, ssrc := 1 }]

def nackMapping : MediaMapping where
  kind := kVideo
  sourceMid := ascii "0"
  targetMid := ascii "v"
  targetSsrc := 1
  payloadTypes := [{ sourcePayloadType := 96
                     targetPayloadType := 72
                     clockRate := 90000
                     codecName := ascii "VP8"
                     nack := true }]

def nackConfig : RtpRewriter.RewriterConfig := ⟨ascii "publisher", [nackMapping]⟩

def nackRun : RewriterRun := { rewriter := Impl.setConfig {} nackConfig }

theorem nackRun_run : distinctSystem.Run [.setConfig nackConfig] nackRun := by
  have hconfig : makeWhepRtpRewriterConfig (ascii "publisher") vp8Publisher nackTarget =
      .ok nackConfig := by decide +kernel
  have hnegotiated : DistinctlyNegotiated (.setConfig nackConfig) :=
    ⟨_, _, _, by decide, hconfig⟩
  have hstep : distinctSystem.step {} (.setConfig nackConfig) nackRun := ⟨hnegotiated, rfl⟩
  exact EventSystem.Run.step (.start rfl) hstep

def nackResult (packet : List UInt8) : RewriteResult :=
  ((nackRun.rewriter.rewrite packet 0).2.toOption).getD {}

def nackParsed (marker : Bool) : ParsedRtpPacket where
  header := { marker, payloadType := 96, sequenceNumber := 7, timestamp := 100, ssrc := 9 }
  padding := false
  baseHeaderSize := 12
  payloadOffset := 12
  payloadDataSize := 1
  headerExtensions := []

def nackResolved : ResolvedMedia where
  mediaIndex := 0
  current := { mapping := nackMapping }
  payloadType :=
    { sourcePayloadType := 96
      targetPayloadType := 72
      clockRate := 90000
      codecName := ascii "VP8"
      nack := true }

theorem run_retransmission_restores_iff_unmarked :
    Restores nackMapping (nackResult plainPacket).packet 5
        (nackRun.rewriter.buildRetransmission (nackResult plainPacket).packet 5).2 ↔
      Restorable nackMapping (nackParsed false) 72 0 := by
  have hresult : (nackRun.rewriter.rewrite plainPacket 0).2 = .ok (nackResult plainPacket) := by
    decide +kernel
  have hparse : parseRewriteableRtpPacket plainPacket = .ok (nackParsed false) := by decide +kernel
  have hresolve : nackRun.rewriter.resolve (nackParsed false) = some nackResolved := by
    decide +kernel
  exact run_retransmission_restores_iff nackRun_run nackRun_run hresult (by decide +kernel)
    (by decide +kernel) hparse hresolve rfl (by decide +kernel) 5

/-- The marked packet is sent and cannot be retransmitted. -/
theorem run_retransmission_not_restored :
    ¬ ∀ (operations operations' : List Operation) (r r' : RewriterRun) (packet : List UInt8)
      (transportSequenceNumber : UInt16) (result : RewriteResult) (parsed : ParsedRtpPacket)
      (resolved : ResolvedMedia) (number : UInt16),
      distinctSystem.Run operations r → distinctSystem.Run operations' r' →
      (r.rewriter.rewrite packet transportSequenceNumber).2 = .ok result →
      result.state = .rewritten → result.rtx = false →
      parseRewriteableRtpPacket packet = .ok parsed →
      r.rewriter.resolve parsed = some resolved → resolved.payloadType.nack = true →
      resolved.current.mapping ∈ mappings r'.rewriter →
      Restores resolved.current.mapping result.packet number
        (r'.rewriter.buildRetransmission result.packet number).2 := by
  intro hall
  have hresult : (nackRun.rewriter.rewrite markedPacket 0).2 = .ok (nackResult markedPacket) := by
    decide +kernel
  obtain ⟨out, _, hout, -⟩ := hall _ _ _ _ markedPacket 0 (nackResult markedPacket)
    (nackParsed true) nackResolved 5 nackRun_run nackRun_run hresult (by decide +kernel)
    (by decide +kernel) (by decide +kernel) (by decide +kernel) rfl (by decide +kernel)
  have hrejected : (parseRewriteableRtpPacket (nackResult markedPacket).packet).toOption =
      none := by decide +kernel
  rw [hout] at hrejected
  cases hrejected

end SimpleWebrtc.ConfiguredRewriter
