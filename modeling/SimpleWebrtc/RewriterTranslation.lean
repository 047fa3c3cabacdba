import SimpleWebrtc.RewriterSections
import SimpleWebrtc.RewrittenPacket

/-!
# The packet an RTX packet repeats

An RTX packet of the source names the packet it repeats by the source's number;
the subscriber knows that packet by the number it was given. The cache answers
for the last packets sent since the primary source changed. An entry leaves the
cache by its value, so it answers exactly as long as no number is given twice to
the same source number within the window, which takes many calls that consume a
number and hand out no packet.
-/
namespace SimpleWebrtc.RtpRewriter
open Library Library.Bytes RtpHeaderExtension RtpPacket RewrittenExtensions

/-- The primary packets sent since the last change of the primary source, newest first. -/
def primaryPackets (log : List SectionEvent) : List SentPacket :=
  (sinceChange log).filter fun p => !p.rtx

def SentPacket.numbers (p : SentPacket) : UInt16 × UInt16 :=
  (p.sourceSequenceNumber, p.targetSequenceNumber)

/-- The numbers of the last packets, as many as the cache holds. -/
def cachedNumbers (log : List SectionEvent) : List (UInt16 × UInt16) :=
  ((primaryPackets log).take kSequenceCacheLimit).map SentPacket.numbers

/-- The newest primary packet with a source number. -/
def newestPrimary (log : List SectionEvent) (source : UInt16) : Option SentPacket :=
  (primaryPackets log).find? fun p => decide (p.sourceSequenceNumber = source)

/-- The newest primary packet with a source number, if it is one of the last 4096. -/
def recentPrimary (log : List SectionEvent) (source : UInt16) : Option SentPacket :=
  ((primaryPackets log).take kSequenceCacheLimit).find? fun p =>
    decide (p.sourceSequenceNumber = source)

/-- The two bytes in front of the payload a rewritten RTX packet keeps. -/
def writtenOriginal (packet : List UInt8) (parsed : ParsedRtpPacket) (result : RewriteResult) :
    UInt16 :=
  readU16 result.packet (result.packet.length - (packet.length - parsed.payloadOffset))

/-- RTX packets of the source name the packet the subscriber got. -/
structure RtxTranslated (r : SectionRun) : Prop where
  written : ∀ packet transportSequenceNumber result,
    (r.rewriter.rewrite packet transportSequenceNumber).2 = .ok result →
    result.state = .rewritten → result.rtx = true →
    ∃ parsed resolved log primary, parseRewriteableRtpPacket packet = .ok parsed ∧
      r.rewriter.resolve parsed = some resolved ∧
      r.logs[resolved.mediaIndex]? = some log ∧
      newestPrimary log (readU16 packet parsed.payloadOffset) = some primary ∧
      recentPrimary log (readU16 packet parsed.payloadOffset) = some primary ∧
      writtenOriginal packet parsed result = primary.targetSequenceNumber
  cached : ∀ packet transportSequenceNumber parsed resolved log result,
    parseRewriteableRtpPacket packet = .ok parsed →
    r.rewriter.resolve parsed = some resolved → resolved.payloadType.rtx = true →
    r.logs[resolved.mediaIndex]? = some log →
    (recentPrimary log (readU16 packet parsed.payloadOffset)).isSome = true →
    (r.rewriter.rewrite packet transportSequenceNumber).2 = .ok result →
    result.reason ≠ ascii "source rtx original sequence number is not cached"

/-- Whether a call hands out a primary packet with the same two numbers as one
of the last packets sent for its section. -/
def repeatsNumbers (r : SectionRun) : Operation → Bool
  | .rewrite packet transportSequenceNumber =>
      match parseRewriteableRtpPacket packet with
      | .error _ => false
      | .ok parsed =>
          match r.rewriter.resolve parsed with
          | none => false
          | some resolved =>
              !resolved.payloadType.rtx && !sourceChanged parsed resolved &&
                (extensionBlockFor parsed resolved.current.mapping transportSequenceNumber).isOk &&
                decide ((parsed.header.sequenceNumber, resolved.current.sequenceNumber false) ∈
                  cachedNumbers (r.logs.getD resolved.mediaIndex []))
  | _ => false

/-! ## The cache -/

namespace SequenceNumberCache

theorem evict_of_le {values : AssocMap UInt16 UInt16} {order : List (UInt16 × UInt16)}
    (h : order.length ≤ kSequenceCacheLimit) : evict values order = ⟨values, order⟩ := by
  cases order with
  | nil => rfl
  | cons oldest order =>
      rw [List.length_cons] at h
      rw [evict, if_neg (by omega)]

/-- A list answers without its last entry as with it, where that entry is not the answer. -/
theorem lookup_of_snoc {κ α : Type*} [DecidableEq κ] [DecidableEq α] {xs : List (κ × α)}
    {e : κ × α} (h : e ∉ xs) (q : κ) :
    xs.lookup q = if q = e.1 ∧ (xs ++ [e]).lookup e.1 = some e.2 then none
      else (xs ++ [e]).lookup q := by
  obtain ⟨key, last⟩ := e
  rw [List.lookup_append, List.lookup_append]
  by_cases hq : q = key
  · subst hq
    cases hx : xs.lookup q with
    | none => simp
    | some value =>
        have hne : value ≠ last := by
          rintro rfl
          obtain ⟨before, after, heq, -⟩ := List.lookup_eq_some_iff.mp hx
          exact h (heq ▸ List.mem_append_right _ List.mem_cons_self)
        simp [hne]
  · simp [hq, List.lookup_cons, beq_false_of_ne hq]

/-- A cache which answers with the newest entry of a window without repetitions. -/
structure Holds (cache : SequenceNumberCache) (window : List (UInt16 × UInt16)) : Prop where
  order : cache.order = window.reverse
  nodup : window.Nodup
  values : ∀ source, cache.find source = window.lookup source

theorem holds_empty : Holds {} [] := ⟨rfl, List.nodup_nil, fun _ => rfl⟩

/-- Remembering a pair which is not in the window moves the window on by one. -/
theorem Holds.remember {cache : SequenceNumberCache} {window : List (UInt16 × UInt16)}
    (h : cache.Holds window) (hlength : window.length ≤ kSequenceCacheLimit)
    {source target : UInt16} (hnew : (source, target) ∉ window) :
    (cache.remember source target).Holds
      (((source, target) :: window).take kSequenceCacheLimit) := by
  have hinsert : ∀ q, (cache.values.insertOrAssign source target).find? q =
      ((source, target) :: window).lookup q := by
    intro q
    have hq : cache.values.find? q = window.lookup q := h.values q
    rw [AssocMap.find?_insertOrAssign, List.lookup_cons, hq]
    by_cases heq : q = source
    · simp [heq]
    · simp [heq, beq_false_of_ne heq]
  have hnodup : ((source, target) :: window).Nodup := List.nodup_cons.mpr ⟨hnew, h.nodup⟩
  rcases Nat.lt_or_eq_of_le hlength with hlt | hfull
  · have hkept : ((source, target) :: window).take kSequenceCacheLimit =
        (source, target) :: window := List.take_of_length_le hlt
    have horder : (cache.order ++ [(source, target)]).length ≤ kSequenceCacheLimit := by
      rw [h.order, List.length_append, List.length_reverse, List.length_singleton]
      exact hlt
    rw [hkept, SequenceNumberCache.remember, evict_of_le horder]
    exact ⟨by rw [h.order, List.reverse_cons], hnodup, hinsert⟩
  · obtain ⟨older, oldest, rfl⟩ : ∃ older oldest, window = older ++ [oldest] := by
      cases window using List.reverseRecOn with
      | nil => cases hfull
      | append_singleton older oldest => exact ⟨older, oldest, rfl⟩
    rw [List.length_append, List.length_singleton] at hfull
    have hkept : ((source, target) :: (older ++ [oldest])).take kSequenceCacheLimit =
        (source, target) :: older := by
      rw [← List.cons_append]
      exact List.take_left' hfull
    have horder : (older.reverse ++ [(source, target)]).length ≤ kSequenceCacheLimit := by
      rw [List.length_append, List.length_reverse, List.length_singleton]
      exact hfull.le
    rw [hkept, SequenceNumberCache.remember, h.order, List.reverse_append, List.reverse_singleton,
      List.singleton_append, List.cons_append, evict, if_pos (by simp; omega),
      evict_of_le horder]
    have holder : oldest ∉ older := by
      intro hmem
      exact (List.nodup_append.mp h.nodup).2.2 oldest hmem oldest (List.mem_singleton_self _) rfl
    refine ⟨by rw [List.reverse_cons], ?_, ?_⟩
    · exact hnodup.sublist (List.Sublist.cons_cons _ (List.sublist_append_left _ _))
    · intro q
      have hvalues := hinsert oldest.1
      have hq := hinsert q
      rw [← List.cons_append] at hvalues hq
      have hfresh : oldest ∉ (source, target) :: older := by
        intro hmem
        rcases List.mem_cons.mp hmem with rfl | hmem
        · exact hnew (List.mem_append_right _ (List.mem_singleton_self _))
        · exact holder hmem
      rw [lookup_of_snoc hfresh q, ← hvalues, ← hq]
      simp only [SequenceNumberCache.find]
      by_cases hsame : (cache.values.insertOrAssign source target).find? oldest.1 =
          some oldest.2
      · rw [if_pos hsame, AssocMap.find?_erase]
        simp only [hsame, and_true]
      · rw [if_neg hsame, if_neg fun hand => hsame hand.2]

end SequenceNumberCache

/-! ## The cache in a run -/

theorem cachedNumbers_of_silent {log : List SectionEvent} (h : sinceChange log = []) :
    cachedNumbers log = [] := by
  simp [cachedNumbers, primaryPackets, h]

theorem cachedNumbers_length (log : List SectionEvent) :
    (cachedNumbers log).length ≤ kSequenceCacheLimit := by
  rw [cachedNumbers, List.length_map]
  exact List.length_take_le _ _

theorem cachedNumbers_rtx {p : SentPacket} (h : p.rtx = true) (log : List SectionEvent) :
    cachedNumbers (.sent p :: log) = cachedNumbers log := by
  simp [cachedNumbers, primaryPackets, sinceChange, h]

theorem cachedNumbers_primary {p : SentPacket} (h : p.rtx = false) (log : List SectionEvent) :
    cachedNumbers (.sent p :: log) =
      (p.numbers :: cachedNumbers log).take kSequenceCacheLimit := by
  have hnewest : primaryPackets (.sent p :: log) = p :: primaryPackets log := by
    simp [primaryPackets, sinceChange, h]
  rw [cachedNumbers, hnewest, cachedNumbers, List.map_take, List.map_take, List.map_cons]
  show _ = (_ :: List.take (4095 + 1) _).take (4095 + 1)
  rw [List.take_succ_cons, List.take_take]
  rfl

/-- What the cache of a section answers with. -/
structure CacheInvariant (m : MediaRuntimeState) (log : List SectionEvent) : Prop where
  source : SourceInvariant m log
  holds : m.primarySequenceNumbers.Holds (cachedNumbers log)

namespace CacheInvariant

theorem lose {m after : MediaRuntimeState} {log : List SectionEvent} (h : CacheInvariant m log)
    (hsource : after.primarySource = (none, none, 0)) (hanchor : after.sourceTimestampAnchor = none)
    (hcache : after.primarySequenceNumbers = {}) :
    CacheInvariant after (changeEvents m after ++ log) := by
  have hafter := h.source.lose hsource hanchor
  refine ⟨hafter, ?_⟩
  rw [hcache, cachedNumbers_of_silent (hafter.silent (congrArg Prod.fst hsource))]
  exact SequenceNumberCache.holds_empty

theorem rules : SectionRules CacheInvariant where
  fresh mapping := ⟨SourceInvariant.rules.fresh mapping, SequenceNumberCache.holds_empty⟩
  moved h := ⟨SourceInvariant.rules.moved h.source, SequenceNumberCache.holds_empty⟩
  adopt {m log} sameSource mapping hcontinues h := by
    have hsource := SourceInvariant.rules.adopt sameSource hcontinues h.source
    obtain ⟨initialized, next, heq | heq⟩ := adopt_cases m sameSource mapping
    · rw [heq] at hsource ⊢
      rw [changeEvents_eq_nil (by rfl)] at hsource ⊢
      exact ⟨hsource, h.holds⟩
    · rw [heq]
      exact h.lose rfl rfl rfl
  clear h := h.lose rfl rfl rfl
  allocate h := ⟨SourceInvariant.rules.allocate h.source, h.holds⟩

/-- Binding a source keeps the cache or begins with an empty one. -/
theorem bound {bindings : AssocMap UInt32 SourceSsrcBinding} {parsed : ParsedRtpPacket}
    {resolved : ResolvedMedia} {bound : BoundSource} {log : List SectionEvent}
    (h : CacheInvariant resolved.current log)
    (hbind : bindSource bindings parsed resolved = some bound) :
    bound.current.primarySequenceNumbers.Holds
      (cachedNumbers (changeEvents resolved.current bound.current ++ log)) := by
  rcases bindSource_cases h.source.anchored hbind with ⟨-, -, rtxSsrc, heq⟩ | ⟨-, hchanged, heq⟩
  · rw [heq, changeEvents_eq_nil (by rfl)]
    exact h.holds
  · rw [heq, begin_changeEvents hchanged rfl]
    exact SequenceNumberCache.holds_empty

/-- A primary packet which is handed out has other numbers than those in the cache. -/
theorem not_repeated {r : SectionRun} {packet : List UInt8} {transportSequenceNumber : UInt16}
    (hfresh : repeatsNumbers r (.rewrite packet transportSequenceNumber) = false)
    {parsed : ParsedRtpPacket} {resolved : ResolvedMedia} {bound : BoundSource}
    {log : List SectionEvent} (hparse : parseRewriteableRtpPacket packet = .ok parsed)
    (hresolve : r.rewriter.resolve parsed = some resolved)
    (hbind : bindSource r.rewriter.bindings parsed resolved = some bound)
    (hlog : r.logs[resolved.mediaIndex]? = some log) (h : CacheInvariant resolved.current log)
    (hrtx : resolved.payloadType.rtx = false)
    (hok : (emit bound packet parsed resolved.payloadType transportSequenceNumber
      none).2.isOk = true) :
    (parsed.header.sequenceNumber, bound.current.sequenceNumber resolved.payloadType.rtx) ∉
      cachedNumbers (changeEvents resolved.current bound.current ++ log) := by
  rcases bindSource_cases h.source.anchored hbind with
    ⟨-, hsame, rtxSsrc, heq⟩ | ⟨-, hchanged, heq⟩
  · cases hresult : (emit bound packet parsed resolved.payloadType transportSequenceNumber
        none).2 with
    | error e =>
        rw [hresult] at hok
        cases hok
    | ok result =>
        obtain ⟨block, -, hblock, -⟩ := emit_result hresult
        have hmapping : bound.current.mapping = resolved.current.mapping := by rw [heq]
        rw [hmapping] at hblock
        simp only [repeatsNumbers, hparse, hresolve, hrtx, hsame hrtx, hblock, Except.isOk,
          Except.toBool, Bool.not_false, Bool.true_and, decide_eq_false_iff_not,
          List.getD_eq_getElem?_getD, hlog, Option.getD_some] at hfresh
        rw [heq, changeEvents_eq_nil (by rfl), hrtx]
        exact hfresh
  · rw [heq, begin_changeEvents hchanged rfl]
    exact List.not_mem_nil

/-- A call keeps the cache when it does not repeat the numbers of a packet in it. -/
theorem rewrite {r : SectionRun} {packet : List UInt8} {transportSequenceNumber : UInt16}
    (hfresh : repeatsNumbers r (.rewrite packet transportSequenceNumber) = false) :
    RewriteKeeps CacheInvariant r packet transportSequenceNumber := by
  intro parsed resolved bound log hparse hresolve hbind hcall hlog h
  have hsource := SourceInvariant.rewrite r packet transportSequenceNumber parsed resolved bound
    log hparse hresolve hbind hcall hlog h.source
  refine ⟨hsource, ?_⟩
  have hbound := h.bound hbind
  have hanchor := (h.source.bound hbind).2.1
  rcases rewriteBound_cases bound packet parsed resolved.payloadType transportSequenceNumber with
    ⟨hcurrent, hnone, -⟩ | ⟨original, hrtx, -, -, hemit⟩
  · rw [sentEvents_noPacket hnone, hcurrent, List.nil_append]
    exact hbound
  · rw [hemit, changeEvents_congr (emit_advanced _ _ _ _ _ _ hanchor).primarySource,
      sentEvents_emit hanchor, emit_cache _ _ _ _ _ _ hanchor]
    cases hok : (emit bound packet parsed resolved.payloadType transportSequenceNumber
        original).2.isOk with
    | false => simpa using hbound
    | true =>
        cases original with
        | some number =>
            rw [if_pos rfl, List.singleton_append, cachedNumbers_rtx hrtx]
            simpa using hbound
        | none =>
            rw [if_pos rfl, List.singleton_append, cachedNumbers_primary hrtx, if_pos ⟨rfl, rfl⟩]
            refine hbound.remember (cachedNumbers_length _) ?_
            exact not_repeated hfresh hparse hresolve hbind hlog h hrtx hok

end CacheInvariant

/-! ## RTX packets -/

theorem lookup_numbers (packets : List SentPacket) (source : UInt16) :
    (packets.map SentPacket.numbers).lookup source =
      (packets.find? fun p => decide (p.sourceSequenceNumber = source)).map
        SentPacket.targetSequenceNumber := by
  induction packets with
  | nil => rfl
  | cons p packets ih =>
      rw [List.map_cons, SentPacket.numbers, List.lookup_cons, List.find?_cons, ih]
      by_cases heq : source = p.sourceSequenceNumber
      · simp [heq]
      · simp [beq_false_of_ne heq, Ne.symm heq]

/-- The newest of the last packets is the newest of all. -/
theorem newest_of_recent {log : List SectionEvent} {source : UInt16} {primary : SentPacket}
    (h : recentPrimary log source = some primary) : newestPrimary log source = some primary := by
  have hsplit := List.take_append_drop kSequenceCacheLimit (primaryPackets log)
  unfold recentPrimary at h
  rw [newestPrimary, ← hsplit, List.find?_append, h]
  rfl

/-- The number written into an RTX packet stands where its payload begins. -/
theorem writtenOriginal_emit {packet : List UInt8} {parsed : ParsedRtpPacket}
    (hparse : parseRewriteableRtpPacket packet = .ok parsed) {bound : BoundSource}
    {payloadType : PayloadTypeMapping} {transportSequenceNumber number : UInt16}
    (hsize : 2 ≤ parsed.payloadDataSize) {result : RewriteResult}
    (h : (emit bound packet parsed payloadType transportSequenceNumber (some number)).2 =
      .ok result) : writtenOriginal packet parsed result = number := by
  obtain ⟨block, targetTimestamp, -, rfl⟩ := emit_result h
  obtain ⟨head, sourceBlock, tail, elements, paddingSize, rfl, hwf, rfl⟩ :=
    assembled_of_parse hparse
  have h12 : 12 ≤ head.length := hwf.headLength ▸ baseHeaderSize_ge head
  have htail : 2 ≤ tail.length := by
    have hle : 2 ≤ tail.length - paddingSize := hsize
    omega
  simp only [writtenOriginal, rewrittenResult]
  rw [assemblePacket_eq h12]
  have hoffset : (rewrittenHead head block payloadType.targetPayloadType
      (bound.current.sequenceNumber payloadType.rtx) targetTimestamp
      (targetSsrcOf bound.current.mapping payloadType.rtx) ++ block ++
        rewrittenTail tail (some number)).length -
      ((head ++ sourceBlock ++ tail).length -
        (reportOf head sourceBlock tail elements paddingSize).payloadOffset) =
      (rewrittenHead head block payloadType.targetPayloadType
        (bound.current.sequenceNumber payloadType.rtx) targetTimestamp
        (targetSsrcOf bound.current.mapping payloadType.rtx) ++ block).length + 0 := by
    simp only [List.length_append, rewrittenTail_length, rewrittenHead_length, reportOf]
    omega
  rw [hoffset, readU16_append_right]
  exact readU16_writeU16 number (by omega)

theorem CacheInvariant.find {current : MediaRuntimeState} {log : List SectionEvent}
    (h : CacheInvariant current log) (source : UInt16) :
    current.primarySequenceNumbers.find source =
      (recentPrimary log source).map SentPacket.targetSequenceNumber := by
  rw [h.holds.values, cachedNumbers, lookup_numbers]
  rfl

theorem other_reasons : ∀ reason ∈ [[], ascii "publisher source is unavailable",
    ascii "source rtx arrived before primary media", ascii "target ssrc is missing",
    ascii "source rtx payload is shorter than original sequence number"],
    reason ≠ ascii "source rtx original sequence number is not cached" := by decide +kernel

/-- An RTX packet which repeats a recent packet is not dropped for its number. -/
theorem rewriteBound_cached {bindings : AssocMap UInt32 SourceSsrcBinding} {packet : List UInt8}
    {parsed : ParsedRtpPacket} {resolved : ResolvedMedia} {bound : BoundSource}
    (hbind : bindSource bindings parsed resolved = some bound)
    (hrtx : resolved.payloadType.rtx = true) {log : List SectionEvent}
    (h : CacheInvariant resolved.current log)
    (hrecent : (recentPrimary log (readU16 packet parsed.payloadOffset)).isSome = true)
    {transportSequenceNumber : UInt16} {result : RewriteResult}
    (hresult : (rewriteBound bound packet parsed resolved.payloadType
      transportSequenceNumber).2 = .ok result) :
    result.reason ≠ ascii "source rtx original sequence number is not cached" := by
  rcases bindSource_cases h.source.anchored hbind with ⟨-, -, rtxSsrc, heq⟩ | ⟨hprimary, -, -⟩
  · have hfind := h.find (readU16 packet parsed.payloadOffset)
    have hcache : bound.current.primarySequenceNumbers =
        resolved.current.primarySequenceNumbers := by rw [heq]
    rw [← hcache] at hfind
    unfold rewriteBound rtxOriginal at hresult
    rw [hrtx, if_pos rfl, hfind] at hresult
    cases hnewest : recentPrimary log (readU16 packet parsed.payloadOffset) with
    | none =>
        rw [hnewest] at hrecent
        cases hrecent
    | some primary =>
        simp only [hnewest, Option.map_some] at hresult
        split_ifs at hresult with hmissing hshort
        · rw [← Except.ok.inj hresult]
          exact other_reasons _ (by simp [makeDropResult])
        · rw [← Except.ok.inj hresult]
          exact other_reasons _ (by simp [makeDropResult])
        · obtain ⟨block, targetTimestamp, -, rfl⟩ := emit_result hresult
          exact other_reasons _ (by simp [rewrittenResult])
  · rw [hrtx] at hprimary
    cases hprimary

namespace SectionRun

/-- RTX packets of the source are translated to the packet the subscriber got, in every run
which never repeats the numbers of a cached packet. -/
theorem run_rtx_translated {operations : List Operation} {r : SectionRun}
    (h : (system.restrict fun r operation => repeatsNumbers r operation = false).Run
      operations r) : RtxTranslated r := by
  have hsections : r.Sections CacheInvariant :=
    run_sections CacheInvariant.rules (fun _ _ _ hfresh => CacheInvariant.rewrite hfresh) h
  constructor
  · intro packet transportSequenceNumber result hresult hstate hrtx
    rcases r.rewriter.rewrite_cases packet transportSequenceNumber with ⟨-, hnone⟩ |
      ⟨parsed, resolved, bound, hparse, hresolve, hbind, heq⟩
    · rw [hresult] at hnone
      have hdropped : result.state = .dropped := hnone
      rw [hstate] at hdropped
      cases hdropped
    · rw [heq] at hresult
      obtain ⟨log, hlog, hinv⟩ := hsections.resolved hresolve
      obtain ⟨hsome, hsize, hemit⟩ := rewriteBound_emits hbind hresult hstate
      have hpayloadType : resolved.payloadType.rtx = true := by
        obtain ⟨block, targetTimestamp, -, hfields⟩ := emit_result hemit
        rw [hfields] at hrtx
        exact hrtx
      have horiginal : mappedOriginal resolved.current resolved.payloadType.rtx packet parsed =
          (recentPrimary log (readU16 packet parsed.payloadOffset)).map
            SentPacket.targetSequenceNumber := by
        rw [mappedOriginal, hpayloadType, if_pos rfl]
        exact hinv.find _
      rw [horiginal] at hsome hsize hemit
      cases hprimary : recentPrimary log (readU16 packet parsed.payloadOffset) with
      | none =>
          rw [hprimary, hpayloadType] at hsome
          cases hsome
      | some primary =>
          rw [hprimary] at hemit hsize
          exact ⟨parsed, resolved, log, primary, hparse, hresolve, hlog,
            newest_of_recent hprimary, hprimary, writtenOriginal_emit hparse (hsize rfl) hemit⟩
  · intro packet transportSequenceNumber parsed resolved log result hparse hresolve hrtx hlog
      hrecent hresult
    obtain ⟨log', hlog', hinv⟩ := hsections.resolved hresolve
    obtain rfl : log = log' := Option.some.inj (hlog.symm.trans hlog')
    simp only [Impl.rewrite, hparse, hresolve] at hresult
    split_ifs at hresult with hoff
    · rw [← Except.ok.inj hresult]
      exact other_reasons _ (by simp [makeDropResult])
    · simp only [Impl.rewriteResolved] at hresult
      cases hbind : bindSource r.rewriter.bindings parsed resolved with
      | none =>
          rw [hbind] at hresult
          rw [← Except.ok.inj hresult]
          exact other_reasons _ (by simp [makeDropResult])
      | some bound =>
          rw [hbind] at hresult
          exact rewriteBound_cached hbind hrtx hinv hrecent hresult

end SectionRun

/-! ## A pair of numbers given twice -/

/-- A primary packet at the newest timestamp moves a section by one number. -/
theorem emit_newest {bound : BoundSource} {packet : List UInt8} {parsed : ParsedRtpPacket}
    {payloadType : PayloadTypeMapping} {transportSequenceNumber : UInt16}
    (hanchor : bound.current.sourceTimestampAnchor.isSome = true)
    (hrtx : payloadType.rtx = false)
    (hlast : bound.current.timestampOf parsed.header.timestamp =
      bound.current.lastTargetTimestamp) :
    emit bound packet parsed payloadType transportSequenceNumber none =
      let next : MediaRuntimeState :=
        { bound.current with
          primarySequenceInitialized := true
          nextPrimarySequenceNumber := bound.current.sequenceNumber false + 1 }
      match extensionBlockFor parsed bound.current.mapping transportSequenceNumber with
      | .error e => (next, .error e)
      | .ok block =>
          ({ next with
              primarySequenceNumbers := next.primarySequenceNumbers.remember
                parsed.header.sequenceNumber (bound.current.sequenceNumber false) },
            .ok (rewrittenResult bound packet parsed payloadType transportSequenceNumber none
              block (bound.current.sequenceNumber false) bound.current.lastTargetTimestamp)) := by
  have hself : newerTimestamp bound.current.lastTargetTimestamp
      bound.current.lastTargetTimestamp = bound.current.lastTargetTimestamp := by
    unfold newerTimestamp
    split_ifs <;> rfl
  have htranslate : (bound.current.allocateSequenceNumber false).2.translateTimestamp
      parsed.header.timestamp = (bound.current.lastTargetTimestamp,
        { bound.current with
          primarySequenceInitialized := true
          nextPrimarySequenceNumber := bound.current.sequenceNumber false + 1 }) := by
    have hallocated : (bound.current.allocateSequenceNumber
        false).2.sourceTimestampAnchor.isSome = true := hanchor
    rw [translateTimestamp_anchored hallocated]
    have hof : (bound.current.allocateSequenceNumber false).2.timestampOf
        parsed.header.timestamp = bound.current.lastTargetTimestamp := hlast
    have hsame : (bound.current.allocateSequenceNumber false).2.lastTargetTimestamp =
        bound.current.lastTargetTimestamp := rfl
    rw [hof, hsame, hself]
    rfl
  simp only [emit, hrtx]
  rw [htranslate]
  rfl

def rtxMapping : MediaMapping where
  kind := ascii "video"
  sourceMid := ascii "0"
  targetMid := ascii "0"
  targetSsrc := 0x10005
  targetRtxSsrc := 0x20005
  payloadTypes := [{ sourcePayloadType := 96
                     targetPayloadType := 96
                     clockRate := 90000
                     codecName := ascii "VP8"
                     nack := true },
                   { sourcePayloadType := 97
                     targetPayloadType := 97
                     clockRate := 90000
                     codecName := ascii "rtx"
                     rtx := true
                     sourceAssociatedPayloadType := 96
                     targetAssociatedPayloadType := 96 }]
  headerExtensions := [{ sourceId := 1, targetId := 1, uri := ascii "urn:3gpp:video-orientation" }]

def rtxConfig : RewriterConfig := ⟨ascii "publisher", [rtxMapping]⟩

/-- A primary packet with this sequence number. -/
def primaryPacket (number : UInt8) : List UInt8 := [0x80, 96, 0, number, 0, 0, 0, 100, 0, 0, 0, 9, 1]

/-- A primary packet whose extension has an empty value, which the one-byte format cannot carry. -/
def refusedPacket : List UInt8 :=
  [0x90, 96, 0, 5, 0, 0, 0, 100, 0, 0, 0, 9, 0x10, 0, 0, 1, 1, 0, 0, 0, 1]

def rtxPacket : List UInt8 := [0x80, 97, 0, 1, 0, 0, 0, 100, 0, 0, 0, 8, 0, 5, 1]

def fedSection (next : UInt16) (cache : SequenceNumberCache) : MediaRuntimeState where
  mapping := rtxMapping
  sourcePrimarySsrc := some 9
  sourcePrimaryPayloadType := some 96
  sourceClockRate := 90000
  primarySequenceInitialized := true
  nextPrimarySequenceNumber := next
  timestampInitialized := true
  lastTargetTimestamp := 100 + makeInitialTimestampOffset 0x10005
  sourceTimestampAnchor := some 100
  targetTimestampAnchor := 100 + makeInitialTimestampOffset 0x10005
  primarySequenceNumbers := cache

def fedRewriter (next : UInt16) (cache : SequenceNumberCache) : Impl where
  media := [fedSection next cache]
  bindings := AssocMap.empty.insertOrAssign 9 ⟨0, false⟩
  sourceSessionId := ascii "publisher"
  sourceAvailable := true

def vp8Mapping : PayloadTypeMapping where
  sourcePayloadType := 96
  targetPayloadType := 96
  clockRate := 90000
  codecName := ascii "VP8"
  nack := true

theorem fed_call {packet : List UInt8} {parsed : ParsedRtpPacket}
    (hparse : parseRewriteableRtpPacket packet = .ok parsed)
    (hpayloadType : parsed.header.payloadType = 96) (htimestamp : parsed.header.timestamp = 100)
    (hssrc : parsed.header.ssrc = 9) (next : UInt16) (cache : SequenceNumberCache) :
    (fedRewriter next cache).rewrite packet 0 =
      match extensionBlockFor parsed rtxMapping 0 with
      | .error e => (fedRewriter (next + 1) cache, .error e)
      | .ok block => (fedRewriter (next + 1) (cache.remember parsed.header.sequenceNumber next),
          .ok (rewrittenResult ⟨fedSection next cache, (fedRewriter next cache).bindings, false⟩
            packet parsed vp8Mapping 0 none block next
            (fedSection next cache).lastTargetTimestamp)) := by
  have hresolve : (fedRewriter next cache).resolve parsed =
      some ⟨0, fedSection next cache, vp8Mapping⟩ := by
    simp only [Impl.resolve, Impl.resolveBinding, hssrc, hpayloadType]
    rfl
  have hbind : bindSource (fedRewriter next cache).bindings parsed
      ⟨0, fedSection next cache, vp8Mapping⟩ =
      some ⟨fedSection next cache, (fedRewriter next cache).bindings, false⟩ := by
    simp only [bindSource, bindPrimary, sourceChanged, hssrc, hpayloadType]
    rfl
  have hon : ¬((fedRewriter next cache).sourceAvailable = false ∨
    (fedRewriter next cache).media = []) := by simp [fedRewriter]
  have hlast : (fedSection next cache).timestampOf parsed.header.timestamp =
      (fedSection next cache).lastTargetTimestamp := by
    rw [htimestamp]
    show 100 + makeInitialTimestampOffset 0x10005 + (100 - 100) = _
    simp [fedSection]
  have htarget : ¬targetSsrcOf (fedSection next cache).mapping vp8Mapping.rtx = 0 := by
    show ¬(0x10005 : UInt32) = 0
    decide
  simp only [Impl.rewrite, hparse, if_neg hon, hresolve, Impl.rewriteResolved, hbind, rewriteBound]
  rw [if_neg htarget, if_neg (by decide), emit_newest rfl rfl hlast]
  have hmapping : (fedSection next cache).mapping = rtxMapping := rfl
  simp only [hmapping]
  cases extensionBlockFor parsed rtxMapping 0 with
  | error e => rfl
  | ok block => rfl

def sentPrimary (source target : UInt16) : SentPacket where
  rtx := false
  sourceSequenceNumber := source
  targetSequenceNumber := target
  sourceTimestamp := 100
  targetTimestamp := 100 + makeInitialTimestampOffset 0x10005
  clockRate := 90000

/-- A run of one section, fed by a primary source. -/
def fedRun (next : UInt16) (cache : SequenceNumberCache) (log : List SectionEvent) : SectionRun :=
  ⟨fedRewriter next cache, [log]⟩

theorem fedRun_step {packet : List UInt8} {parsed : ParsedRtpPacket}
    (hparse : parseRewriteableRtpPacket packet = .ok parsed)
    (hpayloadType : parsed.header.payloadType = 96) (htimestamp : parsed.header.timestamp = 100)
    (hssrc : parsed.header.ssrc = 9) (next : UInt16) (cache : SequenceNumberCache)
    (log : List SectionEvent) :
    (fedRun next cache log).step (.rewrite packet 0) =
      match extensionBlockFor parsed rtxMapping 0 with
      | .error _ => some (fedRun (next + 1) cache log)
      | .ok _ => some (fedRun (next + 1) (cache.remember parsed.header.sequenceNumber next)
          (.sent (sentPrimary parsed.header.sequenceNumber next) :: log)) := by
  have hcall := fed_call hparse hpayloadType htimestamp hssrc next cache
  have hresolve : (fedRewriter next cache).resolve parsed =
      some ⟨0, fedSection next cache, vp8Mapping⟩ := by
    simp only [Impl.resolve, Impl.resolveBinding, hssrc, hpayloadType]
    rfl
  have hevents : ∀ result, (fedRewriter next cache).callEvents packet result 0 =
      sentEvents vp8Mapping result := by
    intro result
    simp [Impl.callEvents, hparse, hresolve]
  have hkeep : ∀ cache', changeEvents (fedSection next cache) (fedSection (next + 1) cache') = [] :=
    fun cache' => changeEvents_eq_nil rfl
  have hstep : ∀ cache' result, (fedRewriter next cache).rewrite packet 0 =
      (fedRewriter (next + 1) cache', result) → (fedRun next cache log).step (.rewrite packet 0) =
      some (fedRun (next + 1) cache' (sentEvents vp8Mapping result ++ log)) := by
    intro cache' result heq
    simp only [SectionRun.step, fedRun, heq, List.mapIdx_cons, List.mapIdx_nil, extendLog,
      hevents]
    simp only [fedRewriter, List.getElem?_cons_zero, hkeep, List.nil_append]
  cases hextension : extensionBlockFor parsed rtxMapping 0 with
  | error e =>
      rw [hextension] at hcall
      exact hstep _ _ hcall
  | ok block =>
      rw [hextension] at hcall
      rw [hstep _ _ hcall]
      simp only [sentEvents, rewrittenResult, hssrc, htimestamp]
      rfl
 
def refusedParsed : ParsedRtpPacket where
  header := { payloadType := 96, sequenceNumber := 5, timestamp := 100, ssrc := 9, marker := false }
  padding := false
  baseHeaderSize := 12
  payloadOffset := 20
  payloadDataSize := 1
  headerExtensions := [⟨1, []⟩]

theorem fedRun_refused (next : UInt16) (cache : SequenceNumberCache) (log : List SectionEvent) :
    (fedRun next cache log).step (.rewrite refusedPacket 0) =
      some (fedRun (next + 1) cache log) := by
  have hparse : parseRewriteableRtpPacket refusedPacket = .ok refusedParsed := by decide +kernel
  have hrefused : (extensionBlockFor refusedParsed rtxMapping 0).isOk = false := by decide +kernel
  rw [fedRun_step hparse rfl rfl rfl]
  cases hblock : extensionBlockFor refusedParsed rtxMapping 0 with
  | error e => rfl
  | ok block =>
      rw [hblock] at hrefused
      cases hrefused

def primaryParsed (number : UInt16) : ParsedRtpPacket where
  header := { payloadType := 96, sequenceNumber := number, timestamp := 100, ssrc := 9, marker := false }
  padding := false
  baseHeaderSize := 12
  payloadOffset := 12
  payloadDataSize := 1
  headerExtensions := []

theorem fedRun_primary {packet : List UInt8} {number : UInt16}
    (hparse : parseRewriteableRtpPacket packet = .ok (primaryParsed number)) (next : UInt16)
    (cache : SequenceNumberCache) (log : List SectionEvent) :
    (fedRun next cache log).step (.rewrite packet 0) =
      some (fedRun (next + 1) (cache.remember number next)
        (.sent (sentPrimary number next) :: log)) := by
  rw [fedRun_step hparse rfl rfl rfl]
  rfl

theorem fedRun_numbers {operations : List Operation} {next : UInt16}
    {cache : SequenceNumberCache} {log : List SectionEvent}
    (h : SectionRun.system.Run operations (fedRun next cache log)) (k : ℕ) :
    ∃ operations', SectionRun.system.Run operations'
      (fedRun (next + UInt16.ofNat k) cache log) := by
  induction k with
  | zero => exact ⟨operations, by simpa using h⟩
  | succ k ih =>
      obtain ⟨operations', h'⟩ := ih
      have hnext : next + UInt16.ofNat (k + 1) = next + UInt16.ofNat k + 1 := by
        rw [UInt16.ofNat_add, UInt16.add_assoc]
        rfl
      rw [hnext]
      exact ⟨_, .step h' (fedRun_refused _ _ _)⟩

/-- A cache which holds one pair twice, with packets sent after it. -/
structure HoldsTwice (k : ℕ) (cache : SequenceNumberCache) (log : List SectionEvent) : Prop where
  order : ∃ later, cache.order = (5, 4) :: (5, 4) :: later ∧ later.length = k
  value : cache.values.find? 5 = some 4
  packets : ∃ later, primaryPackets log =
    later ++ [sentPrimary 5 4, sentPrimary 5 4] ∧ later.length = k

theorem parse_first : parseRewriteableRtpPacket (primaryPacket 5) = .ok (primaryParsed 5) := by
  decide +kernel

theorem parse_later : parseRewriteableRtpPacket (primaryPacket 6) = .ok (primaryParsed 6) := by
  decide +kernel

theorem holdsTwice_run {k : ℕ} (hk : k ≤ 4094) :
    ∃ operations next cache log, SectionRun.system.Run operations (fedRun next cache log) ∧
      HoldsTwice k cache log := by
  induction k with
  | zero =>
      have hstart : SectionRun.system.Run [.setConfig rtxConfig, .rewrite (primaryPacket 5) 0]
          (fedRun 5 (SequenceNumberCache.remember {} 5 4)
            [.sent (sentPrimary 5 4), .sourceChanged]) := by
        have hempty : SectionRun.system.Run [] {} := .start rfl
        exact hempty.exec (by decide +kernel)
      obtain ⟨operations, hrun⟩ := fedRun_numbers hstart 65535
      exact ⟨_, _, _, _, .step hrun (fedRun_primary parse_first _ _ _),
        ⟨[], by decide +kernel, rfl⟩, by decide +kernel, ⟨[], by decide +kernel, rfl⟩⟩
  | succ k ih =>
      obtain ⟨operations, next, cache, log, hrun, htwice⟩ := ih (by omega)
      obtain ⟨later, horder, hlater⟩ := htwice.order
      obtain ⟨packets, hpackets, hlength⟩ := htwice.packets
      have hroom : (cache.order ++ [(6, next)]).length ≤ kSequenceCacheLimit := by
        rw [horder]
        simp only [List.cons_append, List.length_cons, List.length_append, List.length_nil, hlater]
        unfold kSequenceCacheLimit
        omega
      have hremember : cache.remember 6 next =
          ⟨cache.values.insertOrAssign 6 next, cache.order ++ [(6, next)]⟩ :=
        SequenceNumberCache.evict_of_le hroom
      refine ⟨_, _, _, _, .step hrun (fedRun_primary parse_later _ _ _), ?_⟩
      rw [hremember]
      refine ⟨⟨later ++ [(6, next)], by rw [horder]; rfl, by simp [hlater]⟩, ?_,
        ⟨sentPrimary 6 next :: packets, ?_, by simp [hlength]⟩⟩
      · rw [AssocMap.find?_insertOrAssign, if_neg (by decide)]
        exact htwice.value
      · simp only [primaryPackets, sinceChange] at hpackets ⊢
        simp [sentPrimary, hpackets]

def rtxParsed : ParsedRtpPacket where
  header := { payloadType := 97, sequenceNumber := 1, timestamp := 100, ssrc := 8, marker := false }
  padding := false
  baseHeaderSize := 12
  payloadOffset := 12
  payloadDataSize := 3
  headerExtensions := []

def repairMapping : PayloadTypeMapping where
  sourcePayloadType := 97
  targetPayloadType := 97
  clockRate := 90000
  codecName := ascii "rtx"
  rtx := true
  sourceAssociatedPayloadType := 96
  targetAssociatedPayloadType := 96

theorem parse_rtx : parseRewriteableRtpPacket rtxPacket = .ok rtxParsed := by decide +kernel

theorem fed_rtx (next : UInt16) {cache : SequenceNumberCache} (h : cache.find 5 = none) :
    (fedRewriter next cache).resolve rtxParsed = some ⟨0, fedSection next cache, repairMapping⟩ ∧
      ((fedRewriter next cache).rewrite rtxPacket 0).2 = .ok (makeDropResult rtxParsed
        (ascii "source rtx original sequence number is not cached")) := by
  have hresolve : (fedRewriter next cache).resolve rtxParsed =
      some ⟨0, fedSection next cache, repairMapping⟩ := rfl
  have hnumber : readU16 rtxPacket rtxParsed.payloadOffset = 5 := by decide +kernel
  have hon : ¬((fedRewriter next cache).sourceAvailable = false ∨
    (fedRewriter next cache).media = []) := by simp [fedRewriter]
  refine ⟨hresolve, ?_⟩
  simp only [Impl.rewrite, parse_rtx, if_neg hon, hresolve, Impl.rewriteResolved]
  have hbind : bindSource (fedRewriter next cache).bindings rtxParsed
      ⟨0, fedSection next cache, repairMapping⟩ =
      some ⟨{ fedSection next cache with sourceRtxSsrc := some 8 },
        (fedRewriter next cache).bindings.insertOrAssign 8 ⟨0, true⟩, false⟩ := rfl
  rw [hbind]
  have htarget : ¬targetSsrcOf (fedSection next cache).mapping repairMapping.rtx = 0 := by
    show ¬(0x20005 : UInt32) = 0
    decide
  have hfind : (fedSection next cache).primarySequenceNumbers.find
      (readU16 rtxPacket rtxParsed.payloadOffset) = none := by
    rw [hnumber]
    exact h
  simp only [rewriteBound, rtxOriginal]
  rw [if_neg htarget, if_pos (by decide), if_neg (by decide)]
  simp only [hfind]

def translatedRun : SectionRun :=
  ([.setConfig rtxConfig, .rewrite (primaryPacket 5) 0, .rewrite rtxPacket 1].foldlM
    SectionRun.step {}).getD {}

theorem run_rtx_translated_once : RtxTranslated translatedRun := by
  have hrun : (SectionRun.system.restrict fun r operation => repeatsNumbers r operation =
      false).Run [.setConfig rtxConfig, .rewrite (primaryPacket 5) 0, .rewrite rtxPacket 1]
      translatedRun := EventSystem.run_of_exec_restrict rfl (by decide +kernel)
  exact SectionRun.run_rtx_translated hrun

/-- The second packet with the pair is among the last ones, and its entry is gone. -/
theorem rtx_not_translated :
    ¬ ∀ (operations : List Operation) (r : SectionRun), SectionRun.system.Run operations r →
      RtxTranslated r := by
  intro hall
  obtain ⟨operations, next, cache, log, hrun, htwice⟩ := holdsTwice_run (Nat.le_refl 4094)
  obtain ⟨later, horder, hlater⟩ := htwice.order
  obtain ⟨packets, hpackets, hlength⟩ := htwice.packets
  have hlast := hall _ _ (.step hrun (fedRun_primary parse_later next cache log))
  have hgone : (cache.remember 6 next).find 5 = none := by
    have hinsert : (cache.values.insertOrAssign 6 next).find? 5 = some 4 := by
      rw [AssocMap.find?_insertOrAssign, if_neg (by decide)]
      exact htwice.value
    have hfull : kSequenceCacheLimit < (((5, 4) :: later) ++ [(6, next)]).length + 1 := by
      simp only [List.cons_append, List.length_cons, List.length_append, List.length_nil, hlater]
      unfold kSequenceCacheLimit
      omega
    have hroom : (((5, 4) :: later) ++ [(6, next)]).length ≤ kSequenceCacheLimit := by
      simp only [List.cons_append, List.length_cons, List.length_append, List.length_nil, hlater]
      unfold kSequenceCacheLimit
      omega
    rw [SequenceNumberCache.remember, horder, List.cons_append, SequenceNumberCache.evict,
      if_pos hfull, SequenceNumberCache.evict_of_le hroom, SequenceNumberCache.find]
    simp only [hinsert, if_true, AssocMap.find?_erase_self]
  obtain ⟨hresolve, hresult⟩ := fed_rtx (next + 1) hgone
  have hnumber : readU16 rtxPacket rtxParsed.payloadOffset = 5 := by decide +kernel
  refine hlast.cached rtxPacket 0 rtxParsed _ _ _ parse_rtx hresolve rfl rfl ?_ hresult rfl
  rw [hnumber, recentPrimary, List.find?_isSome]
  have hnewest : primaryPackets (.sent (sentPrimary 6 next) :: log) =
      (sentPrimary 6 next :: packets ++ [sentPrimary 5 4]) ++ [sentPrimary 5 4] := by
    simp only [primaryPackets, sinceChange] at hpackets ⊢
    simp [sentPrimary, hpackets]
  rw [hnewest, List.take_left' (by simp [hlength, kSequenceCacheLimit])]
  exact ⟨sentPrimary 5 4, by simp, rfl⟩

end SimpleWebrtc.RtpRewriter
