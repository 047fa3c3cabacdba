import SimpleWebrtc.Library.Traces
import SimpleWebrtc.OutboundPackets
import SimpleWebrtc.RetransmissionCacheRuns

/-!
# What a NACK asks for

The loop over the numbers of a compound looks one packet up after the other, in
a cache which it prunes and marks on its way. It finds what the cache at the
start of the loop has for the distinct numbers that can be asked for, up to a
limit.
-/
namespace SimpleWebrtc.RtpRetransmissionCache
open Library

/-! ## Looking up again -/

section
variable {now : ℤ} {c : Cache}

theorem pruneAged_of_young (hyoung : Young now c) (order : List OrderEntry) :
    ∃ order', Cache.pruneAged now c order = { c with order := order' } := by
  induction order with
  | nil => exact ⟨[], rfl⟩
  | cons oldest rest ih =>
      unfold Cache.pruneAged
      split
      · exact ih
      · rename_i e hfind
        split_ifs with hserial hage
        · exact ih
        · exact ⟨oldest :: rest, rfl⟩
        · exact absurd (hyoung _ e hfind) hage

/-- Where nothing is too old or too much, pruning leaves every packet. -/
theorem prune_of_settled (hyoung : Young now c) (hwithin : c.exceedsCapacity = false) :
    ∃ order, c.prune now = { c with order } := by
  obtain ⟨order, haged⟩ := pruneAged_of_young hyoung c.order
  have hcapped : ({ c with order := order } : Cache).exceedsCapacity = false := hwithin
  unfold Cache.prune Cache.aged
  rw [haged]
  unfold Cache.capped
  cases order with
  | nil => exact ⟨[], rfl⟩
  | cons oldest rest =>
      unfold Cache.pruneExcess
      rw [hcapped]
      exact ⟨oldest :: rest, rfl⟩

theorem prune_config (c : Cache) (now : ℤ) : (c.prune now).config = c.config :=
  pruneSteps_config (prune_steps now c)

/-- What is looked up in a cache, whatever else is marked at the same time. -/
def Cache.answer (c : Cache) (now : ℤ) (ssrc : UInt32) (seq : UInt16) : Option CachePacket :=
  ((c.prune now).entries.find? (makeKey ssrc seq)).bind fun cached =>
    if (c.prune now).suppresses now cached then none else some cached.packet

theorem answer_key (h : Accounted now c) {ssrc : UInt32} {seq : UInt16} {packet : CachePacket}
    (hpacket : c.answer now ssrc seq = some packet) :
    packet.targetSsrc = ssrc ∧ packet.targetSequenceNumber = seq := by
  obtain ⟨cached, hfind, hcached⟩ := Option.bind_eq_some_iff.mp hpacket
  split_ifs at hcached
  obtain rfl := Option.some.inj hcached
  obtain ⟨hssrc, hseq⟩ := makeKey_injective (h.prune.keyed _ _ hfind)
  exact ⟨hssrc.symm, hseq.symm⟩

theorem suppresses_congr {c c' : Cache} (h : c.config = c'.config) (cached : CacheEntry) :
    c.suppresses now cached = c'.suppresses now cached := by
  unfold Cache.suppresses
  rw [h]

/-- A lookup answers, and marks the packet it found. -/
theorem lookup_answer (c : Cache) (now : ℤ) (ssrc : UInt32) (seq : UInt16) :
    (c.answer now ssrc seq = none ∧
        (c.lookupForRetransmission ssrc seq now).1 = c.prune now ∧
        (c.lookupForRetransmission ssrc seq now).2.state ≠ .hit) ∨
      ∃ cached, (c.prune now).entries.find? (makeKey ssrc seq) = some cached ∧
        c.answer now ssrc seq = some cached.packet ∧
        c.lookupForRetransmission ssrc seq now =
          ((c.prune now).touched (makeKey ssrc seq) cached now,
            { state := .hit, packet := some cached.packet }) := by
  unfold Cache.lookupForRetransmission Cache.answer
  dsimp only
  cases hfind : (c.prune now).entries.find? (makeKey ssrc seq) with
  | none => exact .inl ⟨rfl, rfl, LookupState.noConfusion⟩
  | some cached =>
      dsimp only
      split_ifs with hsuppress
      · exact .inl ⟨by simp [hsuppress], rfl, LookupState.noConfusion⟩
      · exact .inr ⟨cached, rfl, by simp [hsuppress], rfl⟩

end
end SimpleWebrtc.RtpRetransmissionCache

namespace SimpleWebrtc.WhepOutbound
open Library RtpRetransmissionCache RtcpCompoundPacket MediaFanout WhepSession WhepMedia

/-! ## The requests of a compound -/

/-- The numbers a block asks for, with the SSRC it names. -/
def blockRequests (block : RtcpCompoundBlock) : List (UInt32 × UInt16) :=
  if block.hasGenericNack = false then []
  else block.nackSequenceNumbers.map fun seq => (block.feedbackMediaSsrc, seq)

def nackRequests (compound : RtcpCompoundPacket) : List (UInt32 × UInt16) :=
  compound.blocks.flatMap blockRequests

/-- The packets a cache has for distinct requests which can be answered. -/
def answered (now : ℤ) (session : WhepSessionTransport) (c : Cache)
    (requests : List (UInt32 × UInt16)) : List CachePacket :=
  (requests.eraseDups.filter fun request => nackTargetValid session request.1).filterMap
    fun request => c.answer now request.1 request.2

theorem answered_concat (now : ℤ) (session : WhepSessionTransport) (c : Cache)
    (requests : List (UInt32 × UInt16)) (ssrc : UInt32) (seq : UInt16) :
    answered now session c (requests ++ [(ssrc, seq)]) = answered now session c requests ++
      if (ssrc, seq) ∈ requests ∨ nackTargetValid session ssrc = false then []
      else (c.answer now ssrc seq).toList := by
  unfold answered
  rw [eraseDups_concat, List.filter_append, List.filterMap_append]
  congr 1
  by_cases hmem : (ssrc, seq) ∈ requests
  · rw [if_pos hmem, if_pos (.inl hmem)]
    rfl
  · rw [if_neg hmem]
    cases hvalid : nackTargetValid session ssrc with
    | false => simp [hvalid]
    | true =>
        have hfilter : ([(ssrc, seq)].filter fun request => nackTargetValid session request.1) =
            [(ssrc, seq)] := by simp [hvalid]
        rw [if_neg (by simp [hmem]), hfilter, List.filterMap_cons]
        cases c.answer now ssrc seq <;> rfl

/-- A packet that was found was asked for, of a sender which can be asked. -/
theorem mem_answered {now : ℤ} {session : WhepSessionTransport} {c : Cache}
    {requests : List (UInt32 × UInt16)} {packet : CachePacket} (haccounted : Accounted now c)
    (h : packet ∈ answered now session c requests) :
    (packet.targetSsrc, packet.targetSequenceNumber) ∈ requests ∧
      nackTargetValid session packet.targetSsrc = true ∧
      c.answer now packet.targetSsrc packet.targetSequenceNumber = some packet := by
  obtain ⟨⟨ssrc, seq⟩, hrequest, hanswer⟩ := List.mem_filterMap.mp h
  obtain ⟨hmem, hvalid⟩ := List.mem_filter.mp hrequest
  obtain ⟨rfl, rfl⟩ := answer_key haccounted hanswer
  exact ⟨List.mem_eraseDups.mp hmem, hvalid, hanswer⟩

theorem answered_nodup {now : ℤ} {session : WhepSessionTransport} {c : Cache}
    (haccounted : Accounted now c) (requests : List (UInt32 × UInt16)) :
    ((answered now session c requests).map packetKey).Nodup := by
  unfold answered
  rw [List.map_filterMap]
  refine ((nodup_eraseDups requests).filter _).filterMap ?_
  rintro ⟨ssrc, seq⟩ ⟨ssrc', seq'⟩ key hkey hkey'
  obtain ⟨packet, hanswer, hname⟩ := Option.map_eq_some_iff.mp hkey
  obtain ⟨packet', hanswer', hname'⟩ := Option.map_eq_some_iff.mp hkey'
  obtain ⟨rfl, rfl⟩ := answer_key haccounted hanswer
  obtain ⟨rfl, rfl⟩ := answer_key haccounted hanswer'
  obtain ⟨hssrc, hseq⟩ := makeKey_injective (hname.trans hname'.symm)
  rw [hssrc, hseq]

/-! ## The loop -/

/-- A packet of the cache, marked if it was found. -/
def marked (now : ℤ) (found : List CachePacket) (key : UInt64) (cached : CacheEntry) : CacheEntry :=
  if key ∈ found.map packetKey then { cached with lastRetransmittedAt := some now } else cached

theorem marked_packet (now : ℤ) (found : List CachePacket) (key : UInt64) (cached : CacheEntry) :
    (marked now found key cached).packet = cached.packet := by
  unfold marked
  split_ifs <;> rfl

theorem marked_last {now : ℤ} {found : List CachePacket} {packet : CachePacket} {key : UInt64}
    (hkey : key = packetKey packet) (cached : CacheEntry) :
    marked now (found ++ [packet]) key cached =
      { cached with lastRetransmittedAt := some now } := by
  unfold marked
  rw [if_pos (by simp [hkey])]

theorem marked_other {now : ℤ} {found : List CachePacket} {packet : CachePacket} {key : UInt64}
    (hkey : key ≠ packetKey packet) (cached : CacheEntry) :
    marked now (found ++ [packet]) key cached = marked now found key cached := by
  unfold marked
  simp [hkey]

/-- The loop after some requests, on a cache it began with. -/
structure NackProgress (now : ℤ) (session : WhepSessionTransport) (c : Cache)
    (requests : List (UInt32 × UInt16)) (step : NackStep) : Prop where
  unique : ∀ ssrc seq, makeKey ssrc seq ∈ step.uniqueRequests ↔ (ssrc, seq) ∈ requests
  found : step.retransmissions =
    (answered now session c requests).take kMaxRetransmissionsPerRtcpCompound
  accounted : Accounted now step.retransmissionCache
  config : step.retransmissionCache.config = c.config
  kept : ∀ key cached, step.retransmissionCache.entries.find? key = some cached →
    ∃ before, c.entries.find? key = some before ∧
      cached = marked now step.retransmissions key before
  pruned : ∀ key, (step.retransmissionCache.prune now).entries.find? key =
    ((c.prune now).entries.find? key).map (marked now step.retransmissions key)

namespace NackProgress
variable {now : ℤ} {session : WhepSessionTransport} {c : Cache}
  {requests : List (UInt32 × UInt16)} {step : NackStep}

theorem start (h : Accounted now c) :
    NackProgress now session c [] { retransmissionCache := c } where
  unique ssrc seq := by simp
  found := rfl
  accounted := h
  config := rfl
  kept key cached hfind := ⟨cached, hfind, by simp [marked]⟩
  pruned key := by
    have hmarked : marked now [] key = id := by
      funext cached
      simp [marked]
    rw [hmarked, Option.map_id]
    rfl

/-- A number that was asked for before, or cannot be asked for, or is one too many. -/
theorem skip (h : NackProgress now session c requests step) {ssrc : UInt32} {seq : UInt16}
    {uniqueRequests : Finset UInt64}
    (hunique : ∀ ssrc' seq', makeKey ssrc' seq' ∈ uniqueRequests ↔
      (ssrc', seq') ∈ requests ++ [(ssrc, seq)])
    (hskipped : (ssrc, seq) ∈ requests ∨ nackTargetValid session ssrc = false ∨
      kMaxRetransmissionsPerRtcpCompound ≤ step.retransmissions.length) :
    NackProgress now session c (requests ++ [(ssrc, seq)]) { step with uniqueRequests } := by
  refine ⟨hunique, ?_, h.accounted, h.config, h.kept, h.pruned⟩
  rw [answered_concat]
  split_ifs with hnone
  · rw [List.append_nil]
    exact h.found
  · rw [not_or, Bool.not_eq_false] at hnone
    have hfull : kMaxRetransmissionsPerRtcpCompound ≤ step.retransmissions.length := by
      rcases hskipped with hmem | hinvalid | hfull
      · exact absurd hmem hnone.1
      · rw [hnone.2] at hinvalid
        cases hinvalid
      · exact hfull
    rw [h.found, List.length_take] at hfull
    rw [List.take_append_of_le_length (by omega)]
    exact h.found

/-- The cache of the loop has what the cache before it has, for a number that is asked for first. -/
theorem find?_new (h : NackProgress now session c requests step) {ssrc : UInt32} {seq : UInt16}
    (hnew : (ssrc, seq) ∉ requests) (haccounted : Accounted now c) :
    makeKey ssrc seq ∉ step.retransmissions.map packetKey ∧
      (step.retransmissionCache.prune now).entries.find? (makeKey ssrc seq) =
        (c.prune now).entries.find? (makeKey ssrc seq) := by
  have hkey : makeKey ssrc seq ∉ step.retransmissions.map packetKey := by
    intro hmem
    obtain ⟨packet, hpacket, hsame⟩ := List.mem_map.mp hmem
    rw [h.found] at hpacket
    obtain ⟨hrequest, -, -⟩ := mem_answered haccounted (List.mem_of_mem_take hpacket)
    obtain ⟨hssrc, hseq⟩ := makeKey_injective hsame
    rw [hssrc, hseq] at hrequest
    exact hnew hrequest
  refine ⟨hkey, ?_⟩
  have hunmarked : marked now step.retransmissions (makeKey ssrc seq) = id := by
    funext cached
    exact if_neg hkey
  rw [h.pruned, hunmarked, Option.map_id]
  rfl

theorem answer_new (h : NackProgress now session c requests step) {ssrc : UInt32} {seq : UInt16}
    (hnew : (ssrc, seq) ∉ requests) (haccounted : Accounted now c) :
    step.retransmissionCache.answer now ssrc seq = c.answer now ssrc seq := by
  have hconfig : (step.retransmissionCache.prune now).config = (c.prune now).config := by
    rw [prune_config, prune_config, h.config]
  unfold Cache.answer
  rw [(h.find?_new hnew haccounted).2]
  congr 1
  funext cached
  rw [suppresses_congr hconfig]

/-- What is found first is behind what was found. -/
theorem found_new (h : NackProgress now session c requests step) {ssrc : UInt32} {seq : UInt16}
    (hnew : (ssrc, seq) ∉ requests) (hvalid : nackTargetValid session ssrc = true)
    (hroom : step.retransmissions.length < kMaxRetransmissionsPerRtcpCompound) :
    step.retransmissions ++ (c.answer now ssrc seq).toList =
      (answered now session c (requests ++ [(ssrc, seq)])).take
        kMaxRetransmissionsPerRtcpCompound := by
  have hfew : (c.answer now ssrc seq).toList.length ≤ 1 := by
    cases c.answer now ssrc seq <;> simp
  have hfound := h.found
  rw [hfound, List.length_take] at hroom
  rw [List.take_of_length_le (by omega)] at hfound
  rw [answered_concat, if_neg (by simp [hnew, hvalid]), hfound,
    List.take_of_length_le (by rw [List.length_append]; omega)]

/-- A number which finds nothing. -/
theorem miss (h : NackProgress now session c requests step) (haccounted : Accounted now c)
    {ssrc : UInt32} {seq : UInt16} {uniqueRequests : Finset UInt64}
    (hunique : ∀ ssrc' seq', makeKey ssrc' seq' ∈ uniqueRequests ↔
      (ssrc', seq') ∈ requests ++ [(ssrc, seq)])
    (hnew : (ssrc, seq) ∉ requests) (hvalid : nackTargetValid session ssrc = true)
    (hroom : step.retransmissions.length < kMaxRetransmissionsPerRtcpCompound)
    (hnone : step.retransmissionCache.answer now ssrc seq = none) :
    NackProgress now session c (requests ++ [(ssrc, seq)])
      { step with
        uniqueRequests
        retransmissionCache := step.retransmissionCache.prune now } := by
  have hsettled := prune_of_settled h.accounted.prune_young h.accounted.prune_capacity
  obtain ⟨order, hagain⟩ := hsettled
  have hevicted := OldestEvicted.of_pruneSteps h.accounted
    (prune_steps now step.retransmissionCache)
  refine ⟨hunique, ?_, h.accounted.prune, (prune_config _ _).trans h.config,
    fun key cached hfind => h.kept key cached (hevicted.kept key cached hfind), fun key => ?_⟩
  · rw [← h.found_new hnew hvalid hroom, ← h.answer_new hnew haccounted, hnone]
    exact (List.append_nil _).symm
  · rw [hagain]
    exact h.pruned key

/-- A number which finds a packet. -/
theorem hit (h : NackProgress now session c requests step) (haccounted : Accounted now c)
    {ssrc : UInt32} {seq : UInt16} {uniqueRequests : Finset UInt64}
    (hunique : ∀ ssrc' seq', makeKey ssrc' seq' ∈ uniqueRequests ↔
      (ssrc', seq') ∈ requests ++ [(ssrc, seq)])
    (hnew : (ssrc, seq) ∉ requests) (hvalid : nackTargetValid session ssrc = true)
    (hroom : step.retransmissions.length < kMaxRetransmissionsPerRtcpCompound)
    {cached : CacheEntry}
    (hfind : (step.retransmissionCache.prune now).entries.find? (makeKey ssrc seq) = some cached)
    (hanswer : step.retransmissionCache.answer now ssrc seq = some cached.packet) :
    NackProgress now session c (requests ++ [(ssrc, seq)])
      { uniqueRequests
        retransmissionCache :=
          (step.retransmissionCache.prune now).touched (makeKey ssrc seq) cached now
        retransmissions := step.retransmissions ++ [cached.packet] } := by
  have haccountedPruned := h.accounted.prune
  have hyoung := h.accounted.prune_young.touched hfind
  have hwithin : ((step.retransmissionCache.prune now).touched (makeKey ssrc seq) cached
      now).exceedsCapacity = false :=
    (touched_capacity hfind now).trans h.accounted.prune_capacity
  obtain ⟨order, hagain⟩ := prune_of_settled hyoung hwithin
  have hevicted := OldestEvicted.of_pruneSteps h.accounted
    (prune_steps now step.retransmissionCache)
  have hkey : packetKey cached.packet = makeKey ssrc seq :=
    (haccountedPruned.keyed _ _ hfind).symm
  obtain ⟨hunmarked, hsame⟩ := h.find?_new hnew haccounted
  refine ⟨hunique, ?_, haccountedPruned.touch hfind (some now),
    (prune_config _ _).trans h.config, fun key cached' hfind' => ?_, fun key => ?_⟩
  · rw [← h.found_new hnew hvalid hroom, ← h.answer_new hnew haccounted, hanswer]
    rfl
  · rw [Cache.touched, AssocMap.find?_insertOrAssign] at hfind'
    split_ifs at hfind' with heq
    · obtain ⟨before, hbefore, hcached⟩ :=
        h.kept key cached (hevicted.kept key cached (heq ▸ hfind))
      rw [heq, marked, if_neg hunmarked] at hcached
      refine ⟨before, hbefore, ?_⟩
      rw [← Option.some.inj hfind', marked_last (heq.trans hkey.symm), hcached]
    · obtain ⟨before, hbefore, hcached⟩ := h.kept key cached' (hevicted.kept key cached' hfind')
      exact ⟨before, hbefore, by rw [marked_other (hkey ▸ heq), hcached]⟩
  · rw [hagain]
    change ((step.retransmissionCache.prune now).entries.insertOrAssign _ _).find? key = _
    rw [AssocMap.find?_insertOrAssign]
    split_ifs with heq
    · rw [heq, ← hsame, hfind, Option.map_some, marked_last hkey.symm]
    · rw [h.pruned]
      congr 1
      funext before
      exact (marked_other (hkey ▸ heq) before).symm

theorem request (h : NackProgress now session c requests step) (haccounted : Accounted now c)
    (ssrc : UInt32) (seq : UInt16) :
    NackProgress now session c (requests ++ [(ssrc, seq)])
      (step.request now (nackTargetValid session ssrc) ssrc seq) := by
  have hunique : ∀ ssrc' seq', makeKey ssrc' seq' ∈ insert (makeKey ssrc seq) step.uniqueRequests ↔
      (ssrc', seq') ∈ requests ++ [(ssrc, seq)] := by
    intro ssrc' seq'
    rw [Finset.mem_insert, List.mem_append, List.mem_singleton, h.unique, or_comm]
    refine or_congr_right ⟨fun hsame => ?_, fun hsame => ?_⟩
    · obtain ⟨rfl, rfl⟩ := makeKey_injective hsame
      rfl
    · obtain ⟨rfl, rfl⟩ := Prod.mk.inj hsame
      rfl
  unfold NackStep.request
  simp only
  split_ifs with hseen hinvalid hfull
  · have hmem := (h.unique ssrc seq).mp hseen
    rw [Finset.insert_eq_of_mem hseen] at hunique
    exact h.skip hunique (.inl hmem)
  · exact h.skip hunique (.inr (.inl hinvalid))
  · exact h.skip hunique (.inr (.inr hfull))
  · have hnew : (ssrc, seq) ∉ requests := fun hmem => hseen ((h.unique ssrc seq).mpr hmem)
    rw [Bool.not_eq_false] at hinvalid
    rcases lookup_answer step.retransmissionCache now ssrc seq with
      ⟨hnone, hcache, hstate⟩ | ⟨cached, hfind, hanswer, heq⟩
    · have hmissed := h.miss haccounted hunique hnew hinvalid (not_le.mp hfull) hnone
      rw [← hcache] at hmissed
      split
      · contradiction
      · exact hmissed
      · exact hmissed
    · rw [heq]
      exact h.hit haccounted hunique hnew hinvalid (not_le.mp hfull) hfind hanswer

theorem block (h : NackProgress now session c requests step) (haccounted : Accounted now c)
    (block : RtcpCompoundBlock) :
    NackProgress now session c (requests ++ blockRequests block)
      (step.block now session block) := by
  unfold NackStep.block blockRequests
  split_ifs
  · rw [List.append_nil]
    exact h
  · generalize block.nackSequenceNumbers = numbers
    induction numbers generalizing requests step with
    | nil =>
        rw [List.map_nil, List.append_nil]
        exact h
    | cons seq numbers ih =>
        rw [List.map_cons, List.append_cons]
        exact ih (h.request haccounted block.feedbackMediaSsrc seq)

end NackProgress

/-- The loop over a compound finds what the cache has for its requests. -/
theorem requestedRetransmissions_progress {now : ℤ} {t : MediaTransport}
    (haccounted : Accounted now t.retransmissionCache) (compound : RtcpCompoundPacket) :
    NackProgress now t.session t.retransmissionCache (nackRequests compound)
      (requestedRetransmissions now compound t) := by
  have hblocks : ∀ (blocks : List RtcpCompoundBlock) requests step,
      NackProgress now t.session t.retransmissionCache requests step →
      NackProgress now t.session t.retransmissionCache (requests ++ blocks.flatMap blockRequests)
        (blocks.foldl (NackStep.block now t.session) step) := by
    intro blocks
    induction blocks with
    | nil =>
        intro requests step h
        rw [List.flatMap_nil, List.append_nil]
        exact h
    | cons block blocks ih =>
        intro requests step h
        rw [List.flatMap_cons, ← List.append_assoc]
        exact ih _ _ (h.block haccounted block)
  exact hblocks compound.blocks [] _ (.start haccounted)

end SimpleWebrtc.WhepOutbound
