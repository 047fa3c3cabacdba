import SimpleWebrtc.SdpAnswer

/-!
# Media sources of a subscriber

Before a subscriber is answered every section of its offer gets an SSRC of its
own, a video section also one for retransmissions, and all of them share a
cname. The random generators are given by what they yield, and the SSRC
generator yields no zero.
-/
namespace SimpleWebrtc.WhepHandler
open Library Library.Text SdpSummary SdpAnswer

structure SsrcGenerator where
  draw : ℕ → UInt32
  draw_ne_zero : ∀ n, draw n ≠ 0
  drawn : ℕ := 0
  usedSsrcs : List UInt32 := []

def SsrcGenerator.use (g : SsrcGenerator) (ssrc : UInt32) : SsrcGenerator :=
  { g with usedSsrcs := ssrc :: g.usedSsrcs }

/-- Draws until a number is unused. -/
def drawUnused (g : SsrcGenerator) : ℕ → Option UInt32 × SsrcGenerator
  | 0 => (none, g)
  | attempts + 1 =>
      let candidate := g.draw g.drawn
      let next := { g with drawn := g.drawn + 1 }
      if candidate ∈ g.usedSsrcs then drawUnused next attempts
      else (some candidate, next.use candidate)

/-- The first unused number from a candidate on. -/
def firstUnused (usedSsrcs : List UInt32) (candidate : UInt32) : ℕ → Option UInt32
  | 0 => none
  | steps + 1 =>
      if candidate ∈ usedSsrcs then firstUnused usedSsrcs (candidate + 1) steps
      else some candidate

def makeWhepOutboundSsrc (g : SsrcGenerator) : UInt32 × SsrcGenerator :=
  match drawUnused g 4096 with
  | (some ssrc, next) => (ssrc, next)
  | (none, next) =>
      match firstUnused next.usedSsrcs 1 (2 ^ 32 - 2) with
      | some ssrc => (ssrc, next.use ssrc)
      | none => (1, next)

def cnameDigit (value : Fin 16) : UInt8 :=
  if value < 10 then 48 + UInt8.ofNat value else 97 + (UInt8.ofNat value - 10)

def makeWhepOutboundSourceCname (values : Fin 16 → Fin 16) : Text :=
  ascii "sw-" ++ (List.ofFn values).map cnameDigit

/-- Only a video section is given an SSRC for retransmissions. -/
def makeRtxRepairSsrc (kind : Text) (g : SsrcGenerator) : UInt32 × SsrcGenerator :=
  if kind = kVideo then makeWhepOutboundSsrc g else (0, g)

def makeMediaSources (cname : Text) : SsrcGenerator → List MediaSummary → List SdpAnswerMediaSource
  | _, [] => []
  | g, media :: rest =>
      let ssrc := makeWhepOutboundSsrc g
      let repair := makeRtxRepairSsrc media.kind ssrc.2
      { mid := media.mid
        kind := media.kind
        ssrc := ssrc.1
        rtxRepairSsrc := repair.1
        cname := cname } :: makeMediaSources cname repair.2 rest

def makeWhepOutboundMediaSources (cnameValues : Fin 16 → Fin 16) (g : SsrcGenerator)
    (offer : WebrtcOfferSummary) : List SdpAnswerMediaSource :=
  makeMediaSources (makeWhepOutboundSourceCname cnameValues) g offer.media

/-- The sources at the accepted positions, which are positions of the offer. -/
def filterWhepOutboundMediaSources (sources : List SdpAnswerMediaSource)
    (acceptedMlineIndexes : List ℕ) : List SdpAnswerMediaSource :=
  acceptedMlineIndexes.filterMap fun index => sources[index]?

/-! ## What the sources are -/

theorem drawUnused_ne_zero {g next : SsrcGenerator} {attempts : ℕ} {ssrc : UInt32}
    (h : drawUnused g attempts = (some ssrc, next)) : ssrc ≠ 0 := by
  induction attempts generalizing g with
  | zero => cases h
  | succ attempts ih =>
      rw [drawUnused] at h
      split_ifs at h
      · exact ih h
      · cases h
        exact g.draw_ne_zero _

theorem firstUnused_ne_zero {usedSsrcs : List UInt32} {candidate ssrc : UInt32} {steps : ℕ}
    (hcandidate : candidate ≠ 0) (hsteps : candidate.toNat + steps ≤ 2 ^ 32)
    (h : firstUnused usedSsrcs candidate steps = some ssrc) : ssrc ≠ 0 := by
  induction steps generalizing candidate with
  | zero => cases h
  | succ steps ih =>
      rw [firstUnused] at h
      split_ifs at h
      · cases steps with
        | zero => cases h
        | succ steps =>
            have hnext : (candidate + 1).toNat = candidate.toNat + 1 := by
              rw [UInt32.toNat_add, UInt32.toNat_one, Nat.mod_eq_of_lt]
              omega
            have hne : candidate + 1 ≠ 0 := by
              intro hzero
              rw [hzero, UInt32.toNat_zero] at hnext
              omega
            apply ih hne _ h
            omega
      · cases h
        exact hcandidate

theorem makeWhepOutboundSsrc_ne_zero (g : SsrcGenerator) : (makeWhepOutboundSsrc g).1 ≠ 0 := by
  have hone : (1 : UInt32) ≠ 0 := by decide
  unfold makeWhepOutboundSsrc
  cases hdrawn : drawUnused g 4096 with
  | mk drawn next =>
      cases drawn with
      | some ssrc => exact drawUnused_ne_zero hdrawn
      | none =>
          cases hfirst : firstUnused next.usedSsrcs 1 (2 ^ 32 - 2) with
          | none =>
              simp only [hfirst]
              exact hone
          | some ssrc =>
              simp only [hfirst]
              exact firstUnused_ne_zero hone
                (by rw [UInt32.toNat_one]; omega) hfirst

theorem makeRtxRepairSsrc_ne_zero_iff (kind : Text) (g : SsrcGenerator) :
    (makeRtxRepairSsrc kind g).1 ≠ 0 ↔ kind = kVideo := by
  unfold makeRtxRepairSsrc
  split_ifs with hvideo
  · simp [hvideo, makeWhepOutboundSsrc_ne_zero]
  · simp [hvideo]

/-- The source of a section. -/
structure SourceOf (media : MediaSummary) (source : SdpAnswerMediaSource) : Prop where
  mid : source.mid = media.mid
  kind : source.kind = media.kind
  ssrc : source.ssrc ≠ 0
  rtxRepairSsrc : source.rtxRepairSsrc ≠ 0 ↔ media.kind = kVideo

theorem makeMediaSources_sourceOf (cname : Text) (g : SsrcGenerator)
    (media : List MediaSummary) :
    List.Forall₂ SourceOf media (makeMediaSources cname g media) := by
  induction media generalizing g with
  | nil => exact .nil
  | cons media rest ih =>
      rw [makeMediaSources]
      refine List.Forall₂.cons ?_ (ih _)
      exact ⟨rfl, rfl, makeWhepOutboundSsrc_ne_zero g, makeRtxRepairSsrc_ne_zero_iff _ _⟩

theorem makeWhepOutboundMediaSources_sourceOf (cnameValues : Fin 16 → Fin 16) (g : SsrcGenerator)
    (offer : WebrtcOfferSummary) :
    List.Forall₂ SourceOf offer.media (makeWhepOutboundMediaSources cnameValues g offer) :=
  makeMediaSources_sourceOf _ g offer.media

/-- With distinct MIDs the source of a section is the first that matches it. -/
theorem find?_sourceOf {offered : List MediaSummary} {sources : List SdpAnswerMediaSource}
    (h : List.Forall₂ SourceOf offered sources) (hmids : (offered.map MediaSummary.mid).Nodup)
    {index : ℕ} {media : MediaSummary} {source : SdpAnswerMediaSource}
    (hmedia : offered[index]? = some media) (hsource : sources[index]? = some source) :
    sources.find? (answerMediaSourceMatchesMedia media) = some source := by
  induction h generalizing index with
  | nil => cases hmedia
  | @cons first firstSource rest restSources hfirst _ ih =>
      rw [List.map_cons, List.nodup_cons] at hmids
      cases index with
      | zero =>
          cases hmedia
          cases hsource
          rw [List.find?_cons_of_pos]
          simp [answerMediaSourceMatchesMedia, hfirst.ssrc, hfirst.mid, hfirst.kind]
      | succ index =>
          rw [List.getElem?_cons_succ] at hmedia hsource
          rw [List.find?_cons_of_neg]
          · exact ih hmids.2 hmedia hsource
          · have hmem := List.mem_map_of_mem (f := MediaSummary.mid) (List.mem_of_getElem? hmedia)
            have hother : first.mid ≠ media.mid := fun heq => hmids.1 (heq ▸ hmem)
            simp [answerMediaSourceMatchesMedia, hfirst.mid, hother]

/-- The sources of accepted positions go with the sections at these positions. -/
theorem filterWhepOutboundMediaSources_forall₂ {offered : List MediaSummary}
    {sources : List SdpAnswerMediaSource} (h : List.Forall₂ SourceOf offered sources)
    {accepted : List ℕ} (haccepted : ∀ index ∈ accepted, index < offered.length) :
    List.Forall₂ (fun index source => sources[index]? = some source) accepted
      (filterWhepOutboundMediaSources sources accepted) := by
  induction accepted with
  | nil => exact .nil
  | cons index rest ih =>
      have hlt : index < sources.length := by
        rw [← h.length_eq]
        exact haccepted index (by simp)
      have hat : sources[index]? = some (sources.get ⟨index, hlt⟩) := by simp [hlt]
      rw [filterWhepOutboundMediaSources, List.filterMap_cons_some hat]
      exact .cons hat (ih fun other hother => haccepted other (List.mem_cons_of_mem _ hother))

end SimpleWebrtc.WhepHandler
