import SimpleWebrtc.MirroredAnswer

/-!
# The runtime offer

An answered offer is kept with its accepted sections alone. The filter asks the
bundle group to name those sections in their own order; the MIDs of other
sections may stand anywhere in the group.
-/
namespace SimpleWebrtc.SdpSummary
open Library SdpOfferValidator SdpAnswer WhipPublisher

/-- Keeping the entries of a distinct list that are in another one gives that other list exactly
when its entries stand in the same order. -/
theorem filter_mem_eq_iff {α : Type*} {entries wanted : List α} {keep : α → Bool}
    (hkeep : ∀ x, keep x = true ↔ x ∈ wanted) (hentries : entries.Nodup) (hwanted : wanted.Nodup)
    (hmem : ∀ x ∈ wanted, x ∈ entries) :
    (entries.filter keep).Perm wanted ∧
      (entries.filter keep = wanted ↔ wanted.Sublist entries) := by
  have hperm : (entries.filter keep).Perm wanted := by
    apply (List.perm_ext_iff_of_nodup (hentries.filter _) hwanted).mpr
    intro x
    rw [List.mem_filter, hkeep]
    constructor
    · intro h
      exact h.2
    · intro h
      exact ⟨hmem x h, h⟩
  refine ⟨hperm, ?_⟩
  constructor
  · intro h
    rw [← h]
    exact List.filter_sublist
  · intro h
    have hall : wanted.filter keep = wanted := by
      rw [List.filter_eq_self]
      intro x hx
      exact (hkeep x).mpr hx
    have hsub : wanted.Sublist (entries.filter keep) := by
      have hfilter := h.filter keep
      rwa [hall] at hfilter
    exact (hsub.eq_of_length hperm.length_eq.symm).symm

theorem checkBundleOrder_self (mids : List Text) : checkBundleOrder mids mids = .ok () := by
  induction mids with
  | nil => rfl
  | cons mid mids ih =>
      rw [checkBundleOrder, if_neg (not_not_intro rfl)]
      exact ih

/-- The first place where two lists of one length differ decides the error. -/
theorem checkBundleOrder_ne {expected actual : List Text} (hlength : expected.length = actual.length)
    (hne : expected ≠ actual) :
    ∃ front x y xs ys, expected = front ++ x :: xs ∧ actual = front ++ y :: ys ∧ x ≠ y ∧
      checkBundleOrder expected actual = .error (bundleOrderError x y) := by
  induction expected generalizing actual with
  | nil => exact absurd (List.length_eq_zero_iff.mp hlength.symm).symm hne
  | cons x xs ih =>
      cases actual with
      | nil => cases hlength
      | cons y ys =>
          by_cases hxy : y = x
          · subst hxy
            have htail : xs ≠ ys := by
              intro heq
              exact hne (congrArg (y :: ·) heq)
            obtain ⟨front, a, b, as, bs, rfl, rfl, hab, herror⟩ := ih (Nat.succ.inj hlength) htail
            refine ⟨y :: front, a, b, as, bs, rfl, rfl, hab, ?_⟩
            rw [checkBundleOrder, if_neg (not_not_intro rfl)]
            exact herror
          · refine ⟨[], x, y, xs, ys, rfl, rfl, Ne.symm hxy, ?_⟩
            rw [checkBundleOrder, if_pos hxy]

/-- The sections of an offer at some indexes, in that order. -/
def SectionsAt (offer : WebrtcOfferSummary) : List ℕ → List MediaSummary → Prop :=
  List.Forall₂ fun index media => offer.media[index]? = some media

theorem SectionsAt.filterMap {offer : WebrtcOfferSummary} {indexes : List ℕ}
    {sections : List MediaSummary} (h : SectionsAt offer indexes sections) :
    (indexes.filterMap fun index => offer.media[index]?) = sections := by
  induction h with
  | nil => rfl
  | cons hplace _ ih => rw [List.filterMap_cons_some hplace, ih]

theorem sectionsAt_exists {offer : WebrtcOfferSummary} {indexes : List ℕ}
    (h : ∀ index ∈ indexes, index < offer.media.length) :
    ∃ sections, SectionsAt offer indexes sections := by
  induction indexes with
  | nil => exact ⟨[], .nil⟩
  | cons index indexes ih =>
      obtain ⟨sections, hsections⟩ := ih fun i hi => h i (List.mem_cons_of_mem _ hi)
      have hplace := List.getElem?_eq_getElem (h index List.mem_cons_self)
      exact ⟨_ :: sections, .cons hplace hsections⟩

theorem SectionsAt.index_of_mem {offer : WebrtcOfferSummary} {indexes : List ℕ}
    {sections : List MediaSummary} (h : SectionsAt offer indexes sections) :
    ∀ media ∈ sections, ∃ index ∈ indexes, offer.media[index]? = some media := by
  induction h with
  | nil => simp
  | @cons index section' indexes sections hplace _ ih =>
      intro media hmedia
      rcases List.mem_cons.mp hmedia with rfl | hmedia
      · exact ⟨index, List.mem_cons_self, hplace⟩
      · obtain ⟨other, hother, hat⟩ := ih media hmedia
        exact ⟨other, List.mem_cons_of_mem _ hother, hat⟩

theorem SectionsAt.mids_nodup {offer : WebrtcOfferSummary} {indexes : List ℕ}
    {sections : List MediaSummary} (h : SectionsAt offer indexes sections)
    (hindexes : indexes.Nodup) (hmids : (offer.media.map MediaSummary.mid).Nodup) :
    (sections.map MediaSummary.mid).Nodup := by
  induction h with
  | nil => exact List.nodup_nil
  | @cons index media indexes sections hplace hrest ih =>
      obtain ⟨hfresh, hindexes⟩ := List.nodup_cons.mp hindexes
      refine List.nodup_cons.mpr ⟨?_, ih hindexes⟩
      intro hmem
      obtain ⟨other, hother, hmid⟩ := List.mem_map.mp hmem
      obtain ⟨otherIndex, hotherIndex, hotherPlace⟩ := SectionsAt.index_of_mem hrest other hother
      have hlt : index < (offer.media.map MediaSummary.mid).length := by
        rw [List.length_map]
        exact (List.getElem?_eq_some_iff.mp hplace).1
      have hsame : index = otherIndex := by
        apply (List.getElem?_inj hlt hmids).mp
        rw [List.getElem?_map, List.getElem?_map, hplace, hotherPlace, Option.map_some,
          Option.map_some, hmid]
      subst hsame
      exact hfresh hotherIndex

theorem forMedia_ok {check : MediaSummary → Except Text Unit} {sections : List MediaSummary}
    (h : forMedia check sections = .ok ()) : ∀ media ∈ sections, check media = .ok () := by
  induction sections with
  | nil => simp
  | cons first rest ih =>
      obtain ⟨_, hfirst, hrest⟩ := bind_ok.mp h
      intro media hmedia
      rcases List.mem_cons.mp hmedia with rfl | hmedia
      · exact hfirst
      · exact ih hrest media hmedia

/-- What the checks shared by both kinds of offer say about the bundle group. -/
theorem validateCommonOffer_bundle {offer : WebrtcOfferSummary}
    (h : validateCommonOffer offer = .ok ()) :
    offer.bundleMids.Nodup ∧ ∀ media ∈ offer.media, media.mid ∈ offer.bundleMids := by
  obtain ⟨_, _, h⟩ := bind_ok.mp h
  obtain ⟨_, _, h⟩ := bind_ok.mp h
  obtain ⟨_, _, h⟩ := bind_ok.mp h
  obtain ⟨_, _, h⟩ := bind_ok.mp h
  obtain ⟨_, _, h⟩ := bind_ok.mp h
  obtain ⟨_, _, h⟩ := bind_ok.mp h
  obtain ⟨_, _, h⟩ := bind_ok.mp h
  obtain ⟨_, hunique, h⟩ := bind_ok.mp h
  obtain ⟨_, hmembers, -⟩ := bind_ok.mp h
  refine ⟨validateUniqueMids_nodup hunique, ?_⟩
  intro media hmedia
  exact ensure_ok.mp (forMedia_ok hmembers media hmedia)

/-- The outcome of the filter: the sections with just their MIDs when the group names them in
their order, else an error about the first MID out of place. -/
structure FilteredByOrder (offer : WebrtcOfferSummary) (indexes : List ℕ)
    (sections : List MediaSummary) : Prop where
  ordered : (sections.map MediaSummary.mid).Sublist offer.bundleMids →
    makeOfferSummary offer indexes =
      .ok
        { offer with
          bundleMids := sections.map MediaSummary.mid
          media := sections }
  disordered : ¬(sections.map MediaSummary.mid).Sublist offer.bundleMids →
    ∃ front expected actual laterExpected laterActual,
      sections.map MediaSummary.mid = front ++ expected :: laterExpected ∧
      (offer.bundleMids.filter fun mid => decide (mid ∈ sections.map MediaSummary.mid)) =
        front ++ actual :: laterActual ∧
      expected ≠ actual ∧
      makeOfferSummary offer indexes = .error (bundleOrderError expected actual)

theorem makeOfferSummary_sections {offer : WebrtcOfferSummary} {indexes : List ℕ}
    {sections : List MediaSummary} (hcommon : validateCommonOffer offer = .ok ())
    (h : SectionsAt offer indexes sections) (hindexes : indexes.Nodup) :
    FilteredByOrder offer indexes sections := by
  obtain ⟨hbundle, hmembers⟩ := validateCommonOffer_bundle hcommon
  have hmids := h.mids_nodup hindexes (validateCommonOffer_mids hcommon)
  have hmem : ∀ mid ∈ sections.map MediaSummary.mid, mid ∈ offer.bundleMids := by
    intro mid hmid
    obtain ⟨media, hmedia, rfl⟩ := List.mem_map.mp hmid
    obtain ⟨index, -, hplace⟩ := h.index_of_mem media hmedia
    exact hmembers media (List.mem_of_getElem? hplace)
  have hkeep : ∀ mid, decide (mid ∈ sections.map MediaSummary.mid) = true ↔
      mid ∈ sections.map MediaSummary.mid := fun _ => decide_eq_true_iff
  obtain ⟨hperm, horder⟩ := filter_mem_eq_iff hkeep hbundle hmids hmem
  have hlength : (offer.bundleMids.filter fun mid =>
      decide (mid ∈ sections.map MediaSummary.mid)).length = sections.length := by
    rw [hperm.length_eq, List.length_map]
  have hmake : makeOfferSummary offer indexes =
      (checkBundleOrder (sections.map MediaSummary.mid)
        (offer.bundleMids.filter fun mid => decide (mid ∈ sections.map MediaSummary.mid)) >>=
          fun _ => .ok
            { offer with
              bundleMids := offer.bundleMids.filter fun mid =>
                decide (mid ∈ sections.map MediaSummary.mid)
              media := sections }) := by
    unfold makeOfferSummary
    simp only [h.filterMap]
    rw [ensure_pass hlength]
    rfl
  constructor
  · intro hsublist
    rw [hmake, horder.mpr hsublist, checkBundleOrder_self]
    rfl
  · intro hother
    have hne : sections.map MediaSummary.mid ≠ offer.bundleMids.filter fun mid =>
        decide (mid ∈ sections.map MediaSummary.mid) := by
      intro heq
      exact hother (horder.mp heq.symm)
    obtain ⟨front, x, y, xs, ys, hexpected, hactual, hxy, herror⟩ :=
      checkBundleOrder_ne hperm.length_eq.symm hne
    refine ⟨front, x, y, xs, ys, hexpected, hactual, hxy, ?_⟩
    rw [hmake, herror]
    rfl

/-- For a valid offer that was answered, the runtime offer has the accepted sections in order and
just their MIDs, unless the bundle group names them in another order. -/
theorem makeOfferSummary_answered {offer : WebrtcOfferSummary} {options : SdpAnswerOptions}
    {publisherOffer : Option WebrtcOfferSummary} {answer : BuiltSdpAnswer}
    (hvalid : validateWhipOffer offer = .ok () ∨ validateWhepOffer offer = .ok ())
    (hanswer : buildAnswer offer options publisherOffer = .ok answer) :
    ∃ sections, SectionsAt offer answer.acceptedMlineIndexes sections ∧
      FilteredByOrder offer answer.acceptedMlineIndexes sections := by
  have hcommon : validateCommonOffer offer = .ok () := by
    rcases hvalid with h | h
    · obtain ⟨_, hcommon, -⟩ := bind_ok.mp h
      exact hcommon
    · obtain ⟨_, hcommon, -⟩ := bind_ok.mp h
      exact hcommon
  obtain ⟨-, haccepted, -⟩ := buildAnswer_ok hanswer
  have hrange : ∀ index ∈ answer.acceptedMlineIndexes, index < offer.media.length := by
    intro index hindex
    rw [haccepted, acceptedIndexes, List.mem_filter, List.mem_range, answerMediaDescriptions,
      List.length_mapIdx] at hindex
    exact hindex.1
  have hindexes : answer.acceptedMlineIndexes.Nodup := by
    rw [haccepted]
    exact List.nodup_range.filter _
  obtain ⟨sections, hsections⟩ := sectionsAt_exists hrange
  exact ⟨sections, hsections, makeOfferSummary_sections hcommon hsections hindexes⟩

/-- The group of this offer also names the data channel. -/
theorem makeOfferSummary_answered_dataChannel :
    ∃ sections, SectionsAt dataChannelOffer dataChannelAnswer.acceptedMlineIndexes sections ∧
      FilteredByOrder dataChannelOffer dataChannelAnswer.acceptedMlineIndexes sections := by
  have hvalid : validateWhipOffer dataChannelOffer = .ok () := by decide +kernel
  have hanswer : buildAnswer dataChannelOffer localOptions none = .ok dataChannelAnswer := by
    decide +kernel
  exact makeOfferSummary_answered (.inl hvalid) hanswer

/-- Two accepted sections which the group names in the other order. -/
def swappedOffer : WebrtcOfferSummary :=
  ((extractWebrtcOfferSummary
    (publisherDescription "BUNDLE 1 0" [vp8Section "0", vp8Section "1"])).toOption).getD {}

theorem swapped_group_refused :
    ¬∀ (offer : WebrtcOfferSummary) (options : SdpAnswerOptions)
      (publisherOffer : Option WebrtcOfferSummary) (answer : BuiltSdpAnswer),
      validateWhipOffer offer = .ok () ∨ validateWhepOffer offer = .ok () →
      buildAnswer offer options publisherOffer = .ok answer →
      ∃ runtimeOffer, makeOfferSummary offer answer.acceptedMlineIndexes = .ok runtimeOffer := by
  intro hall
  have hvalid : validateWhipOffer swappedOffer = .ok () := by decide +kernel
  have haccepted : ((buildAnswer swappedOffer localOptions none).map fun answer =>
      answer.acceptedMlineIndexes) = .ok [0, 1] := by decide +kernel
  obtain ⟨answer, hanswer, hindexes⟩ := map_ok.mp haccepted
  obtain ⟨runtimeOffer, hruntime⟩ := hall swappedOffer localOptions none answer (.inl hvalid) hanswer
  have hrefused : (makeOfferSummary swappedOffer [0, 1]).toOption = none := by decide +kernel
  rw [hindexes] at hruntime
  rw [hruntime] at hrefused
  cases hrefused

end SimpleWebrtc.SdpSummary
