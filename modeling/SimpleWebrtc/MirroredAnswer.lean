import SimpleWebrtc.Library.PairedLists
import SimpleWebrtc.SdpParser
import SimpleWebrtc.WhepAnswer
import SimpleWebrtc.WhipConfiguration

/-!
# Answers and the sections of an offer

An answer has one section for every audio or video section of the offer, in
their order, and under its media type and MID. Sections of other kinds have been
left out of the summary of the offer, so they have none, and the port of an
offered section is never looked at: a section is accepted if it is not inactive
and some codec of it can be answered.
-/
namespace SimpleWebrtc.SdpAnswer
open Library Library.Text SdpSummary SdpParser SdpCodecNegotiator SdpOfferValidator WhipPublisher

/-! ## What is mirrored -/

structure SameSection (offered answered : MediaDescription) : Prop where
  media : answered.mediaName.media = offered.mediaName.media
  mid : ∃ mid, mid ≠ [] ∧ findAttributeValue offered.attributes (ascii "mid") = some mid ∧
    findAttributeValue answered.attributes (ascii "mid") = some mid

/-- The answer has a section for each of these, and its bundle group has the MIDs of the listed
ones. -/
structure Mirrors (offered : List MediaDescription) (answer : BuiltSdpAnswer) : Prop where
  sections : List.Forall₂ SameSection offered answer.description.mediaDescriptions
  listed : answer.acceptedMlineIndexes.Pairwise (· < ·)
  rejected : ∀ index answered, answer.description.mediaDescriptions[index]? = some answered →
    index ∉ answer.acceptedMlineIndexes → answered.mediaName.port = 0
  bundle : List.Forall₂ (fun index mid => ∃ answered,
    answer.description.mediaDescriptions[index]? = some answered ∧
      findAttributeValue answered.attributes (ascii "mid") = some mid)
    answer.acceptedMlineIndexes (parseBundleMids answer.description)

/-- A text that was read as an offer and answered. A subscriber's offer is answered against that
of a publisher. -/
structure OfferAnswered (text : Text) (description : SessionDescription)
    (offer : WebrtcOfferSummary) (publisherOffer : Option WebrtcOfferSummary)
    (options : SdpAnswerOptions) (answer : BuiltSdpAnswer) : Prop where
  parsed : parseSessionDescription text = .ok description
  extracted : extractWebrtcOfferSummary description = .ok offer
  valid : (if publisherOffer.isSome then validateWhepOffer offer else validateWhipOffer offer) =
    .ok ()
  validPublisher : ∀ publisher ∈ publisherOffer, validateWhipOffer publisher = .ok ()
  answered : buildAnswer offer options publisherOffer = .ok answer

/-- Whether the section at an index of an offer is answered. -/
def Answerable (offer : WebrtcOfferSummary) (publisherOffer : Option WebrtcOfferSummary)
    (index : ℕ) : Prop :=
  ∃ media, offer.media[index]? = some media ∧ media.direction ≠ .inactive ∧
    (answeredCodecs media index offer publisherOffer).isSome = true

/-! ## Sections -/

theorem makeAnswerDirection_inactive {isWhep : Bool} {media : MediaSummary} :
    makeAnswerDirection isWhep media = .inactive ↔ media.direction = .inactive := by
  unfold makeAnswerDirection
  split_ifs with hinactive
  · simp [hinactive]
  · simp [hinactive]
  · simp [hinactive]

theorem makeAnswerMedia_name (options : SdpAnswerOptions) (media : MediaSummary) (index : ℕ)
    (offer : WebrtcOfferSummary) (publisherOffer : Option WebrtcOfferSummary) :
    (makeAnswerMedia options media index offer publisherOffer).mediaName.media = media.kind ∧
      findAttributeValue (makeAnswerMedia options media index offer publisherOffer).attributes
        (ascii "mid") = some media.mid := by
  unfold makeAnswerMedia
  split_ifs
  · exact ⟨rfl, by simp [findAttributeValue, makeRejectedAnswerMedia]⟩
  · cases answeredCodecs media index offer publisherOffer with
    | none => exact ⟨rfl, by simp [findAttributeValue, makeRejectedAnswerMedia]⟩
    | some answered => exact ⟨rfl, by simp [findAttributeValue, makeAcceptedAnswerMedia]⟩

theorem makeAnswerMedia_port (options : SdpAnswerOptions) (media : MediaSummary) (index : ℕ)
    (offer : WebrtcOfferSummary) (publisherOffer : Option WebrtcOfferSummary) :
    (makeAnswerMedia options media index offer publisherOffer).mediaName.port ≠ 0 ↔
      media.direction ≠ .inactive ∧
        (answeredCodecs media index offer publisherOffer).isSome = true := by
  unfold makeAnswerMedia
  split_ifs with hdirection
  · have hinactive := makeAnswerDirection_inactive.mp hdirection
    simp [hinactive, makeRejectedAnswerMedia]
  · have hactive : media.direction ≠ .inactive :=
      fun hinactive => hdirection (makeAnswerDirection_inactive.mpr hinactive)
    cases answeredCodecs media index offer publisherOffer with
    | none => simp [makeRejectedAnswerMedia]
    | some answered => simp [hactive, makeAcceptedAnswerMedia]

theorem parseMediaSummary_name {description : SessionDescription} {media : MediaDescription}
    {summary : MediaSummary} (h : parseMediaSummary description media = .ok summary) :
    summary.kind = media.mediaName.media ∧ summary.mid ≠ [] ∧
      findAttributeValue media.attributes (ascii "mid") = some summary.mid := by
  obtain ⟨_, _, h⟩ := bind_ok.mp h
  obtain ⟨mid, hmid, h⟩ := bind_ok.mp h
  obtain ⟨direction, _, h⟩ := bind_ok.mp h
  obtain ⟨_, _, h⟩ := bind_ok.mp h
  obtain ⟨_, _, h⟩ := bind_ok.mp h
  obtain ⟨_, _, h⟩ := bind_ok.mp h
  obtain ⟨_, _, h⟩ := bind_ok.mp h
  obtain ⟨_, _, h⟩ := bind_ok.mp h
  obtain ⟨payloadTypes, _, h⟩ := bind_ok.mp h
  obtain ⟨codecs, _, h⟩ := bind_ok.mp h
  obtain ⟨headerExtensions, _, h⟩ := bind_ok.mp h
  obtain ⟨⟨ptime, maxptime⟩, _, h⟩ := bind_ok.mp h
  obtain ⟨ssrcGroups, _, h⟩ := bind_ok.mp h
  obtain ⟨rids, _, h⟩ := bind_ok.mp h
  obtain ⟨simulcast, _, h⟩ := bind_ok.mp h
  obtain ⟨msids, _, h⟩ := bind_ok.mp h
  obtain ⟨_, _, h⟩ := bind_ok.mp h
  cases h
  obtain ⟨hfound, hne⟩ := Option.filter_eq_some_iff.mp (orError_ok.mp hmid)
  refine ⟨rfl, ?_, hfound⟩
  simpa using hne

/-- What an extracted offer has taken from the description. -/
theorem extractWebrtcOfferSummary_sections {description : SessionDescription}
    {offer : WebrtcOfferSummary} (h : extractWebrtcOfferSummary description = .ok offer) :
    List.Forall₂ (fun media summary => parseMediaSummary description media = .ok summary)
        (description.mediaDescriptions.filter isAudioOrVideo) offer.media ∧
      ∀ media ∈ offer.media, media.mid ∈ parseBundleMids description := by
  obtain ⟨iceUfrag, _, h⟩ := bind_ok.mp h
  obtain ⟨icePwd, _, h⟩ := bind_ok.mp h
  obtain ⟨fingerprintText, _, h⟩ := bind_ok.mp h
  obtain ⟨fingerprint, _, h⟩ := bind_ok.mp h
  obtain ⟨setupText, _, h⟩ := bind_ok.mp h
  obtain ⟨setup, _, h⟩ := bind_ok.mp h
  obtain ⟨media, hmedia, h⟩ := bind_ok.mp h
  obtain ⟨_, _, h⟩ := bind_ok.mp h
  obtain ⟨_, hbundle, h⟩ := bind_ok.mp h
  cases h
  obtain ⟨_, _, hmids⟩ := bind_ok.mp hbundle
  exact ⟨mapM_ok.mp hmedia, ensure_ok.mp hmids⟩

/-! ## The bundle group -/

/-- A MID which is one field of a group. -/
def IsWord (text : Text) : Prop := text ≠ [] ∧ ∀ c ∈ text, isBlank c = false

theorem parseBundleMids_isWord {description : SessionDescription} {mid : Text}
    (h : mid ∈ parseBundleMids description) : IsWord mid := by
  obtain ⟨a, _, hmid⟩ := List.mem_flatMap.mp h
  unfold bundleMidsOf at hmid
  split at hmid
  · cases hmid
  · next semantics mids hfields =>
      split_ifs at hmid
      · have hfield : mid ∈ fields isBlank a.value := by
          rw [hfields]
          exact List.mem_cons_of_mem _ hmid
        exact ⟨(field_of_mem hfield).1, fun c hc => ((field_of_mem hfield).2 c hc).1⟩
      · cases hmid

theorem fields_spaced {word : Text} {mids : List Text} (hword : IsWord word)
    (hmids : ∀ mid ∈ mids, IsWord mid) :
    fields isBlank (word ++ mids.flatMap fun mid => ascii " " ++ mid) = word :: mids := by
  have hspace : ascii " " = [32] := by decide
  induction mids generalizing word with
  | nil => rw [List.flatMap_nil, List.append_nil, fields_word hword.1 hword.2]
  | cons mid rest ih =>
      rw [List.flatMap_cons, hspace, List.singleton_append, List.cons_append,
        fields_append_separator isBlank word (by decide), fields_word hword.1 hword.2, ← hspace,
        ih (hmids mid (by simp)) fun other hother => hmids other (List.mem_cons_of_mem _ hother),
        List.singleton_append]

/-- The MIDs of the sections at some indexes. -/
def midsAt (offer : WebrtcOfferSummary) (indexes : List ℕ) : List Text :=
  indexes.map fun index => ((offer.media[index]?).map MediaSummary.mid).getD []

theorem bundleMidsOf_group {offer : WebrtcOfferSummary} {indexes : List ℕ}
    (h : ∀ mid ∈ midsAt offer indexes, IsWord mid) :
    bundleMidsOf (makeBundleGroupValue offer indexes) = midsAt offer indexes := by
  have hbundle : IsWord (ascii "BUNDLE") := ⟨by decide, by decide +kernel⟩
  have hvalue : makeBundleGroupValue offer indexes =
      ascii "BUNDLE" ++ (midsAt offer indexes).flatMap fun mid => ascii " " ++ mid := by
    rw [makeBundleGroupValue, midsAt, List.flatMap_map]
  rw [bundleMidsOf, hvalue, fields_spaced hbundle h]
  rfl

theorem buildAnswer_bundle {offer : WebrtcOfferSummary} {options : SdpAnswerOptions}
    {publisherOffer : Option WebrtcOfferSummary} {answer : BuiltSdpAnswer}
    (h : buildAnswer offer options publisherOffer = .ok answer) :
    parseBundleMids answer.description =
      bundleMidsOf (makeBundleGroupValue offer answer.acceptedMlineIndexes) := by
  obtain ⟨_, _, h⟩ := bind_ok.mp h
  obtain ⟨_, _, h⟩ := bind_ok.mp h
  obtain ⟨_, _, h⟩ := bind_ok.mp h
  cases h
  have hkeys : ∀ key ∈ [ascii "ice-lite", ascii "ice-options", ascii "ice-ufrag", ascii "ice-pwd",
      ascii "fingerprint", ascii "setup", ascii "msid-semantic"], key ≠ ascii "group" := by decide
  simp only [List.forall_mem_cons] at hkeys
  simp [parseBundleMids, findAttributes, hkeys]

/-! ## Answers -/

theorem mem_acceptedIndexes {sections : List MediaDescription} {index : ℕ} :
    index ∈ acceptedIndexes sections ↔
      ∃ answered, sections[index]? = some answered ∧ answered.mediaName.port ≠ 0 := by
  rw [acceptedIndexes, List.mem_filter, List.mem_range, Option.any_eq_true]
  constructor
  · intro h
    obtain ⟨answered, hplace, hport⟩ := h.2
    exact ⟨answered, hplace, by simpa [isAnswerMediaRejected] using hport⟩
  · intro h
    obtain ⟨answered, hplace, hport⟩ := h
    refine ⟨(List.getElem?_eq_some_iff.mp hplace).1, answered, hplace, ?_⟩
    simpa [isAnswerMediaRejected] using hport

theorem acceptedIndexes_answerable {options : SdpAnswerOptions} {offer : WebrtcOfferSummary}
    {publisherOffer : Option WebrtcOfferSummary} {index : ℕ} :
    index ∈ acceptedIndexes (answerMediaDescriptions options offer publisherOffer) ↔
      Answerable offer publisherOffer index := by
  rw [mem_acceptedIndexes, answerMediaDescriptions, List.getElem?_mapIdx]
  cases hplace : offer.media[index]? with
  | none => simp [Answerable, hplace]
  | some media =>
      simp only [Option.map_some, Option.some.injEq, exists_eq_left', makeAnswerMedia_port,
        Answerable, hplace]

/-- The answer mirrors the audio and video sections, and accepts those it can answer. -/
theorem answer_mirrors_offer {text : Text} {description : SessionDescription}
    {offer : WebrtcOfferSummary} {publisherOffer : Option WebrtcOfferSummary}
    {options : SdpAnswerOptions} {answer : BuiltSdpAnswer}
    (h : OfferAnswered text description offer publisherOffer options answer) :
    List.Forall₂ (fun value (offered : MediaDescription) =>
        parseMediaNameLine value = .ok offered.mediaName)
      (mediaLines text) description.mediaDescriptions ∧
    Mirrors (description.mediaDescriptions.filter isAudioOrVideo) answer ∧
    ∀ index, (index ∈ answer.acceptedMlineIndexes ↔ ∃ answered,
        answer.description.mediaDescriptions[index]? = some answered ∧
          answered.mediaName.port ≠ 0) ∧
      (index ∈ answer.acceptedMlineIndexes ↔ Answerable offer publisherOffer index) := by
  obtain ⟨hsections, haccepted, _⟩ := buildAnswer_ok h.answered
  obtain ⟨hsummaries, hmids⟩ := extractWebrtcOfferSummary_sections h.extracted
  refine ⟨parseSessionDescription_sections h.parsed, ?_, ?_⟩
  · have hword : ∀ mid ∈ midsAt offer answer.acceptedMlineIndexes, IsWord mid := by
      intro mid hmid
      obtain ⟨index, hindex, rfl⟩ := List.mem_map.mp hmid
      rw [haccepted, acceptedIndexes_answerable] at hindex
      obtain ⟨media, hplace, _⟩ := hindex
      rw [hplace]
      exact parseBundleMids_isWord (hmids media (List.mem_of_getElem? hplace))
    constructor
    · rw [hsections, answerMediaDescriptions, List.forall₂_iff_get]
      refine ⟨by rw [List.length_mapIdx, hsummaries.length_eq], ?_⟩
      intro place hoffered hanswered
      rw [List.length_mapIdx] at hanswered
      have hsummary := hsummaries.get hoffered hanswered
      have hname := parseMediaSummary_name hsummary
      have hanswer := makeAnswerMedia_name options (offer.media.get ⟨place, hanswered⟩) place
        offer publisherOffer
      rw [List.get_eq_getElem, List.get_eq_getElem, List.getElem_mapIdx]
      exact ⟨hanswer.1.trans hname.1, _, hname.2.1, hname.2.2, hanswer.2⟩
    · rw [haccepted]
      exact (List.pairwise_lt_range).filter _
    · intro index answered hplace hnot
      rw [haccepted, mem_acceptedIndexes] at hnot
      rw [hsections] at hplace
      exact not_not.mp fun hport => hnot ⟨answered, hplace, hport⟩
    · rw [buildAnswer_bundle h.answered, bundleMidsOf_group hword, midsAt,
        List.forall₂_map_right_iff, List.forall₂_same]
      intro index hindex
      rw [haccepted, acceptedIndexes_answerable] at hindex
      obtain ⟨media, hplace, _⟩ := hindex
      refine ⟨makeAnswerMedia options media index offer publisherOffer, ?_, ?_⟩
      · rw [hsections, answerMediaDescriptions, List.getElem?_mapIdx, hplace, Option.map_some]
      · rw [hplace]
        exact (makeAnswerMedia_name options media index offer publisherOffer).2
  · intro index
    constructor
    · rw [haccepted, hsections, mem_acceptedIndexes]
    · rw [haccepted, acceptedIndexes_answerable]

/-! ## An offer with a data channel -/

def sdpText (lines : List String) : Text :=
  lines.flatMap fun line => ascii line ++ ascii "\r\n"

def dataChannelText : Text :=
  sdpText ["v=0", "o=- 1 1 IN IP4 127.0.0.1", "s=-", "t=0 0", "a=group:BUNDLE 0 1",
    "a=ice-ufrag:ufrag", "a=ice-pwd:password",
    "a=fingerprint:sha-256 00:00:00:00:00:00:00:00:00:00:00:00:00:00:00:00:" ++
      "00:00:00:00:00:00:00:00:00:00:00:00:00:00:00:00",
    "a=setup:actpass", "m=application 9 UDP/DTLS/SCTP webrtc-datachannel", "a=mid:0",
    "m=video 9 UDP/TLS/RTP/SAVPF 96", "a=mid:1", "a=sendonly", "a=rtcp-mux",
    "a=rtpmap:96 VP8/90000"]

def dataChannelDescription : SessionDescription :=
  publisherDescription "BUNDLE 0 1" [{
    mediaName :=
      { media := ascii "application", port := 9, formats := [ascii "webrtc-datachannel"] }
    attributes := [⟨ascii "mid", ascii "0"⟩] }, vp8Section "1"]

def dataChannelOffer : WebrtcOfferSummary :=
  ((extractWebrtcOfferSummary dataChannelDescription).toOption).getD {}

def dataChannelAnswer : BuiltSdpAnswer :=
  ((buildAnswer dataChannelOffer localOptions none).toOption).getD ⟨{}, []⟩

theorem dataChannel_answered : OfferAnswered dataChannelText dataChannelDescription
    dataChannelOffer none localOptions dataChannelAnswer := by
  constructor
  · decide +kernel
  · decide +kernel
  · decide +kernel
  · intro publisher hpublisher
    cases hpublisher
  · decide +kernel

theorem answer_mirrors_offer_dataChannel :
    Mirrors (dataChannelDescription.mediaDescriptions.filter isAudioOrVideo) dataChannelAnswer :=
  (answer_mirrors_offer dataChannel_answered).2.1

/-- The data channel has no section in the answer. -/
theorem answer_leaves_out_section :
    ¬ ∀ (text : Text) (description : SessionDescription) (offer : WebrtcOfferSummary)
      (publisherOffer : Option WebrtcOfferSummary) (options : SdpAnswerOptions)
      (answer : BuiltSdpAnswer),
      OfferAnswered text description offer publisherOffer options answer →
      Mirrors description.mediaDescriptions answer ∧
        ∀ index, index ∈ answer.acceptedMlineIndexes ↔ ∃ offered,
          description.mediaDescriptions[index]? = some offered ∧ offered.mediaName.port ≠ 0 := by
  intro hall
  have hlength := (hall _ _ _ _ _ _ dataChannel_answered).1.sections.length_eq
  have hoffered : dataChannelDescription.mediaDescriptions.length = 2 := by decide +kernel
  have hanswered : dataChannelAnswer.description.mediaDescriptions.length = 1 := by
    decide +kernel
  rw [hoffered, hanswered] at hlength
  cases hlength

end SimpleWebrtc.SdpAnswer
