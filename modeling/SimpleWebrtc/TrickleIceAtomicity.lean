import SimpleWebrtc.TrickleIcePatch

/-!
# What a refused PATCH leaves behind

The candidates of a request which are new to the session, taken without
repetition, tell the outcome before it happens: all of them are stored when they
fit into the room the session has and none comes after the end of the
candidates. Otherwise the request is refused, and it has left no trace only when
the first of them was the one refused.
-/
namespace SimpleWebrtc.TrickleIcePatch
open Library Library.Text SdpSummary IceCandidate TrickleIceSdpfrag

theorem matches_refl (c : RemoteIceCandidate) : remoteIceCandidateMatches c c = true := by
  simp [remoteIceCandidateMatches]

theorem matches_congr {a b : RemoteIceCandidate} (h : remoteIceCandidateMatches a b = true)
    (c : RemoteIceCandidate) :
    remoteIceCandidateMatches c a = remoteIceCandidateMatches c b := by
  simp only [remoteIceCandidateMatches, decide_eq_true_eq] at h
  simp only [remoteIceCandidateMatches, h]

theorem matches_end {a b : RemoteIceCandidate} (h : remoteIceCandidateMatches a b = true) :
    a.endOfCandidates = b.endOfCandidates := by
  simp only [remoteIceCandidateMatches, decide_eq_true_eq] at h
  exact h.1

namespace IceSession
variable {s : IceSession} {c x : RemoteIceCandidate}

/-- A candidate the loop hands to the session. -/
def isNew (s : IceSession) (candidate : RemoteIceCandidate) : Bool :=
  s.remoteIceCandidateMediaIsAccepted candidate && !s.remoteIceCandidateAlreadyKnown candidate

/-- The new candidates of a request, each once, in their order. -/
def newCandidates (s : IceSession) : List RemoteIceCandidate → List RemoteIceCandidate
  | [] => []
  | candidate :: rest =>
    if s.isNew candidate then
      candidate ::
        (newCandidates s rest).filter fun other => !remoteIceCandidateMatches candidate other
    else newCandidates s rest

/-- How many candidates the session still takes. -/
def room (s : IceSession) : ℕ :=
  if s.remoteIceCompleted then 0 else kMaxRemoteIceCandidates - s.remoteIceCandidates.length

theorem remoteIceCompleted_push (s : IceSession) (c : RemoteIceCandidate) :
    (s.push c).remoteIceCompleted = c.endOfCandidates := by
  simp [remoteIceCompleted, push]

/-- What is new changes with a stored candidate: its copies are known, and behind the end of the
candidates so is every other end. -/
theorem isNew_push (hopen : s.remoteIceCompleted = false) (c x : RemoteIceCandidate) :
    (s.push c).isNew x = (s.isNew x &&
      (!remoteIceCandidateMatches c x && !(c.endOfCandidates && x.endOfCandidates))) := by
  have hmedia : (s.push c).remoteIceCandidateMediaIsAccepted x =
      s.remoteIceCandidateMediaIsAccepted x := rfl
  have hlist : (s.push c).remoteIceCandidates = s.remoteIceCandidates ++ [c] := rfl
  simp only [isNew, hmedia, remoteIceCandidateAlreadyKnown, remoteIceCompleted_push, hopen, hlist,
    List.any_append, List.any_cons, List.any_nil, Bool.or_false, Bool.and_false, Bool.false_or,
    Bool.not_or]
  rw [Bool.and_comm x.endOfCandidates, Bool.and_assoc]
  congr 1
  rw [Bool.and_comm, Bool.and_assoc]

theorem newCandidates_filter {s' : IceSession} {keep : RemoteIceCandidate → Bool}
    (hkeep : ∀ x, s'.isNew x = (s.isNew x && keep x))
    (hcongr : ∀ x y, remoteIceCandidateMatches x y = true → keep x = keep y)
    (candidates : List RemoteIceCandidate) :
    s'.newCandidates candidates = (s.newCandidates candidates).filter keep := by
  induction candidates with
  | nil => rfl
  | cons x rest ih =>
      rw [newCandidates, newCandidates, hkeep, ih]
      cases hnew : s.isNew x with
      | false => rfl
      | true =>
          cases hx : keep x with
          | true =>
              simp only [Bool.and_self, if_true, List.filter_cons_of_pos, hx, List.filter_filter,
                Bool.and_comm]
          | false =>
              simp only [Bool.and_false, Bool.false_eq_true, if_false, if_true, hx,
                not_false_eq_true, List.filter_cons_of_neg, List.filter_filter]
              apply List.filter_congr
              intro y _
              cases hmatch : remoteIceCandidateMatches x y with
              | false => simp
              | true =>
                  rw [← hcongr x y hmatch, hx]
                  rfl

theorem newCandidates_push (hopen : s.remoteIceCompleted = false) (c : RemoteIceCandidate)
    (candidates : List RemoteIceCandidate) :
    (s.push c).newCandidates candidates =
      ((s.newCandidates candidates).filter fun x => !remoteIceCandidateMatches c x).filter
        fun x => !(c.endOfCandidates && x.endOfCandidates) := by
  rw [newCandidates_filter (isNew_push hopen c), List.filter_filter]
  · apply List.filter_congr
    intro x _
    exact Bool.and_comm _ _
  · intro x y hmatch
    rw [matches_congr hmatch c, matches_end hmatch]

/-! ## The loop in closed form -/

def plainCount (candidates : List RemoteIceCandidate) : ℕ :=
  (candidates.filter fun c => !c.endOfCandidates).length

/-- Nothing but ends follows the first end. -/
def endsLast (candidates : List RemoteIceCandidate) : Bool :=
  (candidates.dropWhile fun c => !c.endOfCandidates).all RemoteIceCandidate.endOfCandidates

/-- The session takes all of these new candidates. -/
def Fits (s : IceSession) (fresh : List RemoteIceCandidate) : Prop :=
  endsLast fresh = true ∧ plainCount fresh ≤ s.room

/-- The session refuses the first of these new candidates. -/
def RefusesFirst (s : IceSession) (fresh : List RemoteIceCandidate) : Prop :=
  s.room = 0 ∧ fresh.head?.any (fun c => !c.endOfCandidates) = true

theorem addRemoteIceCandidate_cases (s : IceSession) (c : RemoteIceCandidate) :
    (c.endOfCandidates = true ∧ s.addRemoteIceCandidate c = .ok (s.push c)) ∨
      (c.endOfCandidates = false ∧ s.room = 0 ∧
        ∃ error, s.addRemoteIceCandidate c = .error error) ∨
      (c.endOfCandidates = false ∧ s.remoteIceCompleted = false ∧
        s.room = (s.push c).room + 1 ∧ s.addRemoteIceCandidate c = .ok (s.push c)) := by
  unfold addRemoteIceCandidate
  cases hend : c.endOfCandidates with
  | true => exact .inl ⟨rfl, rfl⟩
  | false =>
      cases hopen : s.remoteIceCompleted with
      | true => exact .inr (.inl ⟨rfl, by simp [room, hopen], _, rfl⟩)
      | false =>
          by_cases hfull : s.remoteIceCandidates.length ≥ kMaxRemoteIceCandidates
          · refine .inr (.inl ⟨rfl, ?_, _, by simp [hfull]; rfl⟩)
            simp only [room, hopen]
            exact Nat.sub_eq_zero_of_le hfull
          · refine .inr (.inr ⟨rfl, rfl, ?_, by simp [hfull]⟩)
            have hlength : (s.push c).remoteIceCandidates.length =
                s.remoteIceCandidates.length + 1 := by simp [push]
            simp only [room, hopen, remoteIceCompleted_push, hend, hlength, Bool.false_eq_true,
              if_false]
            omega

theorem addCandidates_skip (hnew : s.isNew c = false) (rest : List RemoteIceCandidate) :
    s.addCandidates (c :: rest) = s.addCandidates rest := by
  rw [addCandidates]
  cases hmedia : s.remoteIceCandidateMediaIsAccepted c with
  | false => rfl
  | true =>
      have hknown : s.remoteIceCandidateAlreadyKnown c = true := by
        simpa [isNew, hmedia] using hnew
      simp [hknown]

theorem mediaIsAccepted_of_new (hnew : s.isNew c = true) :
    s.remoteIceCandidateMediaIsAccepted c = true ∧
      s.remoteIceCandidateAlreadyKnown c = false := by
  simpa [isNew] using hnew

theorem addCandidates_refused {error : Text} (hnew : s.isNew c = true)
    (hadd : s.addRemoteIceCandidate c = .error error) (rest : List RemoteIceCandidate) :
    s.addCandidates (c :: rest) = (s, .error error) := by
  obtain ⟨hmedia, hknown⟩ := mediaIsAccepted_of_new hnew
  simp [addCandidates, hmedia, hknown, hadd]

theorem addCandidates_stored (hnew : s.isNew c = true)
    (hadd : s.addRemoteIceCandidate c = .ok (s.push c)) (rest : List RemoteIceCandidate) :
    s.addCandidates (c :: rest) = (s.push c).addCandidates rest := by
  obtain ⟨hmedia, hknown⟩ := mediaIsAccepted_of_new hnew
  simp [addCandidates, hmedia, hknown, hadd]

/-- An end which is new finds the candidates open. -/
theorem open_of_new_end (hnew : s.isNew c = true) (hend : c.endOfCandidates = true) :
    s.remoteIceCompleted = false := by
  simp only [isNew, remoteIceCandidateAlreadyKnown, hend, Bool.true_and, Bool.and_eq_true,
    Bool.not_eq_true', Bool.or_eq_false_iff] at hnew
  exact hnew.2.1

/-- The loop only appends. -/
theorem addCandidates_appends (s : IceSession) (candidates : List RemoteIceCandidate) :
    ∃ added, (s.addCandidates candidates).1 =
      { s with remoteIceCandidates := s.remoteIceCandidates ++ added } := by
  induction candidates generalizing s with
  | nil => exact ⟨[], by simp [addCandidates]⟩
  | cons c rest ih =>
      cases hnew : s.isNew c with
      | false =>
          rw [addCandidates_skip hnew]
          exact ih s
      | true =>
          have hpushed : ∃ added, ((s.push c).addCandidates rest).1 =
              { s with remoteIceCandidates := s.remoteIceCandidates ++ added } := by
            obtain ⟨added, hadded⟩ := ih (s.push c)
            refine ⟨c :: added, ?_⟩
            rw [hadded]
            simp [push]
          rcases addRemoteIceCandidate_cases s c with
            ⟨-, hadd⟩ | ⟨-, -, error, hadd⟩ | ⟨-, -, -, hadd⟩
          · rwa [addCandidates_stored hnew hadd]
          · rw [addCandidates_refused hnew hadd]
            exact ⟨[], by simp⟩
          · rwa [addCandidates_stored hnew hadd]

theorem endsLast_cons_end (hend : c.endOfCandidates = true) (fresh : List RemoteIceCandidate) :
    endsLast (c :: fresh) = true ↔ plainCount fresh = 0 := by
  simp [endsLast, plainCount, hend, List.filter_eq_nil_iff]

theorem fits_cons_end (hend : c.endOfCandidates = true) (fresh : List RemoteIceCandidate) :
    s.Fits (c :: fresh) ↔ plainCount fresh = 0 := by
  have hplain : plainCount (c :: fresh) = plainCount fresh := by simp [plainCount, hend]
  rw [Fits, endsLast_cons_end hend, hplain]
  omega

theorem fits_cons_plain (hend : c.endOfCandidates = false) (fresh : List RemoteIceCandidate) :
    s.Fits (c :: fresh) ↔ endsLast fresh = true ∧ plainCount fresh + 1 ≤ s.room := by
  have hplain : plainCount (c :: fresh) = plainCount fresh + 1 := by simp [plainCount, hend]
  have hends : endsLast (c :: fresh) = endsLast fresh := by simp [endsLast, hend]
  rw [Fits, hplain, hends]

/-- Behind the end of the candidates only plain ones are new, and none is taken. -/
theorem fits_completed (hcompleted : s.remoteIceCompleted = true)
    (fresh : List RemoteIceCandidate) :
    s.Fits (fresh.filter fun x => !x.endOfCandidates) ↔ plainCount fresh = 0 := by
  have hroom : s.room = 0 := by simp [room, hcompleted]
  have hplain : plainCount (fresh.filter fun x => !x.endOfCandidates) = plainCount fresh := by
    simp [plainCount, List.filter_filter]
  rw [Fits, hroom, hplain]
  constructor
  · intro h
    exact Nat.le_zero.mp h.2
  · intro h
    have hnil : fresh.filter (fun x => !x.endOfCandidates) = [] := List.eq_nil_of_length_eq_zero h
    exact ⟨by rw [hnil]; rfl, h.le⟩

/-- The loop succeeds exactly when the session takes all the new candidates. -/
theorem addCandidates_ok_iff (s : IceSession) (candidates : List RemoteIceCandidate) :
    (s.addCandidates candidates).2 = .ok () ↔ s.Fits (s.newCandidates candidates) := by
  induction candidates generalizing s with
  | nil => simp [addCandidates, newCandidates, Fits, endsLast, plainCount]
  | cons c rest ih =>
      rw [newCandidates]
      cases hnew : s.isNew c with
      | false =>
          rw [addCandidates_skip hnew]
          exact ih s
      | true =>
          rw [if_pos rfl]
          rcases addRemoteIceCandidate_cases s c with
            ⟨hend, hadd⟩ | ⟨hend, hroom, error, hadd⟩ | ⟨hend, hopen, hroom, hadd⟩
          · have hfresh := newCandidates_push (open_of_new_end hnew hend) c rest
            simp only [hend, Bool.true_and] at hfresh
            have hcompleted := (remoteIceCompleted_push s c).trans hend
            rw [addCandidates_stored hnew hadd, ih, hfresh, fits_completed hcompleted,
              fits_cons_end hend]
          · rw [addCandidates_refused hnew hadd, fits_cons_plain hend, hroom]
            simp
          · have hfresh := newCandidates_push hopen c rest
            simp only [hend, Bool.false_and, Bool.not_false, List.filter_true] at hfresh
            rw [addCandidates_stored hnew hadd, ih, hfresh, fits_cons_plain hend, Fits, hroom,
              Nat.add_le_add_iff_right]

/-- A refused request leaves the list as it was exactly when its first new candidate is the one
refused. -/
theorem addCandidates_unchanged_iff {error : Text} (candidates : List RemoteIceCandidate)
    (hrefused : (s.addCandidates candidates).2 = .error error) :
    (s.addCandidates candidates).1.remoteIceCandidates = s.remoteIceCandidates ↔
      s.RefusesFirst (s.newCandidates candidates) := by
  induction candidates with
  | nil => cases hrefused
  | cons c rest ih =>
      rw [newCandidates]
      cases hnew : s.isNew c with
      | false =>
          rw [addCandidates_skip hnew] at hrefused ⊢
          exact ih hrefused
      | true =>
          have hstored : ((s.push c).addCandidates rest).1.remoteIceCandidates ≠
              s.remoteIceCandidates := by
            obtain ⟨added, hadded⟩ := addCandidates_appends (s.push c) rest
            intro heq
            rw [hadded] at heq
            have hlength := congrArg List.length heq
            simp [push] at hlength
          rw [if_pos rfl]
          rcases addRemoteIceCandidate_cases s c with
            ⟨hend, hadd⟩ | ⟨hend, hroom, error, hadd⟩ | ⟨hend, hopen, hroom, hadd⟩
          · simp [addCandidates_stored hnew hadd, hstored, RefusesFirst, hend]
          · simp [addCandidates_refused hnew hadd, hroom, RefusesFirst, hend]
          · simp [addCandidates_stored hnew hadd, hstored, RefusesFirst, hroom]

/-! ## Repeating a request -/

/-- What is not new stays so while candidates are stored, and a stored one is not new again. -/
theorem not_new_push (hnew : s.isNew c = true)
    (hadd : s.addRemoteIceCandidate c = .ok (s.push c)) {x : RemoteIceCandidate}
    (hx : s.isNew x = false ∨ x = c) : (s.push c).isNew x = false := by
  have hopen : s.remoteIceCompleted = false := by
    rcases addRemoteIceCandidate_cases s c with ⟨hend, -⟩ | ⟨-, -, error, herror⟩ | ⟨-, hopen, -, -⟩
    · exact open_of_new_end hnew hend
    · rw [hadd] at herror
      cases herror
    · exact hopen
  rw [isNew_push hopen]
  rcases hx with hx | rfl
  · rw [hx, Bool.false_and]
  · rw [matches_refl]
    simp

theorem not_new_after (candidates : List RemoteIceCandidate)
    (hok : (s.addCandidates candidates).2 = .ok ()) {x : RemoteIceCandidate}
    (hx : s.isNew x = false ∨ x ∈ candidates) :
    (s.addCandidates candidates).1.isNew x = false := by
  induction candidates generalizing s with
  | nil => exact hx.resolve_right List.not_mem_nil
  | cons c rest ih =>
      rw [List.mem_cons] at hx
      cases hnew : s.isNew c with
      | false =>
          rw [addCandidates_skip hnew] at hok ⊢
          apply ih hok
          rcases hx with hx | rfl | hx
          · exact .inl hx
          · exact .inl hnew
          · exact .inr hx
      | true =>
          have hstored : s.addRemoteIceCandidate c = .ok (s.push c) := by
            rcases addRemoteIceCandidate_cases s c with
              ⟨-, hadd⟩ | ⟨-, -, error, hadd⟩ | ⟨-, -, -, hadd⟩
            · exact hadd
            · rw [addCandidates_refused hnew hadd] at hok
              cases hok
            · exact hadd
          rw [addCandidates_stored hnew hstored] at hok ⊢
          apply ih hok
          rcases hx with hx | hx | hx
          · exact .inl (not_new_push hnew hstored (.inl hx))
          · exact .inl (not_new_push hnew hstored (.inr hx))
          · exact .inr hx

theorem addCandidates_nothing_new {candidates : List RemoteIceCandidate}
    (h : ∀ x ∈ candidates, s.isNew x = false) : s.addCandidates candidates = (s, .ok ()) := by
  induction candidates with
  | nil => rfl
  | cons c rest ih =>
      rw [addCandidates_skip (h c (by simp))]
      exact ih fun x hx => h x (List.mem_cons_of_mem c hx)

theorem addCandidates_again {candidates : List RemoteIceCandidate}
    (hok : (s.addCandidates candidates).2 = .ok ()) :
    (s.addCandidates candidates).1.addCandidates candidates =
      ((s.addCandidates candidates).1, .ok ()) :=
  addCandidates_nothing_new fun _ hx => not_new_after candidates hok (.inr hx)

end IceSession

section
variable (isIpLiteral : Text → Bool) (request : PatchRequest) (s : IceSession) (message : Text)

/-- The checks do not look at the candidates the session has. -/
theorem checkPatchRequest_candidates (stored : List RemoteIceCandidate) :
    checkPatchRequest isIpLiteral request (some { s with remoteIceCandidates := stored }) message =
      (fun checked => ({ checked.1 with remoteIceCandidates := stored }, checked.2)) <$>
        checkPatchRequest isIpLiteral request (some s) message := by
  simp only [checkPatchRequest, orError, map_bind, map_pure]
  rfl

theorem checkPatchRequest_session {s' : IceSession} {candidates : List RemoteIceCandidate}
    (h : checkPatchRequest isIpLiteral request (some s) message = .ok (s', candidates)) :
    s' = s := by
  unfold checkPatchRequest at h
  obtain ⟨_, _, h⟩ := bind_ok.mp h
  obtain ⟨_, _, h⟩ := bind_ok.mp h
  obtain ⟨found, hfound, h⟩ := bind_ok.mp h
  obtain ⟨_, _, h⟩ := bind_ok.mp h
  obtain ⟨_, _, h⟩ := bind_ok.mp h
  obtain ⟨_, _, h⟩ := bind_ok.mp h
  obtain ⟨_, _, h⟩ := bind_ok.mp h
  obtain ⟨_, _, h⟩ := bind_ok.mp h
  cases h
  exact (Option.some.inj (orError_ok.mp hfound)).symm

/-- What the request promises: refused, it has stored nothing; taken, it can be repeated. -/
def AllOrNothing : Prop :=
  let handled := handleTrickleIcePatchRequest isIpLiteral request (some s) message
  (handled.2 ≠ .ok () → handled.1.map IceSession.remoteIceCandidates =
      some s.remoteIceCandidates) ∧
    (handled.2 = .ok () →
      handleTrickleIcePatchRequest isIpLiteral request handled.1 message = (handled.1, .ok ()))

/-- A request is all or nothing exactly when it is refused as a whole, or its new candidates are
all taken, or the first of them is refused. -/
theorem patch_all_or_nothing_iff :
    AllOrNothing isIpLiteral request s message ↔
      ∀ s' candidates,
        checkPatchRequest isIpLiteral request (some s) message = .ok (s', candidates) →
        s.Fits (s.newCandidates candidates) ∨ s.RefusesFirst (s.newCandidates candidates) := by
  unfold AllOrNothing handleTrickleIcePatchRequest
  cases hcheck : checkPatchRequest isIpLiteral request (some s) message with
  | error error => simp
  | ok checked =>
      obtain ⟨s', candidates⟩ := checked
      obtain rfl := checkPatchRequest_session isIpLiteral request s message hcheck
      have hcondition : (∀ s'' candidates', Except.ok (s', candidates) =
            (Except.ok (s'', candidates') : Except PatchError _) →
          s'.Fits (s'.newCandidates candidates') ∨ s'.RefusesFirst (s'.newCandidates candidates')) ↔
          s'.Fits (s'.newCandidates candidates) ∨ s'.RefusesFirst (s'.newCandidates candidates) := by
        simp
      rw [hcondition]
      obtain ⟨added, hadded⟩ := s'.addCandidates_appends candidates
      cases hloop : (s'.addCandidates candidates).2 with
      | error error =>
          have hrefused : ¬s'.Fits (s'.newCandidates candidates) := by
            rw [← IceSession.addCandidates_ok_iff, hloop]
            simp
          have hunchanged := IceSession.addCandidates_unchanged_iff candidates hloop
          simp [hloop, asPatchError, hunchanged, hrefused]
      | ok u =>
          have hfits := (IceSession.addCandidates_ok_iff s' candidates).mp hloop
          have hagain := IceSession.addCandidates_again hloop
          have hchecked : checkPatchRequest isIpLiteral request
              (some (s'.addCandidates candidates).1) message =
                .ok ((s'.addCandidates candidates).1, candidates) := by
            rw [hadded, checkPatchRequest_candidates, hcheck]
            rfl
          simp [hloop, asPatchError, hchecked, hagain, hfits]

/-! ## A fragment of two sections -/
end

def audioVideoOffer : WebrtcOfferSummary where
  iceUfrag := ascii "user"
  icePwd := ascii "password"
  media := [{ mid := ascii "0" }, { mid := ascii "1" }]

def openSession : IceSession where
  sessionId := ascii "7"
  remoteOfferSummary := audioVideoOffer
  acceptedRemoteMediaMlineIndexes := [0, 1]

def candidateLine : Text := ascii "a=candidate:1 1 udp 2130706431 192.0.2.1 5000 typ host\n"

/-- Each section has a candidate and the end of its candidates. -/
def twoSections : PatchRequest where
  contentType := ascii "application/trickle-ice-sdpfrag"
  ifMatch := ascii "\"7\""
  body := ascii "m=audio 9 UDP/TLS/RTP/SAVPF 111\na=mid:0\n" ++ candidateLine ++
    ascii "a=end-of-candidates\nm=video 9 UDP/TLS/RTP/SAVPF 96\na=mid:1\n" ++ candidateLine ++
    ascii "a=end-of-candidates\n"

/-- The one address of the fragment is an IP literal. -/
def isExampleAddress (text : Text) : Bool := decide (text = ascii "192.0.2.1")

/-- The candidate of the second section is refused, those of the first one stay. -/
theorem twoSections_partly_stored :
    ¬∀ isIpLiteral request s message, AllOrNothing isIpLiteral request s message := by
  intro hclaim
  have hrefused : (handleTrickleIcePatchRequest isExampleAddress twoSections (some openSession)
      []).2 ≠ .ok () := by decide +kernel
  have hunchanged := (hclaim isExampleAddress twoSections openSession []).1 hrefused
  revert hunchanged
  decide +kernel

end SimpleWebrtc.TrickleIcePatch
