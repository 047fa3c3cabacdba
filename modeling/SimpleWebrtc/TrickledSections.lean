import SimpleWebrtc.IceCandidateAcceptance
import SimpleWebrtc.TrickleIceAtomicity

/-!
# Trickled candidates and their sections

A candidate line of a fragment belongs to the section which the last mid line
before it names. The parser gives the candidate that mid and the number of the
media line in the fragment, and the handler compares this number with the index
the section had in the offer. The end of the candidates is kept for the session
and not for its sections. Which candidate lines reach their section follows from
these two.
-/
namespace SimpleWebrtc.TrickleIcePatch
open Library Library.Text SdpSummary IceCandidate TrickleIceSdpfrag

/-! ## Lines of a fragment -/

def isMediaLine (line : Text) : Bool := startsWith (trim isSpace line) (ascii "m=")

/-- The mid which a line names. -/
def midOfLine (line : Text) : Option Text :=
  let line := trim isSpace line
  if startsWith line (ascii "a=mid:") then some (trim isSpace (line.drop 6)) else none

def isCandidateLine (line : Text) : Bool :=
  let line := trim isSpace line
  startsWith line (ascii "a=candidate:") || startsWith line (ascii "candidate:")

/-- The candidate attribute in a line. -/
def candidateText (line : Text) : Text :=
  let line := trim isSpace line
  if startsWith line (ascii "a=") then line.drop 2 else line

/-- The last mid line names `mid`, and no media line comes after it. -/
def Names (before : List Text) (mid : Text) : Prop :=
  ∃ earlier midLine between, before = earlier ++ midLine :: between ∧
    isMediaLine midLine = false ∧ midOfLine midLine = some mid ∧
      ∀ line ∈ between, isMediaLine line = false ∧ midOfLine line = none

/-- The number of the section, counted by the media lines of the fragment. -/
def sectionIndex (before : List Text) : ℕ := before.countP isMediaLine - 1

/-- The mid in force after some lines. -/
def midAfter (mid : Text) (lines : List Text) : Text :=
  lines.foldl (fun mid line => if isMediaLine line then [] else (midOfLine line).getD mid) mid

theorem midAfter_append (mid : Text) (lines more : List Text) :
    midAfter mid (lines ++ more) = midAfter (midAfter mid lines) more := by
  simp [midAfter, List.foldl_append]

theorem midAfter_cons (mid line : Text) (rest : List Text) :
    midAfter mid (line :: rest) =
      midAfter (if isMediaLine line then [] else (midOfLine line).getD mid) rest := rfl

theorem midAfter_other {mid : Text} {lines : List Text}
    (h : ∀ line ∈ lines, isMediaLine line = false ∧ midOfLine line = none) :
    midAfter mid lines = mid := by
  induction lines with
  | nil => rfl
  | cons line rest ih =>
      obtain ⟨hmedia, hmid⟩ := h line (by simp)
      rw [midAfter_cons, hmedia, hmid]
      exact ih fun other hother => h other (List.mem_cons_of_mem line hother)

theorem Names.midAfter {before : List Text} {mid : Text} (h : Names before mid) (start : Text) :
    midAfter start before = mid := by
  obtain ⟨earlier, midLine, between, rfl, hmedia, hmid, hbetween⟩ := h
  rw [midAfter_append, midAfter_cons, hmedia, hmid]
  exact midAfter_other hbetween

/-- The mid in force was named, unless it was there from the start. -/
theorem names_of_midAfter {before : List Text} (hne : midAfter [] before ≠ []) :
    Names before (midAfter [] before) := by
  induction before using List.reverseRecOn with
  | nil => exact absurd rfl hne
  | append_singleton before line ih =>
      rw [midAfter_append, midAfter_cons] at hne ⊢
      cases hmedia : isMediaLine line with
      | true =>
          rw [hmedia] at hne
          exact absurd rfl hne
      | false =>
          rw [hmedia] at hne
          cases hmid : midOfLine line with
          | some mid =>
              refine ⟨before, line, [], rfl, hmedia, ?_, by simp⟩
              rw [hmid]
              rfl
          | none =>
              rw [hmid] at hne
              obtain ⟨earlier, midLine, between, hbefore, hline, hnamed, hbetween⟩ := ih hne
              refine ⟨earlier, midLine, between ++ [line], ?_, hline, ?_, ?_⟩
              · rw [hbefore]
                simp
              · exact hnamed
              · intro other hother
                cases List.mem_append.mp hother with
                | inl hother => exact hbetween other hother
                | inr hother =>
                    rw [List.mem_singleton.mp hother]
                    exact ⟨hmedia, hmid⟩

/-! ## What the parser reads -/

section
variable {isIpLiteral : Text → Bool}

/-- A candidate has the section it was read for, and a candidate attribute is no end. -/
theorem makeRemoteIceCandidate_section {text mid : Text} {index : ℤ} {c : RemoteIceCandidate}
    (h : makeRemoteIceCandidate isIpLiteral text mid index = .ok c) :
    c.sdpMid = mid ∧ c.sdpMlineIndex = index ∧
      (c.endOfCandidates = true ↔ normalizeCandidateText text = .ok []) := by
  unfold makeRemoteIceCandidate at h
  obtain ⟨candidate, hcandidate, h⟩ := bind_ok.mp h
  obtain ⟨mid', hmid, h⟩ := bind_ok.mp h
  obtain ⟨_, _, h⟩ := bind_ok.mp h
  obtain ⟨_, h⟩ := ensure_bind_ok.mp h
  have hsame : mid' = mid := by
    unfold normalizeSdpMid at hmid
    obtain ⟨_, hmid⟩ := ensure_bind_ok.mp hmid
    obtain ⟨_, hmid⟩ := ensure_bind_ok.mp hmid
    obtain ⟨_, hmid⟩ := ensure_bind_ok.mp hmid
    exact (pure_ok.mp hmid)
  rw [hsame] at h
  rw [hcandidate]
  dsimp only at h
  split_ifs at h with hend
  · obtain rfl := pure_ok.mp h
    refine ⟨rfl, rfl, ?_⟩
    simp
  · obtain ⟨line, hwords⟩ := exists_line_of_parse h
    obtain ⟨_, rfl⟩ := (parseCandidateFields_words hwords).mp h
    refine ⟨rfl, rfl, ?_⟩
    simp [CandidateLine.readInto]

theorem normalizeCandidateText_prefixed {text : Text} (h : startsWith text kCandidatePrefix = true) :
    normalizeCandidateText text ≠ .ok [] := by
  obtain ⟨rest, rfl⟩ := List.isPrefixOf_iff_prefix.mp h
  have hgap : IsGap isBlank [] := by
    intro c hc
    cases hc
  have htrim : trim isBlank (kCandidatePrefix ++ rest) =
      kCandidatePrefix ++ rest.rdropWhile isBlank :=
    trim_gap_append (ascii "andidate:") 99 58 hgap rfl rfl rfl
  have hend : isEndOfCandidatesText (kCandidatePrefix ++ rest.rdropWhile isBlank) = false := rfl
  intro hok
  unfold normalizeCandidateText at hok
  obtain ⟨_, hok⟩ := ensure_bind_ok.mp hok
  obtain ⟨_, hok⟩ := ensure_bind_ok.mp hok
  rw [htrim] at hok
  simp only [hend, Bool.false_eq_true, ↓reduceIte] at hok
  obtain ⟨hstart, hok⟩ := ensure_bind_ok.mp hok
  rw [← pure_ok.mp hok] at hstart
  exact absurd hstart (by decide)

theorem candidateText_prefixed {line : Text} (h : isCandidateLine line = true) :
    startsWith (candidateText line) kCandidatePrefix = true := by
  simp only [isCandidateLine, Bool.or_eq_true, startsWith, List.isPrefixOf_iff_prefix] at h
  unfold candidateText
  dsimp only
  cases h with
  | inl h =>
      obtain ⟨rest, hrest⟩ := h
      rw [← hrest]
      rfl
  | inr h =>
      obtain ⟨rest, hrest⟩ := h
      rw [← hrest]
      rfl

/-- What one line does to the parser. -/
inductive LineRead (isIpLiteral : Text → Bool) (p : SdpfragParser) (line : Text) :
    SdpfragParser → Prop
  | media : isMediaLine line = true → isCandidateLine line = false → LineRead isIpLiteral p line
      { p with
        currentMlineIndex := p.nextMlineIndex
        nextMlineIndex := p.nextMlineIndex + 1
        currentMid := [] }
  | mid (mid : Text) : isMediaLine line = false → midOfLine line = some mid →
      isCandidateLine line = false → LineRead isIpLiteral p line { p with currentMid := mid }
  | candidate (c : RemoteIceCandidate) : isMediaLine line = false → midOfLine line = none →
      isCandidateLine line = true → p.currentMid ≠ [] →
      makeRemoteIceCandidate isIpLiteral (candidateText line) p.currentMid p.currentMlineIndex =
        .ok c → LineRead isIpLiteral p line (p.push c)
  | ends (c : RemoteIceCandidate) : isMediaLine line = false → midOfLine line = none →
      isCandidateLine line = false → c.endOfCandidates = true →
      LineRead isIpLiteral p line (p.push c)
  | other (result : TrickleIceSdpfragParseResult) : isMediaLine line = false →
      midOfLine line = none → isCandidateLine line = false →
      result.candidates = p.result.candidates → LineRead isIpLiteral p line { p with result }

theorem startsWith_other {text a b : Text} (ha : startsWith text a = true)
    (hab : startsWith a b = false) (hba : startsWith b a = false) :
    startsWith text b = false := by
  simp only [startsWith] at *
  by_contra hb
  rw [Bool.not_eq_false, List.isPrefixOf_iff_prefix] at hb
  rw [List.isPrefixOf_iff_prefix] at ha
  cases List.prefix_or_prefix_of_prefix ha hb with
  | inl h => simp [List.isPrefixOf_iff_prefix.mpr h] at hba
  | inr h => simp [List.isPrefixOf_iff_prefix.mpr h] at hab

theorem reportInvalid_ok {α : Type} {lineNumber : ℕ} {message : Text} {x : Except Text α} {a : α} :
    reportInvalid lineNumber message x = .ok a ↔ x = .ok a := by
  cases x <;> simp [reportInvalid]

theorem parseLine_read {p p' : SdpfragParser} {line : Text} {lineNumber : ℕ}
    (h : p.parseLine isIpLiteral line lineNumber = .ok p') : LineRead isIpLiteral p line p' := by
  have hmedia : isMediaLine line = startsWith (trim isSpace line) (ascii "m=") := rfl
  have hmid : midOfLine line = if startsWith (trim isSpace line) (ascii "a=mid:") then
      some (trim isSpace ((trim isSpace line).drop 6)) else none := rfl
  have hcandidate : isCandidateLine line = (startsWith (trim isSpace line) (ascii "a=candidate:") ||
      startsWith (trim isSpace line) (ascii "candidate:")) := rfl
  have htext : candidateText line = if startsWith (trim isSpace line) (ascii "a=") then
      (trim isSpace line).drop 2 else trim isSpace line := rfl
  unfold SdpfragParser.parseLine at h
  dsimp only at h
  generalize trim isSpace line = word at *
  split_ifs at h with hempty hm ha hufrag hpwd hattribute hend
  · obtain rfl := pure_ok.mp h
    subst hempty
    exact .other _ hmedia hmid hcandidate rfl
  · obtain rfl := pure_ok.mp h
    refine .media (hmedia.trans hm) ?_
    rw [hcandidate, startsWith_other hm rfl rfl, startsWith_other hm rfl rfl]
    rfl
  · obtain ⟨_, h⟩ := ensure_bind_ok.mp h
    obtain rfl := pure_ok.mp h
    refine .mid _ ?_ ?_ ?_
    · rw [hmedia]
      exact Bool.eq_false_iff.mpr hm
    · rw [hmid, if_pos ha]
    · rw [hcandidate, startsWith_other ha rfl rfl, startsWith_other ha rfl rfl]
      rfl
  · obtain ⟨iceUfrag, _, h⟩ := bind_ok.mp h
    obtain rfl := pure_ok.mp h
    refine .other _ (hmedia.trans (Bool.eq_false_iff.mpr hm)) (hmid.trans (if_neg ha)) ?_ rfl
    rw [hcandidate, startsWith_other hufrag rfl rfl, startsWith_other hufrag rfl rfl]
    rfl
  · obtain ⟨icePwd, _, h⟩ := bind_ok.mp h
    obtain rfl := pure_ok.mp h
    refine .other _ (hmedia.trans (Bool.eq_false_iff.mpr hm)) (hmid.trans (if_neg ha)) ?_ rfl
    rw [hcandidate, startsWith_other hpwd rfl rfl, startsWith_other hpwd rfl rfl]
    rfl
  · obtain ⟨c, hc, h⟩ := bind_ok.mp h
    obtain rfl := pure_ok.mp h
    obtain ⟨hne, hc⟩ := ensure_bind_ok.mp hc
    refine .candidate c (hmedia.trans (Bool.eq_false_iff.mpr hm)) (hmid.trans (if_neg ha))
      (hcandidate.trans hattribute) hne ?_
    rw [htext]
    exact reportInvalid_ok.mp hc
  · obtain ⟨c, hc, h⟩ := bind_ok.mp h
    obtain rfl := pure_ok.mp h
    obtain ⟨_, hc⟩ := ensure_bind_ok.mp hc
    have hsection := makeRemoteIceCandidate_section (reportInvalid_ok.mp hc)
    refine .ends c (hmedia.trans (Bool.eq_false_iff.mpr hm)) (hmid.trans (if_neg ha))
      (hcandidate.trans (Bool.eq_false_iff.mpr hattribute)) (hsection.2.2.mpr ?_)
    decide
  · obtain rfl := pure_ok.mp h
    exact .other _ (hmedia.trans (Bool.eq_false_iff.mpr hm)) (hmid.trans (if_neg ha))
      (hcandidate.trans (Bool.eq_false_iff.mpr hattribute)) rfl

/-- The parser's position follows the lines. -/
theorem LineRead.position {p p' : SdpfragParser} {line : Text} (h : LineRead isIpLiteral p line p')
    (hpos : p.currentMlineIndex = p.nextMlineIndex - 1) :
    p'.currentMid = (if isMediaLine line then [] else (midOfLine line).getD p.currentMid) ∧
      p'.nextMlineIndex = p.nextMlineIndex + [line].countP isMediaLine ∧
      p'.currentMlineIndex = p'.nextMlineIndex - 1 := by
  rw [List.countP_singleton]
  cases h with
  | media hmedia _ => simp [hmedia]
  | mid mid hmedia hmid _ => simp [hmedia, hmid, hpos]
  | candidate c hmedia hmid _ _ _ => simp [hmedia, hmid, SdpfragParser.push, hpos]
  | ends c hmedia hmid _ _ => simp [hmedia, hmid, SdpfragParser.push, hpos]
  | other result hmedia hmid _ _ => simp [hmedia, hmid, hpos]

/-- The candidate which one of the lines gives, where they start with a mid and
a number of media lines. -/
def ReadFrom (isIpLiteral : Text → Bool) (mid : Text) (next : ℕ) (lines : List Text)
    (c : RemoteIceCandidate) : Prop :=
  ∃ before line after, lines = before ++ line :: after ∧ isCandidateLine line = true ∧
    midAfter mid before ≠ [] ∧
      makeRemoteIceCandidate isIpLiteral (candidateText line) (midAfter mid before)
        ((next + before.countP isMediaLine - 1 : ℕ) : ℤ) = .ok c

theorem readFrom_cons {mid : Text} {next : ℕ} {line : Text} {rest : List Text}
    {c : RemoteIceCandidate} :
    ReadFrom isIpLiteral mid next (line :: rest) c ↔
      (isCandidateLine line = true ∧ mid ≠ [] ∧
        makeRemoteIceCandidate isIpLiteral (candidateText line) mid ((next - 1 : ℕ) : ℤ) = .ok c) ∨
      ReadFrom isIpLiteral (if isMediaLine line then [] else (midOfLine line).getD mid)
        (next + [line].countP isMediaLine) rest c := by
  have hcount : ∀ before : List Text, next + (line :: before).countP isMediaLine =
      next + [line].countP isMediaLine + before.countP isMediaLine := by
    intro before
    rw [← List.singleton_append, List.countP_append, Nat.add_assoc]
  constructor
  · rintro ⟨before, found, after, hlines, hcandidate, hne, hmake⟩
    cases before with
    | nil =>
        rw [List.nil_append, List.cons.injEq] at hlines
        obtain ⟨rfl, rfl⟩ := hlines
        exact .inl ⟨hcandidate, hne, hmake⟩
    | cons first before =>
        rw [List.cons_append, List.cons.injEq] at hlines
        obtain ⟨rfl, rfl⟩ := hlines
        rw [hcount] at hmake
        exact .inr ⟨before, found, after, rfl, hcandidate, hne, hmake⟩
  · intro h
    cases h with
    | inl h =>
        obtain ⟨hcandidate, hne, hmake⟩ := h
        exact ⟨[], line, rest, rfl, hcandidate, hne, hmake⟩
    | inr h =>
        obtain ⟨before, found, after, rfl, hcandidate, hne, hmake⟩ := h
        rw [← hcount] at hmake
        exact ⟨line :: before, found, after, rfl, hcandidate, hne, hmake⟩

/-- The candidates of a fragment are those of its candidate lines. -/
theorem parseLines_candidates {p p' : SdpfragParser} {lineNumber : ℕ} {lines : List Text}
    (h : parseLines isIpLiteral p lineNumber lines = .ok p')
    (hpos : p.currentMlineIndex = p.nextMlineIndex - 1) {c : RemoteIceCandidate}
    (hplain : c.endOfCandidates = false) :
    c ∈ p'.result.candidates ↔ c ∈ p.result.candidates ∨
      ReadFrom isIpLiteral p.currentMid p.nextMlineIndex lines c := by
  induction lines generalizing p lineNumber with
  | nil =>
      obtain rfl := pure_ok.mp h
      have hnone : ¬ReadFrom isIpLiteral p'.currentMid p'.nextMlineIndex [] c := by
        rintro ⟨before, line, after, hlines, _⟩
        cases before <;> cases hlines
      simp [hnone]
  | cons line rest ih =>
      obtain ⟨q, hline, hrest⟩ := bind_ok.mp h
      have hread := parseLine_read hline
      obtain ⟨hmid, hnext, hindex⟩ := hread.position hpos
      rw [ih hrest hindex, readFrom_cons, hmid, hnext, ← or_assoc]
      refine or_congr_left ?_
      cases hread with
      | media _ hcandidate => simp [hcandidate]
      | mid mid _ _ hcandidate => simp [hcandidate]
      | candidate d _ _ hcandidate hne hmake =>
          rw [hpos] at hmake
          simp only [SdpfragParser.push, List.mem_append, List.mem_singleton, hcandidate, hmake,
            true_and, Except.ok.injEq]
          simp [hne, eq_comm]
      | ends d _ _ hcandidate hend =>
          have hother : c ≠ d := by
            rintro rfl
            rw [hend] at hplain
            cases hplain
          simp [SdpfragParser.push, hcandidate, hother]
      | other result _ _ hcandidate hsame => simp [hcandidate, hsame]

/-- Every candidate line of a fragment that is read gives a candidate. -/
theorem parseLines_reads {p p' : SdpfragParser} {lineNumber : ℕ} {lines before after : List Text}
    {line : Text} (h : parseLines isIpLiteral p lineNumber lines = .ok p')
    (hpos : p.currentMlineIndex = p.nextMlineIndex - 1) (hlines : lines = before ++ line :: after)
    (hcandidate : isCandidateLine line = true) :
    ∃ c, makeRemoteIceCandidate isIpLiteral (candidateText line) (midAfter p.currentMid before)
        ((p.nextMlineIndex + before.countP isMediaLine - 1 : ℕ) : ℤ) = .ok c ∧
      midAfter p.currentMid before ≠ [] := by
  induction before generalizing p lineNumber lines with
  | nil =>
      subst hlines
      obtain ⟨q, hline, _⟩ := bind_ok.mp h
      cases parseLine_read hline with
      | media _ hother => rw [hcandidate] at hother; cases hother
      | mid mid _ _ hother => rw [hcandidate] at hother; cases hother
      | candidate c _ _ _ hne hmake =>
          rw [hpos] at hmake
          exact ⟨c, hmake, hne⟩
      | ends c _ _ hother _ => rw [hcandidate] at hother; cases hother
      | other result _ _ hother _ => rw [hcandidate] at hother; cases hother
  | cons first before ih =>
      subst hlines
      obtain ⟨q, hline, hrest⟩ := bind_ok.mp h
      obtain ⟨hmid, hnext, hindex⟩ := (parseLine_read hline).position hpos
      have hresult := ih hrest hindex rfl
      rw [hmid, hnext] at hresult
      rw [midAfter_cons, ← List.singleton_append, List.countP_append, ← Nat.add_assoc]
      exact hresult

theorem candidates_of_check {request : PatchRequest} {s s' : IceSession} {message : Text}
    {candidates : List RemoteIceCandidate}
    (h : checkPatchRequest isIpLiteral request (some s) message = .ok (s', candidates)) :
    ∃ parser, parseLines isIpLiteral {} 1 (splitOnByte 10 request.body) = .ok parser ∧
      parser.result.candidates = candidates := by
  unfold checkPatchRequest at h
  obtain ⟨_, _, h⟩ := bind_ok.mp h
  obtain ⟨_, _, h⟩ := bind_ok.mp h
  obtain ⟨_, _, h⟩ := bind_ok.mp h
  obtain ⟨_, _, h⟩ := bind_ok.mp h
  obtain ⟨_, _, h⟩ := bind_ok.mp h
  obtain ⟨parsed, hparsed, h⟩ := bind_ok.mp h
  obtain ⟨_, _, h⟩ := bind_ok.mp h
  obtain ⟨_, _, h⟩ := bind_ok.mp h
  cases h
  have hparsed : parseTrickleIceSdpfrag isIpLiteral request.body = .ok parsed := by
    cases hparse : parseTrickleIceSdpfrag isIpLiteral request.body with
    | error message =>
        rw [hparse] at hparsed
        cases hparsed
    | ok value =>
        rw [hparse] at hparsed
        cases hparsed
        rfl
  unfold parseTrickleIceSdpfrag at hparsed
  obtain ⟨_, hparsed⟩ := ensure_bind_ok.mp hparsed
  obtain ⟨parser, hparser, hparsed⟩ := bind_ok.mp hparsed
  obtain ⟨_, hparsed⟩ := ensure_bind_ok.mp hparsed
  obtain ⟨_, hparsed⟩ := ensure_bind_ok.mp hparsed
  exact ⟨parser, hparser, by rw [pure_ok.mp hparsed]⟩

end

/-! ## What the handler keeps -/

namespace IceSession
variable {s : IceSession} {c : RemoteIceCandidate}

theorem mediaIsAccepted_iff (hmid : c.sdpMid ≠ []) {index : ℕ} (hindex : c.sdpMlineIndex = index) :
    s.remoteIceCandidateMediaIsAccepted c = true ↔
      ∃ (i : ℕ) (media : MediaSummary), s.remoteOfferSummary.media[i]? = some media ∧
        media.mid = c.sdpMid ∧ s.acceptedRemoteMediaMlineIndexes[i]? = some (index : ℤ) := by
  have hmid : c.sdpMid.isEmpty = false := by simpa using hmid
  simp only [remoteIceCandidateMediaIsAccepted, hmid, hindex, Int.natCast_nonneg, decide_true,
    Bool.not_true, Bool.not_false, Bool.and_self, Bool.false_eq_true, ↓reduceIte, Bool.true_and,
    List.any_eq_true, Bool.and_eq_true, Bool.not_eq_true', decide_eq_false_iff_not, ne_eq, not_not]
  constructor
  · rintro ⟨⟨media, i⟩, hmem, hmedia, haccepted⟩
    exact ⟨i, media, List.mk_mem_zipIdx_iff_getElem?.mp hmem, hmedia, haccepted⟩
  · rintro ⟨i, media, hmem, hmedia, haccepted⟩
    exact ⟨(media, i), List.mk_mem_zipIdx_iff_getElem?.mpr hmem, hmedia, haccepted⟩

/-- The handler stops at a candidate that no stored one matches. -/
theorem addCandidates_stops {error : Text} {candidates : List RemoteIceCandidate}
    (h : (s.addCandidates candidates).2 = .error error) :
    ∃ c ∈ candidates, c.endOfCandidates = false ∧
      s.remoteIceCandidateMediaIsAccepted c = true ∧
        ∀ stored ∈ (s.addCandidates candidates).1.remoteIceCandidates,
          remoteIceCandidateMatches stored c = false := by
  induction candidates generalizing s with
  | nil => cases h
  | cons first rest ih =>
      cases hnew : s.isNew first with
      | false =>
          rw [addCandidates_skip hnew] at h ⊢
          obtain ⟨c, hc, hresult⟩ := ih h
          exact ⟨c, List.mem_cons_of_mem first hc, hresult⟩
      | true =>
          obtain ⟨haccepted, hknown⟩ := mediaIsAccepted_of_new hnew
          rcases addRemoteIceCandidate_cases s first with
            ⟨_, hadd⟩ | ⟨hend, _, error', hadd⟩ | ⟨_, _, _, hadd⟩
          · rw [addCandidates_stored hnew hadd] at h ⊢
            obtain ⟨c, hc, hresult⟩ := ih h
            exact ⟨c, List.mem_cons_of_mem first hc, hresult⟩
          · rw [addCandidates_refused hnew hadd]
            refine ⟨first, by simp, hend, haccepted, ?_⟩
            simp only [remoteIceCandidateAlreadyKnown, hend, Bool.false_and, Bool.false_or,
              List.any_eq_false, Bool.not_eq_true] at hknown
            exact hknown
          · rw [addCandidates_stored hnew hadd] at h ⊢
            obtain ⟨c, hc, hresult⟩ := ih h
            exact ⟨c, List.mem_cons_of_mem first hc, hresult⟩

/-- A handler that reaches the end has every candidate it did not filter. -/
theorem addCandidates_keeps {candidates : List RemoteIceCandidate}
    (h : (s.addCandidates candidates).2 = .ok ()) (hc : c ∈ candidates)
    (hplain : c.endOfCandidates = false)
    (haccepted : s.remoteIceCandidateMediaIsAccepted c = true) :
    ∃ stored ∈ (s.addCandidates candidates).1.remoteIceCandidates,
      remoteIceCandidateMatches stored c = true := by
  have hnew := not_new_after candidates h (.inr hc)
  obtain ⟨added, hadded⟩ := s.addCandidates_appends candidates
  have hsame : (s.addCandidates candidates).1.remoteIceCandidateMediaIsAccepted c = true := by
    rw [hadded]
    exact haccepted
  simpa [isNew, hsame, remoteIceCandidateAlreadyKnown, hplain] using hnew

end IceSession

section
variable (isIpLiteral : Text → Bool) (request : PatchRequest) (s : IceSession) (message : Text)

/-- A candidate line of a body, and the accepted section it belongs to. -/
structure LineOfSection (s : IceSession) (body : Text) (before : List Text) (line mid : Text) :
    Prop where
  lines : ∃ after, splitOnByte 10 body = before ++ line :: after
  candidate : isCandidateLine line = true
  named : Names before mid
  accepted : mid ∈ s.remoteOfferSummary.media.map MediaSummary.mid

/-- A request that passes the checks has every candidate line of an accepted
section in the list of the session, where it may have been before. -/
def ReachTheirSection : Prop :=
  ∀ candidates, checkPatchRequest isIpLiteral request (some s) message = .ok (s, candidates) →
    ∀ before line mid, LineOfSection s request.body before line mid →
      ∃ c, makeRemoteIceCandidate isIpLiteral (candidateText line) mid (sectionIndex before) =
          .ok c ∧
        s.remoteIceCandidateMediaIsAccepted c = true ∧
        ∃ s', (handleTrickleIcePatchRequest isIpLiteral request (some s) message).1 = some s' ∧
          ∃ stored ∈ s'.remoteIceCandidates, remoteIceCandidateMatches stored c = true

/-- The sections stand in the body at the places they have in the offer. -/
def InPlace (body : Text) : Prop :=
  ∀ before line mid, LineOfSection s body before line mid →
    ∃ (i : ℕ) (media : MediaSummary), s.remoteOfferSummary.media[i]? = some media ∧
      media.mid = mid ∧
        s.acceptedRemoteMediaMlineIndexes[i]? = some ((sectionIndex before : ℕ) : ℤ)

variable {isIpLiteral request s message}

/-- The candidate of a line, its section, and where the session looks for it. -/
theorem candidate_of_line {candidates : List RemoteIceCandidate} {before : List Text}
    {line mid : Text}
    (hcheck : checkPatchRequest isIpLiteral request (some s) message = .ok (s, candidates))
    (h : LineOfSection s request.body before line mid) :
    ∃ c ∈ candidates, makeRemoteIceCandidate isIpLiteral (candidateText line) mid
        (sectionIndex before) = .ok c ∧ c.endOfCandidates = false ∧
      (s.remoteIceCandidateMediaIsAccepted c = true ↔
        ∃ (i : ℕ) (media : MediaSummary), s.remoteOfferSummary.media[i]? = some media ∧
          media.mid = mid ∧
            s.acceptedRemoteMediaMlineIndexes[i]? = some ((sectionIndex before : ℕ) : ℤ)) := by
  obtain ⟨parser, hparser, rfl⟩ := candidates_of_check hcheck
  obtain ⟨after, hlines⟩ := h.lines
  obtain ⟨c, hmake, hne⟩ := parseLines_reads hparser rfl hlines h.candidate
  have hmid := h.named.midAfter []
  have hindex : (({} : SdpfragParser).nextMlineIndex + before.countP isMediaLine - 1 : ℕ) =
      sectionIndex before := by
    rw [sectionIndex]
    exact congrArg (· - 1) (Nat.zero_add _)
  obtain ⟨hsection, hplace, hend⟩ := makeRemoteIceCandidate_section hmake
  have hplain : c.endOfCandidates = false := by
    rw [← Bool.not_eq_true, hend]
    exact normalizeCandidateText_prefixed (candidateText_prefixed h.candidate)
  have hread : ReadFrom isIpLiteral [] 0 (splitOnByte 10 request.body) c :=
    ⟨before, line, after, hlines, h.candidate, hne, hmake⟩
  have hmem := (parseLines_candidates hparser rfl hplain).mpr (.inr hread)
  have hmidAfter : midAfter ({} : SdpfragParser).currentMid before = mid := hmid
  rw [hmidAfter] at hmake hne hsection
  rw [hindex] at hmake hplace
  refine ⟨c, hmem, hmake, hplain, ?_⟩
  rw [IceSession.mediaIsAccepted_iff (hsection ▸ hne) hplace, hsection]

/-- A plain candidate which is not filtered comes from a line of an accepted section. -/
theorem line_of_candidate {candidates : List RemoteIceCandidate} {c : RemoteIceCandidate}
    (hcheck : checkPatchRequest isIpLiteral request (some s) message = .ok (s, candidates))
    (hc : c ∈ candidates) (hplain : c.endOfCandidates = false)
    (haccepted : s.remoteIceCandidateMediaIsAccepted c = true) :
    ∃ before line mid, LineOfSection s request.body before line mid ∧
      makeRemoteIceCandidate isIpLiteral (candidateText line) mid (sectionIndex before) =
        .ok c := by
  obtain ⟨parser, hparser, rfl⟩ := candidates_of_check hcheck
  have hread := ((parseLines_candidates hparser rfl hplain).mp hc).resolve_left List.not_mem_nil
  obtain ⟨before, line, after, hlines, hcandidate, hne, hmake⟩ := hread
  obtain ⟨hsection, hplace, _⟩ := makeRemoteIceCandidate_section hmake
  obtain ⟨i, media, hmedia, hmid, _⟩ :=
    (IceSession.mediaIsAccepted_iff (hsection ▸ hne) hplace).mp haccepted
  have hindex : (({} : SdpfragParser).nextMlineIndex + before.countP isMediaLine - 1 : ℕ) =
      sectionIndex before := by
    rw [sectionIndex]
    exact congrArg (· - 1) (Nat.zero_add _)
  rw [hindex] at hmake
  refine ⟨before, line, _, ⟨⟨after, hlines⟩, hcandidate, names_of_midAfter hne, ?_⟩, hmake⟩
  rw [← hsection, ← hmid]
  exact List.mem_map_of_mem (List.mem_of_getElem? hmedia)

/-- The candidates of a request reach their sections exactly when the sections
stand in their places and the session takes all that is new to it. -/
theorem patch_reaches_sections_iff (isIpLiteral : Text → Bool) (request : PatchRequest)
    (s : IceSession) (message : Text) :
    ReachTheirSection isIpLiteral request s message ↔
      ∀ candidates,
        checkPatchRequest isIpLiteral request (some s) message = .ok (s, candidates) →
        InPlace s request.body ∧ s.Fits (s.newCandidates candidates) := by
  refine forall_congr' fun candidates => forall_congr' fun hcheck => ?_
  have hhandled : (handleTrickleIcePatchRequest isIpLiteral request (some s) message).1 =
      some (s.addCandidates candidates).1 := by
    unfold handleTrickleIcePatchRequest
    rw [hcheck]
  rw [hhandled, ← IceSession.addCandidates_ok_iff]
  constructor
  · intro h
    constructor
    · intro before line mid hline
      obtain ⟨c, _, hmake, _, hiff⟩ := candidate_of_line hcheck hline
      obtain ⟨d, hmake', haccepted, _⟩ := h before line mid hline
      rw [hmake] at hmake'
      cases hmake'
      exact hiff.mp haccepted
    · cases hloop : (s.addCandidates candidates).2 with
      | ok u => rfl
      | error error =>
          obtain ⟨c, hc, hplain, haccepted, hnone⟩ := IceSession.addCandidates_stops hloop
          obtain ⟨before, line, mid, hline, hmake⟩ :=
            line_of_candidate hcheck hc hplain haccepted
          obtain ⟨d, hmake', _, s', hs', stored, hstored, hmatch⟩ := h before line mid hline
          rw [hmake] at hmake'
          cases hmake'
          cases hs'
          rw [hnone stored hstored] at hmatch
          cases hmatch
  · rintro ⟨hplace, hloop⟩ before line mid hline
    obtain ⟨c, hc, hmake, hplain, hiff⟩ := candidate_of_line hcheck hline
    have haccepted := hiff.mpr (hplace before line mid hline)
    exact ⟨c, hmake, haccepted, _, rfl,
      IceSession.addCandidates_keeps hloop hc hplain haccepted⟩

end

/-! ## A fragment of the second section -/

/-- Only the second section of the offer has a candidate. -/
def secondSection : PatchRequest where
  contentType := ascii "application/trickle-ice-sdpfrag"
  ifMatch := ascii "\"7\""
  body := ascii "m=video 9 UDP/TLS/RTP/SAVPF 96\na=mid:1\n" ++ candidateLine

theorem secondSection_line : LineOfSection openSession secondSection.body
    [ascii "m=video 9 UDP/TLS/RTP/SAVPF 96", ascii "a=mid:1"]
    (ascii "a=candidate:1 1 udp 2130706431 192.0.2.1 5000 typ host") (ascii "1") where
  lines := ⟨[[]], by decide +kernel⟩
  candidate := by decide +kernel
  named := by
    refine ⟨[ascii "m=video 9 UDP/TLS/RTP/SAVPF 96"], ascii "a=mid:1", [], rfl, ?_, ?_, ?_⟩
    · decide
    · decide
    · intro line hline
      cases hline
  accepted := by decide

/-- The candidate of the second section is filtered, since its section stands first. -/
theorem secondSection_filtered :
    ¬∀ isIpLiteral request s message, ReachTheirSection isIpLiteral request s message := by
  intro h
  obtain ⟨candidates, hcheck⟩ : ∃ candidates, checkPatchRequest isExampleAddress secondSection
      (some openSession) [] = .ok (openSession, candidates) := ⟨_, rfl⟩
  obtain ⟨c, hmake, haccepted, _⟩ := h isExampleAddress secondSection openSession []
    candidates hcheck _ _ _ secondSection_line
  obtain ⟨hsection, hplace, _⟩ := makeRemoteIceCandidate_section hmake
  have hne : c.sdpMid ≠ [] := by
    rw [hsection]
    decide
  obtain ⟨i, media, hmedia, hmid, hindex⟩ :=
    (IceSession.mediaIsAccepted_iff hne hplace).mp haccepted
  rw [hsection] at hmid
  match i with
  | 0 =>
      cases hmedia
      exact absurd hmid (by decide)
  | 1 => exact absurd hindex (by decide)
  | i + 2 => cases hmedia

end SimpleWebrtc.TrickleIcePatch
