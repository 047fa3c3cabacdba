import SimpleWebrtc.SdpSummary
import SimpleWebrtc.TrickleIceSdpfrag

/-!
# Trickle PATCH requests

`handle_trickle_ice_patch_request` checks a request as a whole and then adds its
candidates to the session one by one. Adding one can fail, and the candidates
before it stay. Which candidates of a request are new to the session can be told
from the session before the request, and so can whether all of them will be
taken: they need room, and none of them may follow the end of the candidates.
-/
namespace SimpleWebrtc.TrickleIcePatch
open Library Library.Text SdpSummary IceCandidate TrickleIceSdpfrag

/-- What publisher and subscriber sessions have in common for the handler. -/
structure IceSession where
  sessionId : Text
  remoteOfferSummary : WebrtcOfferSummary
  acceptedRemoteMediaMlineIndexes : List ℤ := []
  remoteIceCandidates : List RemoteIceCandidate := []
deriving Repr, DecidableEq

structure PatchRequest where
  contentType : Text
  ifMatch : Text
  body : Text
deriving Repr, DecidableEq

structure PatchError where
  status : ℕ
  errorCode : Text
  message : Text
deriving Repr, DecidableEq

def kMaxRemoteIceCandidates : ℕ := 256
def kTrickleIceMaxPatchBodyBytes : ℕ := 64 * 1024
def kTrickleIceMaxCandidatesPerPatch : ℕ := 32

namespace IceSession
variable (s : IceSession)

def remoteIceCompleted : Bool := s.remoteIceCandidates.getLast?.any RemoteIceCandidate.endOfCandidates

def push (candidate : RemoteIceCandidate) : IceSession :=
  { s with remoteIceCandidates := s.remoteIceCandidates ++ [candidate] }

/-- The end of the candidates is always taken. -/
def addRemoteIceCandidate (candidate : RemoteIceCandidate) : Except Text IceSession :=
  if candidate.endOfCandidates then .ok (s.push candidate)
  else if s.remoteIceCompleted then .error (ascii "remote ice candidates already completed")
  else if s.remoteIceCandidates.length ≥ kMaxRemoteIceCandidates then
    .error (ascii "too many remote ice candidates")
  else .ok (s.push candidate)

/-- A section of the offer takes a candidate which names it by mid, by index or by both. -/
def remoteIceCandidateMediaIsAccepted (candidate : RemoteIceCandidate) : Bool :=
  let hasMid := !candidate.sdpMid.isEmpty
  let hasMlineIndex := decide (0 ≤ candidate.sdpMlineIndex)
  if !hasMid && !hasMlineIndex then false
  else (s.remoteOfferSummary.media.zipIdx).any fun (media, index) =>
    !(hasMid && decide (media.mid ≠ candidate.sdpMid)) &&
      !(hasMlineIndex &&
        decide (s.acceptedRemoteMediaMlineIndexes[index]? ≠ some candidate.sdpMlineIndex))

def sessionResourceEtag : Text := ascii "\"" ++ s.sessionId ++ ascii "\""

end IceSession

def remoteIceCandidateMatches (left right : RemoteIceCandidate) : Bool :=
  decide (left.endOfCandidates = right.endOfCandidates ∧ left.candidate = right.candidate ∧
    left.sdpMid = right.sdpMid ∧ left.sdpMlineIndex = right.sdpMlineIndex)

namespace IceSession
variable (s : IceSession)

def remoteIceCandidateAlreadyKnown (candidate : RemoteIceCandidate) : Bool :=
  (candidate.endOfCandidates && s.remoteIceCompleted) ||
    s.remoteIceCandidates.any fun existing => remoteIceCandidateMatches existing candidate

/-- The loop over the candidates of a request: those of other media and known ones are passed
over, and it ends at the first which is refused. -/
def addCandidates (s : IceSession) : List RemoteIceCandidate → IceSession × Except Text Unit
  | [] => (s, .ok ())
  | candidate :: rest =>
    if !s.remoteIceCandidateMediaIsAccepted candidate then addCandidates s rest
    else if s.remoteIceCandidateAlreadyKnown candidate then addCandidates s rest
    else match s.addRemoteIceCandidate candidate with
      | .error error => (s, .error error)
      | .ok s => addCandidates s rest

end IceSession

def isSdpfragContent (contentType : Text) : Bool :=
  let contentType := trim isSpace contentType
  let contentType := match cut (fun c => decide (c = 59)) contentType with
    | none => contentType
    | some (value, _) => trim isSpace value
  iequals contentType (ascii "application/trickle-ice-sdpfrag")

def validateSessionIfMatch (request : PatchRequest) (s : IceSession) : Except Text Unit := do
  ensure (request.ifMatch ≠ []) (ascii "missing if-match header")
  ensure (trim isSpace request.ifMatch = s.sessionResourceEtag)
    (ascii "if-match does not match current session etag current=" ++ s.sessionResourceEtag)

def asPatchError {α : Type} (status : ℕ) (errorCode : Text) (describe : Text → Text) :
    Except Text α → Except PatchError α
  | .error error => .error ⟨status, errorCode, describe error⟩
  | .ok value => .ok value

section
variable (isIpLiteral : Text → Bool)

/-- The checks of a request before its first candidate is looked at. -/
def checkPatchRequest (request : PatchRequest) (session : Option IceSession)
    (sessionNotFoundMessage : Text) :
    Except PatchError (IceSession × List RemoteIceCandidate) := do
  ensure (isSdpfragContent request.contentType) (⟨415, ascii "trickle_ice_unsupported_media_type",
    ascii "unsupported media type, expected application/trickle-ice-sdpfrag"⟩ : PatchError)
  ensure (request.body.length ≤ kTrickleIceMaxPatchBodyBytes)
    ⟨413, ascii "trickle_ice_body_too_large", ascii "trickle ice patch body too large"⟩
  let s ← orError ⟨404, ascii "trickle_ice_session_not_found", sessionNotFoundMessage⟩ session
  ensure (request.ifMatch ≠ [])
    ⟨428, ascii "trickle_ice_precondition_required", ascii "missing if-match header"⟩
  asPatchError 412 (ascii "trickle_ice_precondition_failed") id (validateSessionIfMatch request s)
  let patchBody ← asPatchError 400 (ascii "trickle_ice_invalid_candidates")
    (ascii "invalid trickle ice candidates: " ++ ·)
    (parseTrickleIceSdpfrag isIpLiteral request.body)
  ensure (patchBody.candidates.length ≤ kTrickleIceMaxCandidatesPerPatch)
    ⟨413, ascii "trickle_ice_too_many_candidates",
      ascii "too many trickle ice candidates in one patch"⟩
  ensure (¬(patchBody.iceUfrag ≠ [] ∧ (patchBody.iceUfrag ≠ s.remoteOfferSummary.iceUfrag ∨
      patchBody.icePwd ≠ s.remoteOfferSummary.icePwd)))
    ⟨422, ascii "trickle_ice_restart_unsupported", ascii "ICE restart is not supported"⟩
  return (s, patchBody.candidates)

/-- The session after a request, and the answer. -/
def handleTrickleIcePatchRequest (request : PatchRequest) (session : Option IceSession)
    (sessionNotFoundMessage : Text) : Option IceSession × Except PatchError Unit :=
  match checkPatchRequest isIpLiteral request session sessionNotFoundMessage with
  | .error error => (session, .error error)
  | .ok (s, candidates) =>
      let (s, added) := s.addCandidates candidates
      (some s, asPatchError 400 (ascii "trickle_ice_candidate_rejected")
        (ascii "trickle ice candidate rejected: " ++ ·) added)

end
end SimpleWebrtc.TrickleIcePatch
