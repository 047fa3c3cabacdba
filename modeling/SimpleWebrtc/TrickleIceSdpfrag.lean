import SimpleWebrtc.IceCandidate

/-!
# Trickle ICE fragments

The body of a trickle PATCH is an SDP fragment. The parser goes through its
lines with the media section it is in, and collects candidates and the ICE
credentials; lines it does not know are passed over.
-/
namespace SimpleWebrtc.TrickleIceSdpfrag
open Library Library.Text IceCandidate

structure TrickleIceSdpfragParseResult where
  candidates : List RemoteIceCandidate := []
  iceUfrag : Text := []
  icePwd : Text := []
deriving Repr, DecidableEq

def makeSdpfragError (lineNumber : ℕ) (message : Text) : Text :=
  ascii "trickle ice sdpfrag line " ++ decimal lineNumber ++ ascii " " ++ message

def setAttributeOnce (target value name : Text) (lineNumber : ℕ) : Except Text Text := do
  let trimmedValue := trim isSpace value
  ensure (trimmedValue ≠ []) (makeSdpfragError lineNumber (name ++ ascii " is empty"))
  ensure (¬(target ≠ [] ∧ target ≠ trimmedValue))
    (makeSdpfragError lineNumber (name ++ ascii " is duplicated with different value"))
  return trimmedValue

/-- An error of the candidate parser is reported behind the text of the line. -/
def reportInvalid {α : Type} (lineNumber : ℕ) (message : Text) : Except Text α → Except Text α
  | .error error => .error (makeSdpfragError lineNumber message ++ error)
  | .ok value => .ok value

structure SdpfragParser where
  result : TrickleIceSdpfragParseResult := {}
  currentMid : Text := []
  currentMlineIndex : ℕ := 0
  nextMlineIndex : ℕ := 0
deriving Repr, DecidableEq

def SdpfragParser.push (p : SdpfragParser) (candidate : RemoteIceCandidate) : SdpfragParser :=
  { p with result := { p.result with candidates := p.result.candidates ++ [candidate] } }

section
variable (isIpLiteral : Text → Bool)

def parseCandidate (line mid : Text) (mlineIndex lineNumber : ℕ) :
    Except Text RemoteIceCandidate := do
  ensure (mid ≠ []) (makeSdpfragError lineNumber (ascii "candidate mid is missing"))
  let line := if startsWith line (ascii "a=") then line.drop 2 else line
  reportInvalid lineNumber (ascii "candidate is invalid: ")
    (makeRemoteIceCandidate isIpLiteral line mid mlineIndex)

def parseEndOfCandidates (mid : Text) (mlineIndex lineNumber : ℕ) :
    Except Text RemoteIceCandidate := do
  ensure (mid ≠ []) (makeSdpfragError lineNumber (ascii "end-of-candidates mid is missing"))
  reportInvalid lineNumber (ascii "end-of-candidates is invalid: ")
    (makeRemoteIceCandidate isIpLiteral [] mid mlineIndex)

def SdpfragParser.parseLine (p : SdpfragParser) (input : Text) (lineNumber : ℕ) :
    Except Text SdpfragParser := do
  let line := trim isSpace input
  if line = [] then return p
  else if startsWith line (ascii "m=") then
    return { p with
      currentMlineIndex := p.nextMlineIndex
      nextMlineIndex := p.nextMlineIndex + 1
      currentMid := [] }
  else if startsWith line (ascii "a=mid:") then
    let mid := trim isSpace (line.drop 6)
    ensure (mid ≠ []) (makeSdpfragError lineNumber (ascii "mid is empty"))
    return { p with currentMid := mid }
  else if startsWith line (ascii "a=ice-ufrag:") then
    let iceUfrag ← setAttributeOnce p.result.iceUfrag (line.drop 12) (ascii "ice-ufrag") lineNumber
    return { p with result := { p.result with iceUfrag } }
  else if startsWith line (ascii "a=ice-pwd:") then
    let icePwd ← setAttributeOnce p.result.icePwd (line.drop 10) (ascii "ice-pwd") lineNumber
    return { p with result := { p.result with icePwd } }
  else if startsWith line (ascii "a=candidate:") || startsWith line (ascii "candidate:") then
    let candidate ← parseCandidate isIpLiteral line p.currentMid p.currentMlineIndex lineNumber
    return p.push candidate
  else if line = ascii "a=end-of-candidates" ∨ line = ascii "end-of-candidates" then
    let candidate ← parseEndOfCandidates isIpLiteral p.currentMid p.currentMlineIndex lineNumber
    return p.push candidate
  else return p

def parseLines (p : SdpfragParser) (lineNumber : ℕ) : List Text → Except Text SdpfragParser
  | [] => return p
  | line :: rest => do
      parseLines (← p.parseLine isIpLiteral line lineNumber) (lineNumber + 1) rest

def parseTrickleIceSdpfrag (body : Text) : Except Text TrickleIceSdpfragParseResult := do
  ensure (body ≠ []) (ascii "empty trickle ice sdpfrag")
  let parser ← parseLines isIpLiteral {} 1 (splitOnByte 10 body)
  ensure (parser.result.candidates ≠ []) (ascii "trickle ice sdpfrag has no candidates")
  ensure (parser.result.iceUfrag = [] ↔ parser.result.icePwd = [])
    (ascii "trickle ice sdpfrag must include both ice-ufrag and ice-pwd when either is present")
  return parser.result

end
end SimpleWebrtc.TrickleIceSdpfrag
