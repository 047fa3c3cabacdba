import SimpleWebrtc.IceCandidate
import SimpleWebrtc.Library.Words

/-!
# The grammar of ICE candidates

A candidate line is a sequence of words, with the name and value pairs at its
end as a list. The grammar says which words may stand in each place, and it is
stated without the parser. It has two parameters, the number of dots which may
follow the labels of a host name and the lowest related port, since these are
the two places where the parser reads something other than the grammar.
-/
namespace SimpleWebrtc.IceCandidate
open Library Library.Text

/-! ## Words -/

/-- Neither a blank nor a control character. -/
def IsVisible (c : UInt8) : Prop := c ≠ 32 ∧ isControl c = false

def IsVisibleWord (longest : ℕ) (word : Text) : Prop :=
  word ≠ [] ∧ word.length ≤ longest ∧ ∀ c ∈ word, IsVisible c

def IsNumeral (lowest highest : ℕ) (word : Text) : Prop :=
  word ≠ [] ∧ (∀ c ∈ word, isDigit c = true) ∧ lowest ≤ decimalValue word ∧
    decimalValue word ≤ highest

def IsIceChar (c : UInt8) : Prop := isAlnum c = true ∨ c = 43 ∨ c = 47

instance (c : UInt8) : Decidable (IsVisible c) := inferInstanceAs (Decidable (_ ∧ _))

instance (longest : ℕ) (word : Text) : Decidable (IsVisibleWord longest word) :=
  inferInstanceAs (Decidable (_ ∧ _ ∧ _))

instance (lowest highest : ℕ) (word : Text) : Decidable (IsNumeral lowest highest word) :=
  inferInstanceAs (Decidable (_ ∧ _ ∧ _ ∧ _))

instance (c : UInt8) : Decidable (IsIceChar c) := inferInstanceAs (Decidable (_ ∨ _ ∨ _))

structure IsHostLabel (label : Text) : Prop where
  size : label.length ≤ 63
  characters : ∀ c ∈ label, isAlnum c = true ∨ c = 45
  first : ∃ c, label.head? = some c ∧ isAlnum c = true
  last : ∃ c, label.getLast? = some c ∧ isAlnum c = true

/-- Digits and dots alone are a wrong IPv4 address and no host name. -/
def IsDottedNumber (word : Text) : Prop := 46 ∈ word ∧ ∀ c ∈ word, c = 46 ∨ isDigit c = true

/-- Labels with a dot between each two, and at most `dots` more after the last one. -/
def IsHostName (dots : ℕ) (word : Text) : Prop :=
  ¬IsDottedNumber word ∧ ∃ labels n, labels ≠ [] ∧ (∀ label ∈ labels, IsHostLabel label) ∧
    n ≤ dots ∧ word = [46].intercalate labels ++ List.replicate n 46

section
variable (isIpLiteral : Text → Bool)

def IsAddress (dots : ℕ) (word : Text) : Prop :=
  IsVisibleWord 253 word ∧ (isIpLiteral word = true ∨ IsHostName dots word)

/-! ## Lines -/

/-- The extensions which have a meaning of their own. -/
inductive Extension
  | raddr
  | rport
  | tcptype
  | generation
  | networkId
  | networkCost
deriving Repr, DecidableEq

def Extension.name : Extension → Text
  | .raddr => ascii "raddr"
  | .rport => ascii "rport"
  | .tcptype => ascii "tcptype"
  | .generation => ascii "generation"
  | .networkId => ascii "network-id"
  | .networkCost => ascii "network-cost"

def Extension.Allows (dots lowestPort : ℕ) : Extension → Text → Prop
  | .raddr, value => IsAddress isIpLiteral dots value
  | .rport, value => IsNumeral lowestPort 65535 value
  | .tcptype, value => toLower value ∈ [ascii "active", ascii "passive", ascii "so"]
  | .generation, value => IsNumeral 0 4294967295 value
  | .networkId, value => IsNumeral 0 4294967295 value
  | .networkCost, value => IsNumeral 0 4294967295 value

/-- The words of a candidate line. The first one is the attribute's name with
the foundation right after it. -/
structure CandidateLine where
  foundation : Text
  component : Text
  transport : Text
  priority : Text
  address : Text
  port : Text
  typ : Text
  type : Text
  pairs : List (Text × Text)
deriving Repr, DecidableEq

def pairWords (pairs : List (Text × Text)) : List Text :=
  pairs.flatMap fun pair => [pair.1, pair.2]

def pairsNamed (e : Extension) (pairs : List (Text × Text)) : List (Text × Text) :=
  pairs.filter fun pair => decide (toLower pair.1 = e.name)

/-- What the grammar asks of one pair. -/
structure PairGrammar (dots lowestPort : ℕ) (pair : Text × Text) : Prop where
  name : IsVisibleWord 64 pair.1
  value : IsVisibleWord 512 pair.2
  range : ∀ e : Extension, toLower pair.1 = e.name → e.Allows isIpLiteral dots lowestPort pair.2

namespace CandidateLine

def words (line : CandidateLine) : List Text :=
  (kCandidatePrefix ++ line.foundation) :: line.component :: line.transport :: line.priority ::
    line.address :: line.port :: line.typ :: line.type :: pairWords line.pairs

structure Grammar (dots lowestPort : ℕ) (line : CandidateLine) : Prop where
  foundation : line.foundation ≠ [] ∧ line.foundation.length ≤ 32 ∧
    ∀ c ∈ line.foundation, IsIceChar c
  component : IsNumeral 1 256 line.component
  transport : toLower line.transport = ascii "udp" ∨ toLower line.transport = ascii "tcp"
  priority : IsNumeral 1 4294967295 line.priority
  address : IsAddress isIpLiteral dots line.address
  port : IsNumeral 1 65535 line.port
  typ : toLower line.typ = ascii "typ"
  type : toLower line.type ∈ [ascii "host", ascii "srflx", ascii "prflx", ascii "relay"]
  pairs : ∀ pair ∈ line.pairs, PairGrammar isIpLiteral dots lowestPort pair
  once : ∀ e, (pairsNamed e line.pairs).length ≤ 1
  related : pairsNamed .raddr line.pairs ≠ [] ↔ pairsNamed .rport line.pairs ≠ []
  tcpType : pairsNamed .tcptype line.pairs ≠ [] ↔ toLower line.transport = ascii "tcp"
  size : line.words.length ≤ 64

/-- Blanks, the optional start of an attribute line, and the words. -/
def Spells (line : CandidateLine) (text : Text) : Prop :=
  ∃ before start rest, text = before ++ (start ++ rest) ∧ IsGap isBlank before ∧
    (start = [] ∨ start = ascii "a=") ∧ kCandidatePrefix <+: rest ∧
    Written isBlank line.words rest

def foldPair (pair : Text × Text) : Text × Text :=
  let name := toLower pair.1
  (name, if name = ascii "tcptype" then toLower pair.2 else pair.2)

/-- The same words up to the letter case of the keywords and the order of the pairs. -/
structure SameWords (line other : CandidateLine) : Prop where
  foundation : line.foundation = other.foundation
  component : line.component = other.component
  transport : toLower line.transport = toLower other.transport
  priority : line.priority = other.priority
  address : line.address = other.address
  port : line.port = other.port
  typ : toLower line.typ = toLower other.typ
  type : toLower line.type = toLower other.type
  pairs : (line.pairs.map foldPair).Perm (other.pairs.map foldPair)

/-- A host name with one dot more than the grammar has. -/
def HasDoubledDot (line : CandidateLine) : Prop :=
  ∃ address, (address = line.address ∨ ∃ pair ∈ pairsNamed .raddr line.pairs, address = pair.2) ∧
    isIpLiteral address = false ∧ [46, 46] <:+ address

def HasZeroRelatedPort (line : CandidateLine) : Prop :=
  ∃ pair ∈ pairsNamed .rport line.pairs, decimalValue pair.2 = 0

end CandidateLine
end
end SimpleWebrtc.IceCandidate
