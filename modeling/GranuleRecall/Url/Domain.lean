import GranuleRecall.Text.Unprintable
import GranuleRecall.Url.Address
import GranuleRecall.Url.Composition
import GranuleRecall.Url.HostCharacters
import GranuleRecall.Url.Punycode

/-! # Domain names

Whether a host is a domain name, and its labels after mapping. Capital letters and compatible
forms are mapped to plain ones; forbidden characters, marks at the beginning of a label, joiners
out of context, labels whose ASCII form does not decode, and labels of mixed direction are
refused. There is no limit on lengths, and hyphens may stand anywhere. -/
set_option autoImplicit false

namespace GranuleRecall.Url

open Text (inRanges)

def isForbiddenInDomain (character : Char) : Bool :=
  let code := character.toNat
  code ≤ 0x20 || code == 0x7F || "%#/:<>?@[\\]^|".toList.contains character

def inSteppedRanges (ranges : List (Nat × Nat × Nat)) (code : Nat) : Bool :=
  ranges.any fun (first, last, step) => first ≤ code && code ≤ last && (code - first) % step == 0

/-- What a character is mapped to; none when it is not allowed. A character that stands for
other characters than ASCII ones is left as it is, because only the ASCII parts of a name are
looked at later on. -/
def mapHostCharacter (character : Char) : Option (List Char) :=
  let code := character.toNat
  if code < 0x80 then
    if isForbiddenInDomain character then none else some [character.toLower]
  else if inRanges disallowedRanges code then none
  else if inRanges ignoredRanges code then some []
  else
    match asciiRuns.find? fun (first, last, _) => first ≤ code && code ≤ last with
    | some (first, _, meant) => some [Char.ofNat (meant + (code - first))]
    | none =>
      match twoDigitRuns.find? fun (first, last, _) => first ≤ code && code ≤ last with
      | some (first, _, meant) =>
        let number := meant + (code - first)
        some [Char.ofNat (48 + number / 10), Char.ofNat (48 + number % 10)]
      | none => some [character]

/-- A name in which the two forbidden signs that a long stroke composes with are composed with
it. -/
def composeStruck : List Char → List Char
  | '<' :: '\u0338' :: remaining => '≮' :: composeStruck remaining
  | '>' :: '\u0338' :: remaining => '≯' :: composeStruck remaining
  | character :: remaining => character :: composeStruck remaining
  | [] => []

/-- A name mapped character by character; none when one is not allowed. -/
def mapHost (characters : List Char) : Option (List Char) :=
  ((composeStruck characters).mapM mapHostCharacter).map List.flatten

def isMappedCharacter (character : Char) : Bool :=
  let code := character.toNat
  if code < 0x80 then !isForbiddenInDomain character && !character.isUpper
  else
    !inRanges disallowedRanges code && !inRanges ignoredRanges code &&
      !inSteppedRanges mappedRuns code

/-- The characters a label stands for: those after the marker are decoded. A decoded label holds
mapped characters only, and one that is not ASCII, and is in composed form. -/
def decodeLabel (label : List Char) : Option (List Char) :=
  match label with
  | 'x' :: 'n' :: '-' :: '-' :: coded =>
    match decodePunycode? coded with
    | none => none
    | some decoded =>
      if decoded.all isMappedCharacter && decoded.any (0x80 ≤ ·.toNat) && isComposed decoded then
        some decoded
      else none
  | _ => some label

/-! ## Marks and joiners -/

def isMark (character : Char) : Bool :=
  inRanges markRanges character.toNat

/-- Whether the characters before a joiner, nearest first, end in a letter that joins to what
follows. -/
def joinsForward (before : List Char) : Bool :=
  match before.dropWhile isMark with
  | [] => false
  | character :: _ =>
    inRanges dualJoiningRanges character.toNat || inRanges leftJoiningRanges character.toNat

/-- Whether the characters after a joiner begin with a letter that joins to what comes before. -/
def joinsBackward (following : List Char) : Bool :=
  match following.dropWhile isMark with
  | [] => false
  | character :: _ =>
    inRanges dualJoiningRanges character.toNat || inRanges rightJoiningRanges character.toNat

/-- Whether every joiner stands after a sign that joins letters, or, for the non-joiner, between
letters that would join. The first argument holds the characters before, nearest first. -/
def joinersInContext : List Char → List Char → Bool
  | _, [] => true
  | before, character :: remaining =>
    let afterVirama := match before with
      | [] => false
      | previous :: _ => inRanges viramaRanges previous.toNat
    let fits :=
      if character.toNat = 0x200D then afterVirama
      else if character.toNat = 0x200C then
        afterVirama || (joinsForward before && joinsBackward remaining)
      else true
    fits && joinersInContext (character :: before) remaining

def isWellFormedLabel (label : List Char) : Bool :=
  match label with
  | [] => true
  | first :: _ => !isMark first && joinersInContext [] label

/-! ## Direction -/

inductive Direction
  | leftToRight
  | rightToLeft
  | arabicNumber
  | number
  | nonspacing
  | neutral
deriving DecidableEq, Repr

def directionOf (character : Char) : Direction :=
  let code := character.toNat
  if code < 0x80 then
    if character.isAlpha then .leftToRight else if character.isDigit then .number else .neutral
  else if inRanges rightToLeftRanges code then .rightToLeft
  else if inRanges arabicNumberRanges code then .arabicNumber
  else if inRanges numberRanges code then .number
  else if inRanges nonspacingRanges code then .nonspacing
  else if inRanges neutralRanges code then .neutral
  else .leftToRight

def turnsDirection (character : Char) : Bool :=
  directionOf character == .rightToLeft || directionOf character == .arabicNumber

def keepsDirection (label : List Char) : Bool :=
  let directions := label.map directionOf
  let ending := (directions.reverse.dropWhile (· == .nonspacing)).head?
  match directions.head? with
  | none => true
  | some .leftToRight =>
    directions.all (fun direction => direction != .rightToLeft && direction != .arabicNumber) &&
      (ending == some .leftToRight || ending == some .number)
  | some .rightToLeft =>
    directions.all (· != .leftToRight) &&
      !(directions.contains .number && directions.contains .arabicNumber) &&
      (ending == some .rightToLeft || ending == some .number || ending == some .arabicNumber)
  | some _ => false

/-- The labels of a domain name, decoded; none when the name is not valid. -/
def domainLabels (characters : List Char) : Option (List (List Char)) := do
  let mapped ← mapHost characters
  let labels ← (splitAt '.' mapped).mapM decodeLabel
  let foreign := labels.filter fun label => label.any (0x80 ≤ ·.toNat)
  let directed := labels.any (·.any turnsDirection)
  if foreign.all isWellFormedLabel && (!directed || labels.all keepsDirection) then some labels
  else none

end GranuleRecall.Url
