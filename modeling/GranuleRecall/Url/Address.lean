import GranuleRecall.Decimal.Digits

/-! # Numeric hosts

Hosts that are addresses: numbers between points (version 4), and groups of hexadecimal digits
between colons (version 6). -/
set_option autoImplicit false

namespace GranuleRecall.Url

open Decimal

/-- The parts between separators; there is always at least one. -/
def splitAt (separator : Char) : List Char → List (List Char)
  | [] => [[]]
  | character :: remaining =>
    if character = separator then [] :: splitAt separator remaining
    else
      match splitAt separator remaining with
      | part :: parts => (character :: part) :: parts
      | [] => [[character]]

/-- The value of digits in some base; none when one is no digit of that base. -/
def numberInBase (base : Nat) (characters : List Char) : Option Nat :=
  characters.foldlM (fun number character =>
    match hexValue? character with
    | some value => if value < base then some (number * base + value) else none
    | none => none) 0

/-- A part of a version 4 address: decimal, octal after a zero, hexadecimal after `0x`. No
digits after such a beginning mean zero. -/
def readAddressPart (characters : List Char) : Option Nat :=
  match characters with
  | [] => none
  | '0' :: 'x' :: remaining | '0' :: 'X' :: remaining => numberInBase 16 remaining
  | '0' :: second :: remaining => numberInBase 8 (second :: remaining)
  | _ => numberInBase 10 characters

/-- Whether the last label, an empty one at the end not counted, is a number, so that the host
has to be an address. -/
def endsInNumber (labels : List (List Char)) : Bool :=
  let last? := match labels.reverse with
    | [] :: last :: _ => some last
    | [[]] => none
    | last :: _ => some last
    | [] => none
  match last? with
  | none => false
  | some last =>
    (!last.isEmpty && last.all (fun character => (digitValue? character).isSome)) ||
      (readAddressPart last).isSome

/-- Whether labels are a version 4 address: up to four numbers, of which all but the last are
below 256 and the last fills the bytes that are left. -/
def isAddress4 (labels : List (List Char)) : Bool :=
  let parts := match labels.reverse with
    | [] :: others => others.reverse
    | _ => labels
  if 4 < parts.length then false
  else
    match parts.mapM readAddressPart with
    | none => false
    | some numbers =>
      match numbers.reverse with
      | [] => false
      | last :: others =>
        last < 1 <<< (8 * (4 - others.length)) && others.all (· < 256)

/-- The parts of the decimal tail of a version 6 address: four numbers below 256 without leading
zeros, with points between them. -/
def isDecimalTail (parts : List (List Char)) : Bool :=
  parts.length == 4 && parts.all fun part =>
    match part with
    | [] => false
    | ['0'] => true
    | first :: _ =>
      first != '0' && part.length ≤ 3 &&
        (match numberInBase 10 part with
          | some number => number < 256
          | none => false)

/-- The groups of a version 6 address from some place on. `groups` counts the groups before it
and `compressed` says whether a double colon came among them. The text begins a group, or comes
right after a double colon. The first argument bounds the steps. -/
def readGroups : Nat → Nat → Bool → List Char → Bool
  | 0, _, _, _ => false
  | _ + 1, groups, compressed, [] => if compressed then groups ≤ 8 else groups == 8
  | fuel + 1, groups, compressed, character :: remaining =>
    if groups = 8 then false
    else if character = ':' then
      if compressed then false else readGroups fuel (groups + 1) true remaining
    else
      let isHex := fun (digit : Char) => (hexValue? digit).isSome
      let digits := ((character :: remaining).takeWhile isHex).take 4
      let following := (character :: remaining).drop digits.length
      match following with
      | [] => if compressed then groups + 1 ≤ 8 else groups + 1 == 8
      | '.' :: _ =>
        if digits.isEmpty || 6 < groups then false
        else
          let tail := splitAt '.' (character :: remaining)
          isDecimalTail tail && (if compressed then groups + 2 ≤ 8 else groups + 2 == 8)
      | ':' :: afterColon =>
        if afterColon.isEmpty then false else readGroups fuel (groups + 1) compressed afterColon
      | _ => false

/-- Whether the text between brackets is a version 6 address: eight groups of up to four digits,
or fewer with one double colon in place of the missing ones. The last two groups may be a
decimal tail. -/
def isAddress6 (characters : List Char) : Bool :=
  match characters with
  | ':' :: ':' :: remaining => readGroups (remaining.length + 2) 1 true remaining
  | ':' :: _ => false
  | [] | [_] => false
  | _ => readGroups (characters.length + 2) 0 false characters

end GranuleRecall.Url
