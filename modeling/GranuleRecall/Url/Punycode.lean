/-! # Punycode

Decoding the ASCII form of a label: the ASCII characters come first, and a sequence
of variable-length integers says which other characters are inserted where. -/
set_option autoImplicit false

namespace GranuleRecall.Url

/-- The value of a base-36 digit in lower case: letters come before digits. -/
def punycodeDigit? (character : Char) : Option Nat :=
  let code := character.toNat
  if 0x61 ≤ code ∧ code ≤ 0x7A then some (code - 0x61)
  else if 0x30 ≤ code ∧ code ≤ 0x39 then some (code - 0x30 + 26)
  else none

/-- Divides a delta down until it is small, and counts the divisions in steps of 36. -/
def reduceDelta (delta steps : Nat) : Nat × Nat :=
  if 455 < delta then reduceDelta (delta / 35) (steps + 36) else (delta, steps)
termination_by delta
decreasing_by omega

def adaptBias (delta count : Nat) (first : Bool) : Nat :=
  let damped := if first then delta / 700 else delta / 2
  let (reduced, steps) := reduceDelta (damped + damped / count) 0
  steps + 36 * reduced / (reduced + 38)

def punycodeBound : Nat := UInt32.size - 1

/-- Reads one integer from its digits: the sum of digits by weight, and the rest of the text. -/
def readDelta (bias : Nat) : Nat → Nat → Nat → List Char → Option (Nat × List Char)
  | _, _, _, [] => none
  | sum, weight, step, character :: remaining =>
    match punycodeDigit? character with
    | none => none
    | some digit =>
      let extended := sum + digit * weight
      let threshold :=
        if step ≤ bias then 1 else if bias + 26 ≤ step then 26 else step - bias
      if punycodeBound < extended then none
      else if digit < threshold then some (extended, remaining)
      else readDelta bias extended (weight * (36 - threshold)) (step + 36) remaining

/-- Inserts the characters that the integers describe. The first argument bounds their count. -/
def insertByDeltas : Nat → List Char → Nat → Nat → Nat → List Char → Option (List Char)
  | _, decoded, _, _, _, [] => some decoded
  | 0, _, _, _, _, _ :: _ => none
  | fuel + 1, decoded, code, index, bias, coded =>
    match readDelta bias 0 1 36 coded with
    | none => none
    | some (delta, remaining) =>
      let count := decoded.length + 1
      let place := index + delta
      let nextCode := code + place / count
      if nextCode.isValidChar then
        insertByDeltas fuel
          (decoded.take (place % count) ++ Char.ofNat nextCode :: decoded.drop (place % count))
          nextCode (place % count + 1) (adaptBias delta count (index == 0)) remaining
      else none

/-- The characters before the last hyphen, if there is one, and those after it. -/
def splitAtLastHyphen (characters : List Char) : List Char × List Char :=
  let reversed := characters.reverse
  let coded := (reversed.takeWhile (· != '-')).reverse
  (((reversed.dropWhile (· != '-')).drop 1).reverse, coded)

/-- Decodes what follows the marker `xn--` of a label in lower case. -/
def decodePunycode? (characters : List Char) : Option (List Char) :=
  let (literal, coded) := splitAtLastHyphen characters
  insertByDeltas coded.length literal 0x80 0 72 coded

end GranuleRecall.Url
