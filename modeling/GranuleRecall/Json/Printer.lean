import GranuleRecall.Json.Basic
import GranuleRecall.Decimal.Shortest

/-! # JSON text

The compact written form of JSON data: no blanks, members in their order, text as it is except
for quotes, backslashes and control characters, and binary64 numbers in their shortest form. -/
set_option autoImplicit false

namespace GranuleRecall.Json

open Decimal

def escaped (character : Char) : List Char :=
  if character = '"' then ['\\', '"']
  else if character = '\\' then ['\\', '\\']
  else if character.toNat < 0x20 then
    if character = '\x08' then ['\\', 'b']
    else if character = '\t' then ['\\', 't']
    else if character = '\n' then ['\\', 'n']
    else if character = '\x0c' then ['\\', 'f']
    else if character = '\r' then ['\\', 'r']
    else
      ['\\', 'u', '0', '0', hexDigitOf (character.toNat / 16), hexDigitOf (character.toNat % 16)]
  else [character]

def quoted (characters : List Char) : List Char :=
  '"' :: characters.flatMap escaped ++ ['"']

/-- The exponent part of a number: a mark, a sign when it is not below zero too, and digits. -/
def exponentPart (exponent : Int) : List Char :=
  'e' :: (if 0 ≤ exponent then '+' else '-') :: digits exponent.natAbs

/-- The digits of a positive number. Numbers from `0.00001` up to but not including `10 ^ 16`
are written without an exponent, whole ones among them with one place; the others are written
with one digit before the point. -/
def realDigits (decimal : ShortDecimal) : List Char :=
  let written := digits decimal.coefficient
  let point : Int := written.length + decimal.exponent
  if 0 ≤ decimal.exponent ∧ point ≤ 16 then
    written ++ List.replicate decimal.exponent.toNat '0' ++ ['.', '0']
  else if 0 < point ∧ point ≤ 16 then
    written.take point.toNat ++ '.' :: written.drop point.toNat
  else if -5 < point ∧ point ≤ 0 then
    '0' :: '.' :: List.replicate (-point).toNat '0' ++ written
  else
    match written with
    | [single] => single :: exponentPart (point - 1)
    | first :: remaining => first :: '.' :: remaining ++ exponentPart (point - 1)
    | [] => []

/-- A binary64 number. Infinite numbers and what is not a number have no JSON form of their own
and are written as null; the reader never gives them. -/
def realText : Binary64 → List Char
  | .finite negative significand exponent =>
    let magnitude :=
      if significand = 0 then ['0', '.', '0']
      else realDigits (shortest .toEven significand exponent)
    if negative then '-' :: magnitude else magnitude
  | _ => ['n', 'u', 'l', 'l']

def numberText : Number → List Char
  | .integer value => integerDigits value
  | .real value => realText value

mutual

def characters : Json → List Char
  | .null => ['n', 'u', 'l', 'l']
  | .bool true => ['t', 'r', 'u', 'e']
  | .bool false => ['f', 'a', 'l', 's', 'e']
  | .number value => numberText value
  | .text value => quoted value.toList
  | .array elements => '[' :: elementCharacters elements ++ [']']
  | .object members => '\x7b' :: memberCharacters members ++ ['\x7d']

def elementCharacters : List Json → List Char
  | [] => []
  | [element] => characters element
  | element :: next :: remaining =>
    characters element ++ ',' :: elementCharacters (next :: remaining)

def memberCharacters : List (String × Json) → List Char
  | [] => []
  | [(name, value)] => quoted name.toList ++ ':' :: characters value
  | (name, value) :: next :: remaining =>
    quoted name.toList ++ ':' :: (characters value ++ ',' :: memberCharacters (next :: remaining))

end

def render (value : Json) : String :=
  String.ofList (characters value)

end GranuleRecall.Json
