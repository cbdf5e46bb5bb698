import GranuleRecall.Json.Basic
import GranuleRecall.Json.Cursor
import GranuleRecall.Decimal.Digits

/-! # Number literals

The written form of a JSON number and the number it stands for.

A literal without fraction and exponent that fits in 64 bits is an integer; a negative zero is
not. Any other literal is a binary64 number, found from as many leading digits as fit in 64
bits: their nearest binary64 number is multiplied with, or divided by, the nearest binary64
number to a power of ten. The result can differ from the nearest number to the literal in its
last bits. -/
set_option autoImplicit false

namespace GranuleRecall.Json

open Decimal

/-- A number as written: digits by value, the parts that may be missing as options. -/
structure NumberLiteral where
  negative : Bool
  whole : List Nat
  fraction : Option (List Nat)
  exponent : Option (Bool × List Nat)
deriving DecidableEq, Repr

def spanDigits : List Char → Position → List Nat × Cursor
  | [], position => ([], ⟨[], position⟩)
  | character :: remaining, position =>
    match digitValue? character with
    | none => ([], ⟨character :: remaining, position⟩)
    | some value =>
      let (values, following) := spanDigits remaining (position.after character)
      (value :: values, following)

/-- `spanDigits` at a cursor. -/
def Cursor.spanDigits (cursor : Cursor) : List Nat × Cursor :=
  Json.spanDigits cursor.unread cursor.position

def Cursor.atDigit (cursor : Cursor) : Bool :=
  match cursor.unread with
  | [] => false
  | character :: _ => (digitValue? character).isSome

def scanExponent (cursor : Cursor) : Except Break (Option (Bool × List Nat) × Cursor) :=
  match cursor.unread with
  | mark :: _ =>
    if mark = 'e' ∨ mark = 'E' then
      let signed := cursor.next
      let (negative, unsigned) := match signed.unread with
        | '-' :: _ => (true, signed.next)
        | '+' :: _ => (false, signed.next)
        | _ => (false, signed)
      match unsigned.unread with
      | [] => .error ⟨unsigned.here .endInValue, unsigned.here .invalidNumber⟩
      | _ :: _ =>
        let (values, following) := unsigned.spanDigits
        if values.isEmpty then .error (.always (unsigned.atNext .invalidNumber))
        else .ok (some (negative, values), following)
    else .ok (none, cursor)
  | [] => .ok (none, cursor)

def scanFraction (cursor : Cursor) : Except Break (Option (List Nat) × Cursor) :=
  match cursor.unread with
  | '.' :: _ =>
    let (values, following) := cursor.next.spanDigits
    if values.isEmpty then
      match following.unread with
      | [] => .error ⟨following.here .endInValue, following.here .invalidNumber⟩
      | _ => .error (.always (following.atNext .invalidNumber))
    else .ok (some values, following)
  | _ => .ok (none, cursor)

/-- The digits before the point: a single zero, or digits of which the first is not zero. -/
def scanWhole (cursor : Cursor) : Except Break (List Nat × Cursor) :=
  match cursor.unread with
  | [] => .error ⟨cursor.here .endInValue, cursor.here .invalidNumber⟩
  | '0' :: _ =>
    if cursor.next.atDigit then .error (.always (cursor.next.atNext .invalidNumber))
    else .ok ([0], cursor.next)
  | _ :: _ =>
    let (values, following) := cursor.spanDigits
    if values.isEmpty then .error (.always (cursor.atNext .invalidNumber))
    else .ok (values, following)

def scanNumber (cursor : Cursor) : Except Break (NumberLiteral × Cursor) := do
  let (negative, unsigned) := match cursor.unread with
    | '-' :: _ => (true, cursor.next)
    | _ => (false, cursor)
  let (whole, afterWhole) ← scanWhole unsigned
  let (fraction, afterFraction) ← scanFraction afterWhole
  let (exponent, following) ← scanExponent afterFraction
  return (⟨negative, whole, fraction, exponent⟩, following)

def significandBound : Nat := UInt64.size - 1

/-- Appends digits to a significand as long as it stays within the bound, and counts the digits
from the first one that does not fit. -/
def appendDigits (significand : Nat) : List Nat → Nat × Nat
  | [] => (significand, 0)
  | value :: remaining =>
    let extended := significand * 10 + value
    if significandBound < extended then (significand, remaining.length + 1)
    else appendDigits extended remaining

def exponentBound : Nat := 1 <<< 31 - 1

/-- The value of exponent digits, or, when the bound is exceeded, how many digits come after the
one that exceeds it. -/
def exponentValue (exponent : Nat) : List Nat → Except Nat Nat
  | [] => .ok exponent
  | value :: remaining =>
    let extended := exponent * 10 + value
    if exponentBound < extended then .error remaining.length
    else exponentValue extended remaining

/-- Multiplies a number with a power of ten, given by its exponent; in steps while the exponent
is below the least that has a table entry. None when the result is too large. -/
def scaleByTen (number : Binary64) (exponent : Int) : Option Binary64 :=
  if 308 < exponent then (if number.isZero then some number else none)
  else if 0 ≤ exponent then
    let scaled := number.times (Binary64.powerOfTen exponent.toNat)
    if scaled.isInfinite then none else some scaled
  else if -308 ≤ exponent then
    some (number.dividedBy (Binary64.powerOfTen (-exponent).toNat))
  else if number.isZero then some number
  else scaleByTen (number.dividedBy (Binary64.powerOfTen 308)) (exponent + 308)
termination_by (-exponent).toNat
decreasing_by omega

def realOf? (negative : Bool) (significand : Nat) (exponent : Int) : Option Number :=
  (scaleByTen (Binary64.ofNat significand) exponent).map fun magnitude =>
    .real (if negative then magnitude.negate else magnitude)

/-- The number that a literal stands for. When it is out of range, the error is the count of
characters at the end of the literal that are not needed to see that. -/
def NumberLiteral.value (literal : NumberLiteral) : Except Nat Number :=
  let (wholeSignificand, wholeDropped) := appendDigits 0 literal.whole
  let (significand, base) : Nat × Int := match literal.fraction with
    | none => (wholeSignificand, (wholeDropped : Int))
    | some values =>
      let (extended, dropped) := appendDigits wholeSignificand values
      (extended, (wholeDropped : Int) - ((values.length : Int) - dropped))
  match literal.exponent with
  | some (negativeExponent, values) =>
    match exponentValue 0 values with
    | .error unread =>
      if significand ≠ 0 ∧ ¬ negativeExponent then .error unread
      else .ok (.real (.finite literal.negative 0 Binary64.leastExponent))
    | .ok exponent =>
      let shifted := if negativeExponent then base - exponent else base + exponent
      (realOf? literal.negative significand shifted).elim (.error 0) .ok
  | none =>
    if literal.fraction.isNone ∧ wholeDropped = 0 then
      if ¬ literal.negative then .ok (.integer significand)
      else if 1 ≤ significand ∧ significand ≤ 1 <<< 63 then .ok (.integer (-significand))
      else .ok (.real (Binary64.ofNat significand).negate)
    else (realOf? literal.negative significand base).elim (.error 0) .ok

def NumberLiteral.valueAt (literal : NumberLiteral) (ending : Position) : Except Problem Number :=
  literal.value.mapError fun unread =>
    ⟨.numberOutOfRange, ⟨ending.line, ending.column - unread⟩⟩

end GranuleRecall.Json
