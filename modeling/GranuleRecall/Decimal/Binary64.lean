/-! # Binary64 numbers

Numbers with a significand of 53 bits and a bounded exponent, held exactly: a finite number is a
sign, a natural significand and a power of two. Every operation forms the exact rational result
and rounds it once, to the nearest number and to the even significand in a tie. No machine
arithmetic takes part, so each result can be computed in a proof. -/
set_option autoImplicit false

namespace GranuleRecall.Decimal

/-- A binary64 number. `finite negative significand exponent` is
`± significand * 2 ^ exponent`; the numbers that `Binary64.ofRatio` gives are in normal form:
the significand is below `2 ^ 53`, the exponent is at least `-1074`, and the significand is at
least `2 ^ 52` unless the exponent is `-1074`. -/
inductive Binary64
  | finite (negative : Bool) (significand : Nat) (exponent : Int)
  | infinite (negative : Bool)
  | notANumber
deriving DecidableEq, Repr

def tenTo (exponent : Nat) : Nat :=
  Nat.pow 10 exponent

namespace Binary64

def leastExponent : Int := -1074

def greatestExponent : Int := 971

/-- The quotient rounded to the nearest natural number, a half to the even one. -/
def divideToEven (numerator denominator : Nat) : Nat :=
  let quotient := numerator / denominator
  let remainder := numerator % denominator
  if 2 * remainder < denominator then quotient
  else if denominator < 2 * remainder then quotient + 1
  else if quotient % 2 = 0 then quotient else quotient + 1

/-- The integer part of the binary logarithm of a quotient of positive numbers. -/
def ratioLog2 (numerator denominator : Nat) : Int :=
  let guess : Int := (numerator.log2 : Int) - denominator.log2
  let reached :=
    if 0 ≤ guess then denominator <<< guess.toNat ≤ numerator
    else denominator ≤ numerator <<< (-guess).toNat
  if reached then guess else guess - 1

def scaledDown (numerator denominator : Nat) (exponent : Int) : Nat × Nat :=
  if 0 ≤ exponent then (numerator, denominator <<< exponent.toNat)
  else (numerator <<< (-exponent).toNat, denominator)

/-- The number nearest to a fraction with a positive denominator; infinite beyond the greatest
finite number. -/
def ofRatio (negative : Bool) (numerator denominator : Nat) : Binary64 :=
  if numerator = 0 then .finite negative 0 leastExponent
  else
    let exponent := max leastExponent (ratioLog2 numerator denominator - 52)
    let (scaledNumerator, scaledDenominator) := scaledDown numerator denominator exponent
    let rounded := divideToEven scaledNumerator scaledDenominator
    let (significand, exponent) :=
      if rounded = 1 <<< 53 then (1 <<< 52, exponent + 1) else (rounded, exponent)
    if greatestExponent < exponent then .infinite negative
    else .finite negative significand exponent

def ofNat (number : Nat) : Binary64 :=
  ofRatio false number 1

def magnitude (significand : Nat) (exponent : Int) : Nat × Nat :=
  if 0 ≤ exponent then (significand <<< exponent.toNat, 1)
  else (significand, 1 <<< (-exponent).toNat)

def negate : Binary64 → Binary64
  | .finite negative significand exponent => .finite (!negative) significand exponent
  | .infinite negative => .infinite (!negative)
  | .notANumber => .notANumber

/-- Whether the number is below zero; a negative zero is not. -/
def isBelowZero : Binary64 → Bool
  | .finite negative significand _ => negative && significand != 0
  | .infinite negative => negative
  | .notANumber => false

def isInfinite : Binary64 → Bool
  | .infinite _ => true
  | _ => false

def isZero : Binary64 → Bool
  | .finite _ significand _ => significand == 0
  | _ => false

/-- The rounded product of two finite numbers. Products with an infinite factor are not needed
and are not numbers. -/
def times : Binary64 → Binary64 → Binary64
  | .finite leftSign leftSignificand leftExponent,
      .finite rightSign rightSignificand rightExponent =>
    let (leftNumerator, leftDenominator) := magnitude leftSignificand leftExponent
    let (rightNumerator, rightDenominator) := magnitude rightSignificand rightExponent
    ofRatio (leftSign != rightSign) (leftNumerator * rightNumerator)
      (leftDenominator * rightDenominator)
  | _, _ => .notANumber

/-- The rounded quotient of two finite numbers, the second not zero. Other quotients are not
needed and are not numbers. -/
def dividedBy : Binary64 → Binary64 → Binary64
  | .finite leftSign leftSignificand leftExponent,
      .finite rightSign rightSignificand rightExponent =>
    if rightSignificand = 0 then .notANumber
    else
      let (leftNumerator, leftDenominator) := magnitude leftSignificand leftExponent
      let (rightNumerator, rightDenominator) := magnitude rightSignificand rightExponent
      ofRatio (leftSign != rightSign) (leftNumerator * rightDenominator)
        (leftDenominator * rightNumerator)
  | _, _ => .notANumber

def powerOfTen (exponent : Nat) : Binary64 :=
  ofRatio false (tenTo exponent) 1

/-- The number nearest to `coefficient * 10 ^ exponent`. Powers far outside the range of finite
numbers are not formed: the result is then infinite or zero at once. `digitCount` is the number
of digits of the coefficient. -/
def ofDecimal (negative : Bool) (coefficient digitCount : Nat) (exponent : Int) : Binary64 :=
  if coefficient = 0 then .finite negative 0 leastExponent
  else if 310 < exponent + digitCount then .infinite negative
  else if exponent + digitCount < -330 then .finite negative 0 leastExponent
  else if 0 ≤ exponent then ofRatio negative (coefficient * tenTo exponent.toNat) 1
  else ofRatio negative coefficient (tenTo (-exponent).toNat)

end Binary64

end GranuleRecall.Decimal
