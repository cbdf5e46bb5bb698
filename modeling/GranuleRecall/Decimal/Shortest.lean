import GranuleRecall.Decimal.Binary64
import GranuleRecall.Decimal.Digits

/-! # Shortest decimal form

The decimal number with the fewest digits that rounds to a given binary64 number, and of those
the nearest. The reals that round to a number form an interval; a decimal with fewer digits lies
on a coarser grid of powers of ten, so the search goes from coarse grids to fine ones and stops
at the first grid with a point inside the interval. On each grid only the two neighbours of the
number have to be tried. -/
set_option autoImplicit false

namespace GranuleRecall.Decimal

structure ShortDecimal where
  coefficient : Nat
  exponent : Int
deriving DecidableEq, Repr

inductive TieRule
  | toEven
  | upward
deriving DecidableEq, Repr

/-- A positive number and the ends of the interval of reals that round to it, over one
denominator. The ends belong to the interval when `closed`. -/
structure RoundingInterval where
  number : Nat
  lower : Nat
  upper : Nat
  denominator : Nat
  closed : Bool

/-- The interval of a positive finite number in normal form. Below a power of two the numbers
lie twice as close, so the lower end is nearer there. -/
def RoundingInterval.of (significand : Nat) (exponent : Int) : RoundingInterval :=
  let below := if significand = 1 <<< 52 ∧ Binary64.leastExponent < exponent then 1 else 2
  let scale := if 0 ≤ exponent then 1 <<< exponent.toNat else 1
  let denominator := if 0 ≤ exponent then 4 else 4 <<< (-exponent).toNat
  { number := 4 * significand * scale
    lower := (4 * significand - below) * scale
    upper := (4 * significand + 2) * scale
    denominator := denominator
    closed := significand % 2 == 0 }

def RoundingInterval.holds (interval : RoundingInterval) (numerator denominator : Nat) : Bool :=
  let point := numerator * interval.denominator
  let lower := interval.lower * denominator
  let upper := interval.upper * denominator
  if interval.closed then lower ≤ point && point ≤ upper else lower < point && point < upper

/-- The point of the grid of multiples of `10 ^ exponent` that is in the interval and nearest to
the number, if there is one. -/
def RoundingInterval.onGrid? (interval : RoundingInterval) (tie : TieRule) (exponent : Int) :
    Option Nat :=
  let up := if 0 ≤ exponent then tenTo exponent.toNat else 1
  let down := if 0 ≤ exponent then 1 else tenTo (-exponent).toNat
  let floor := interval.number * down / (interval.denominator * up)
  let lowerIn := interval.holds (floor * up) down
  let upperIn := interval.holds ((floor + 1) * up) down
  let doubled := 2 * interval.number * down
  let middle := (2 * floor + 1) * up * interval.denominator
  if lowerIn && upperIn then
    if doubled < middle then some floor
    else if middle < doubled then some (floor + 1)
    else match tie with
      | .upward => some (floor + 1)
      | .toEven => if floor % 2 = 0 then some floor else some (floor + 1)
  else if lowerIn then some floor
  else if upperIn then some (floor + 1)
  else none

/-- The first grid, from coarse to fine, with a point in the interval. The grids that are left
are counted by the first argument. -/
def RoundingInterval.search (interval : RoundingInterval) (tie : TieRule) :
    Nat → Int → ShortDecimal
  | 0, exponent => ⟨0, exponent⟩
  | gridsLeft + 1, exponent =>
    match interval.onGrid? tie exponent with
    | some coefficient => ⟨coefficient, exponent⟩
    | none => search interval tie gridsLeft (exponent - 1)

/-- The shortest decimal that rounds to a positive finite number. The search begins one or two
grids above the number's leading digit; a grid twenty places finer than that always has a point
in the interval. -/
def shortest (tie : TieRule) (significand : Nat) (exponent : Int) : ShortDecimal :=
  let leading := Int.fdiv ((exponent + significand.log2 + 1) * 30103) 100000 + 1
  (RoundingInterval.of significand exponent).search tie 24 leading

def plainDigits (decimal : ShortDecimal) : List Char :=
  let written := digits decimal.coefficient
  if 0 ≤ decimal.exponent then written ++ List.replicate decimal.exponent.toNat '0'
  else
    let places := (-decimal.exponent).toNat
    if places < written.length then
      written.take (written.length - places) ++ '.' :: written.drop (written.length - places)
    else '0' :: '.' :: List.replicate (places - written.length) '0' ++ written

/-- A number as it stands in a message: the shortest digits, never an exponent, and no sign on
what is not a number. -/
def plainText : Binary64 → String
  | .finite negative significand exponent =>
    let magnitude :=
      if significand = 0 then ['0'] else plainDigits (shortest .upward significand exponent)
    String.ofList (if negative then '-' :: magnitude else magnitude)
  | .infinite negative => if negative then "-inf" else "inf"
  | .notANumber => "NaN"

end GranuleRecall.Decimal
