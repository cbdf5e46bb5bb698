import GranuleRecall.Decimal.Binary64
import GranuleRecall.Decimal.Digits

/-! # Number literals in settings

Reading a whole text as an integer within bounds or as a binary64 number. -/
set_option autoImplicit false

namespace GranuleRecall.Decimal

inductive IntegerFault
  | empty
  | invalidDigit
  | tooLarge
  | tooSmall
deriving DecidableEq, Repr

def IntegerFault.message : IntegerFault → String
  | .empty => "cannot parse integer from empty string"
  | .invalidDigit => "invalid digit found in string"
  | .tooLarge => "number too large to fit in target type"
  | .tooSmall => "number too small to fit in target type"

/-- Reads digits after those that make up `magnitude`. The first character at which something is
wrong decides: it is no digit, or with it the magnitude exceeds the bound. -/
def readMagnitude (bound : Nat) (exceeded : IntegerFault) (magnitude : Nat) :
    List Char → Except IntegerFault Nat
  | [] => .ok magnitude
  | character :: remaining =>
    match digitValue? character with
    | none => .error .invalidDigit
    | some value =>
      let extended := magnitude * 10 + value
      if bound < extended then .error exceeded
      else readMagnitude bound exceeded extended remaining

/-- Reads an unsigned integer up to a bound: digits after an optional plus. A minus is no
digit. -/
def readNatural (bound : Nat) (characters : List Char) : Except IntegerFault Nat :=
  match characters with
  | [] => .error .empty
  | ['+'] | ['-'] => .error .invalidDigit
  | '+' :: remaining => readMagnitude bound .tooLarge 0 remaining
  | remaining => readMagnitude bound .tooLarge 0 remaining

/-- Reads a signed integer between `-(bound + 1)` and the bound: digits after an optional
sign. -/
def readSigned (bound : Nat) (characters : List Char) : Except IntegerFault Int :=
  match characters with
  | [] => .error .empty
  | ['+'] | ['-'] => .error .invalidDigit
  | '+' :: remaining => (readMagnitude bound .tooLarge 0 remaining).map Int.ofNat
  | '-' :: remaining =>
    (readMagnitude (bound + 1) .tooSmall 0 remaining).map (fun magnitude => -Int.ofNat magnitude)
  | remaining => (readMagnitude bound .tooLarge 0 remaining).map Int.ofNat

def leadingDigits : List Char → List Nat × List Char
  | [] => ([], [])
  | character :: remaining =>
    match digitValue? character with
    | none => ([], character :: remaining)
    | some value =>
      let (values, following) := leadingDigits remaining
      (value :: values, following)

/-- Reads an exponent part to the end of the text: a sign, which may be missing, and at least
one digit. -/
def readExponent? (characters : List Char) : Option Int :=
  let (negative, unsigned) := match characters with
    | '-' :: remaining => (true, remaining)
    | '+' :: remaining => (false, remaining)
    | remaining => (false, remaining)
  match leadingDigits unsigned with
  | ([], _) => none
  | (values, []) =>
    let magnitude : Int := ofDigitValues values
    some (if negative then -magnitude else magnitude)
  | _ => none

/-- Reads an unsigned decimal literal: digits with an optional point among or beside them, at
least one digit, and an optional exponent. -/
def readDecimal? (negative : Bool) (characters : List Char) : Option Binary64 :=
  let (whole, afterWhole) := leadingDigits characters
  let (fraction, afterFraction) := match afterWhole with
    | '.' :: remaining => leadingDigits remaining
    | remaining => ([], remaining)
  let values := whole ++ fraction
  if values.isEmpty then none
  else
    let exponent? := match afterFraction with
      | [] => some 0
      | character :: remaining =>
        if character = 'e' ∨ character = 'E' then readExponent? remaining else none
    exponent?.map fun exponent =>
      let significant := values.dropWhile (· == 0)
      Binary64.ofDecimal negative (ofDigitValues significant) significant.length
        (exponent - fraction.length)

/-- Reads a binary64 literal: an optional sign, then a decimal literal or, in any case, `inf`,
`infinity` or `nan`. -/
def readBinary64? (characters : List Char) : Option Binary64 :=
  let (negative, unsigned) := match characters with
    | '-' :: remaining => (true, remaining)
    | '+' :: remaining => (false, remaining)
    | remaining => (false, remaining)
  let lowered := String.ofList (unsigned.map Char.toLower)
  if lowered = "inf" ∨ lowered = "infinity" then some (.infinite negative)
  else if lowered = "nan" then some .notANumber
  else readDecimal? negative unsigned

def invalidBinary64Message : String := "invalid float literal"

end GranuleRecall.Decimal
