import GranuleRecall.Time.Duration
import GranuleRecall.Decimal.Digits

/-! # Instants

Points in time on the UTC scale, their written form (RFC 3339), and the passing of time. -/
set_option autoImplicit false

namespace GranuleRecall.Time

/-- A point in time: seconds since the beginning of 1970, and nanoseconds within the second.
Nanoseconds from `10 ^ 9` on stand for a leap second, which follows the second given. -/
structure Instant where
  seconds : Int
  nanoseconds : Nat
deriving DecidableEq, Repr

/-- A day of the proleptic Gregorian calendar. -/
structure Date where
  year : Int
  month : Nat
  day : Nat
deriving DecidableEq, Repr

/-- The date a count of days after the first of January 1970. The calendar repeats after 400
years of 146097 days; counted from the first of March, the leap day is the last of its year. -/
def Date.ofDays (days : Int) : Date :=
  let shifted := days + 719468
  let era := Int.fdiv shifted 146097
  let dayOfEra := (shifted - era * 146097).toNat
  let yearOfEra := (dayOfEra - dayOfEra / 1460 + dayOfEra / 36524 - dayOfEra / 146096) / 365
  let dayOfYear := dayOfEra - (365 * yearOfEra + yearOfEra / 4 - yearOfEra / 100)
  let monthFromMarch := (5 * dayOfYear + 2) / 153
  let day := dayOfYear - (153 * monthFromMarch + 2) / 5 + 1
  let month := if monthFromMarch < 10 then monthFromMarch + 3 else monthFromMarch - 9
  let year : Int := yearOfEra + era * 400
  ⟨if month ≤ 2 then year + 1 else year, month, day⟩

namespace Instant

open Decimal

/-- A year: four digits from 0 to 9999, else a sign and at least four digits. -/
def yearText (year : Int) : List Char :=
  if 0 ≤ year ∧ year ≤ 9999 then padded 4 year.toNat
  else (if 0 ≤ year then '+' else '-') :: padded 4 year.natAbs

/-- The fraction of a second: nothing, or a point and three, six or nine digits, the fewest
that are exact. -/
def fractionText (nanoseconds : Nat) : List Char :=
  if nanoseconds = 0 then []
  else if nanoseconds % 1000000 = 0 then '.' :: padded 3 (nanoseconds / 1000000)
  else if nanoseconds % 1000 = 0 then '.' :: padded 6 (nanoseconds / 1000)
  else '.' :: padded 9 nanoseconds

def characters (instant : Instant) : List Char :=
  let days := Int.fdiv instant.seconds 86400
  let secondOfDay := (instant.seconds - days * 86400).toNat
  let date := Date.ofDays days
  let second := secondOfDay % 60 + instant.nanoseconds / 1000000000
  yearText date.year ++ '-' :: padded 2 date.month ++ '-' :: padded 2 date.day ++
    'T' :: padded 2 (secondOfDay / 3600) ++ ':' :: padded 2 (secondOfDay / 60 % 60) ++
    ':' :: padded 2 second ++ fractionText (instant.nanoseconds % 1000000000) ++ ['Z']

/-- The written form, such as `2021-03-04T05:06:07.500Z`; a leap second is second 60. -/
def render (instant : Instant) : String :=
  String.ofList instant.characters

/-- The instant some milliseconds later. Within a leap second the clock goes on counting its
nanoseconds; past it, the next second begins. -/
def afterMilliseconds (instant : Instant) (milliseconds : Nat) : Instant :=
  let whole : Nat := milliseconds / 1000
  let nanoseconds := milliseconds % 1000 * 1000000
  let inLeapSecond := 1000000000 ≤ instant.nanoseconds
  if inLeapSecond ∧ whole = 0 ∧ instant.nanoseconds + nanoseconds < 2000000000 then
    ⟨instant.seconds, instant.nanoseconds + nanoseconds⟩
  else
    let start := if inLeapSecond then instant.nanoseconds - 1000000000 else instant.nanoseconds
    let sum := start + nanoseconds
    ⟨instant.seconds + whole + (sum / 1000000000 : Nat), sum % 1000000000⟩

end Instant

end GranuleRecall.Time
