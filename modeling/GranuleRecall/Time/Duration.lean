import GranuleRecall.Decimal.Binary64

/-! # Durations

Spans of time in whole nanoseconds, and the span nearest to a number of seconds. -/
set_option autoImplicit false

namespace GranuleRecall.Time

structure Duration where
  nanoseconds : Nat
deriving DecidableEq, Repr

namespace Duration

def zero : Duration := ⟨0⟩

instance : Inhabited Duration := ⟨zero⟩

def ofParts (seconds nanoseconds : Nat) : Duration :=
  ⟨seconds * 1000000000 + nanoseconds⟩

def seconds (duration : Duration) : Nat :=
  duration.nanoseconds / 1000000000

def subsecond (duration : Duration) : Nat :=
  duration.nanoseconds % 1000000000

/-- The least count of whole milliseconds that covers the span. -/
def ceilMilliseconds (duration : Duration) : Nat :=
  (duration.nanoseconds + 999999) / 1000000

def secondsBound : Nat := UInt64.size

/-- The span nearest to a number of seconds that is not below zero, a half nanosecond to the
even one; none when the number is too big or no number. The sign of a zero does not count. -/
def ofSeconds? : Decimal.Binary64 → Option Duration
  | .finite negative significand exponent =>
    if negative ∧ significand ≠ 0 then none
    else
      let (numerator, denominator) := Decimal.Binary64.magnitude significand exponent
      if secondsBound * denominator ≤ numerator then none
      else some ⟨Decimal.Binary64.divideToEven (numerator * 1000000000) denominator⟩
  | _ => none

def unusableMessage : String :=
  "cannot convert float seconds to Duration: value is either too big or NaN"

end Duration

end GranuleRecall.Time
