/-! # Decimal digits

Natural numbers and integers as decimal digits: their written form, the value of a run of
digits, and the law that reading the written form gives the number back. -/
set_option autoImplicit false

namespace GranuleRecall.Decimal

def digitOf (value : Nat) : Char :=
  Char.ofNat (48 + value)

def digitValue? (character : Char) : Option Nat :=
  if 48 ≤ character.toNat ∧ character.toNat ≤ 57 then some (character.toNat - 48) else none

def hexValue? (character : Char) : Option Nat :=
  let code := character.toNat
  if 48 ≤ code ∧ code ≤ 57 then some (code - 48)
  else if 65 ≤ code ∧ code ≤ 70 then some (code - 55)
  else if 97 ≤ code ∧ code ≤ 102 then some (code - 87)
  else none

/-- The hexadecimal digit, in lower case, for a value below sixteen. -/
def hexDigitOf (value : Nat) : Char :=
  if value < 10 then Char.ofNat (48 + value) else Char.ofNat (87 + value)

/-- The digits of a number, most significant first; zero is a single digit. -/
def digits (number : Nat) : List Char :=
  if number < 10 then [digitOf number] else digits (number / 10) ++ [digitOf (number % 10)]
termination_by number

/-- The hexadecimal digits of a number, in lower case, most significant first. -/
def hexDigits (number : Nat) : List Char :=
  if number < 16 then [hexDigitOf number] else hexDigits (number / 16) ++ [hexDigitOf (number % 16)]
termination_by number

def ofDigitValues (values : List Nat) : Nat :=
  values.foldl (fun number value => number * 10 + value) 0

def integerDigits (number : Int) : List Char :=
  if number < 0 then '-' :: digits number.natAbs else digits number.natAbs

/-- A number written with at least the given count of digits, zeros in front. -/
def padded (width number : Nat) : List Char :=
  let written := digits number
  List.replicate (width - written.length) '0' ++ written

theorem digitValue?_digitOf {value : Nat} (small : value < 10) :
    digitValue? (digitOf value) = some value := by
  have every : ∀ candidate ∈ List.range 10, digitValue? (digitOf candidate) = some candidate := by
    decide
  exact every value (List.mem_range.mpr small)

theorem digits_ne_nil (number : Nat) : digits number ≠ [] := by
  unfold digits
  split <;> simp

/-- Reading the written digits gives the number back. -/
theorem ofDigitValues_digits (number : Nat) :
    ofDigitValues ((digits number).filterMap digitValue?) = number := by
  induction number using Nat.strongRecOn with
  | ind number ih =>
      unfold digits
      split
      · rename_i small
        simp [digitValue?_digitOf small, ofDigitValues]
      · rename_i large
        have inner := ih (number / 10) (by omega)
        have last : digitValue? (digitOf (number % 10)) = some (number % 10) :=
          digitValue?_digitOf (Nat.mod_lt _ (by decide))
        simp only [List.filterMap_append, ofDigitValues, List.foldl_append] at inner ⊢
        rw [inner]
        simp [last]
        omega

end GranuleRecall.Decimal
