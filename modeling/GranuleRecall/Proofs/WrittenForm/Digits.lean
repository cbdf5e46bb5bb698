import Mathlib.Algebra.Group.Nat.Defs
import GranuleRecall.Decimal.Digits

/-! # Written numbers can be read back

The digits of a number in a text end where the digits of the text end, and they tell the number,
with or without zeros in front. -/

set_option autoImplicit false

namespace GranuleRecall.Decimal

def isDigit (character : Char) : Bool :=
  (digitValue? character).isSome

/-- A text that does not begin with a digit. -/
def IsPastDigits (text : List Char) : Prop :=
  text.takeWhile isDigit = []

theorem isPastDigits_cons {character : Char} (other : isDigit character = false)
    (text : List Char) : IsPastDigits (character :: text) := by
  rw [IsPastDigits, List.takeWhile_cons, other]
  rfl

theorem isDigit_digitOf {value : Nat} (small : value < 10) : isDigit (digitOf value) = true := by
  rw [isDigit, digitValue?_digitOf small]
  rfl

theorem isDigit_of_mem_digits {number : Nat} {character : Char}
    (written : character ∈ digits number) : isDigit character = true := by
  induction number using Nat.strongRecOn with
  | ind number ih =>
      rw [digits] at written
      split at written
      next small =>
        rw [List.mem_singleton.mp written]
        exact isDigit_digitOf small
      next large =>
        rcases List.mem_append.mp written with earlier | last
        · exact ih (number / 10) (by omega) earlier
        · rw [List.mem_singleton.mp last]
          exact isDigit_digitOf (Nat.mod_lt _ (by decide))

theorem isDigit_of_mem_padded {width number : Nat} {character : Char}
    (written : character ∈ padded width number) : isDigit character = true := by
  rcases List.mem_append.mp written with zero | digit
  · rw [List.eq_of_mem_replicate zero]
    rfl
  · exact isDigit_of_mem_digits digit

theorem padded_ne_nil (width number : Nat) : padded width number ≠ [] := by
  simp [padded, digits_ne_nil]

theorem padded_append_ne_cons {character : Char} (other : isDigit character = false)
    (width number : Nat) (rest text : List Char) :
    padded width number ++ rest ≠ character :: text := by
  intro equal
  obtain ⟨first, later, written⟩ := List.exists_cons_of_ne_nil (padded_ne_nil width number)
  have begins : first ∈ padded width number := written ▸ List.mem_cons_self
  have digit := isDigit_of_mem_padded begins
  rw [written, List.cons_append] at equal
  rw [(List.cons.inj equal).1, other] at digit
  cases digit

theorem digits_eq_padded (number : Nat) : digits number = padded 0 number := by
  rw [padded, Nat.zero_sub, List.replicate_zero, List.nil_append]

/-! ## The value of digits -/

theorem ofDigitValues_zeros (count : Nat) (values : List Nat) :
    ofDigitValues (List.replicate count 0 ++ values) = ofDigitValues values := by
  induction count with
  | zero => rfl
  | succ count ih =>
      rw [List.replicate_succ, List.cons_append]
      exact ih

theorem ofDigitValues_padded (width number : Nat) :
    ofDigitValues ((padded width number).filterMap digitValue?) = number := by
  have zero : digitValue? '0' = some 0 := rfl
  rw [padded, List.filterMap_append, List.filterMap_replicate_of_some zero, ofDigitValues_zeros,
    ofDigitValues_digits]

theorem padded_inj {width width' number number' : Nat}
    (same : padded width number = padded width' number') : number = number' := by
  rw [← ofDigitValues_padded width number, same, ofDigitValues_padded]

/-! ## Where digits end -/

theorem takeWhile_padded_append {rest : List Char} (ends : IsPastDigits rest)
    (width number : Nat) :
    (padded width number ++ rest).takeWhile isDigit = padded width number := by
  rw [List.takeWhile_append_of_pos fun _ written => isDigit_of_mem_padded written, ends,
    List.append_nil]

section

variable {rest rest' : List Char} (ends : IsPastDigits rest) (ends' : IsPastDigits rest')

include ends ends'

theorem padded_append_inj {width width' number number' : Nat}
    (same : padded width number ++ rest = padded width' number' ++ rest') :
    padded width number = padded width' number' ∧ rest = rest' := by
  have sameDigits : padded width number = padded width' number' := by
    rw [← takeWhile_padded_append ends, same, takeWhile_padded_append ends']
  rw [sameDigits] at same
  exact ⟨sameDigits, List.append_cancel_left same⟩

theorem integerDigits_append_inj {number number' : Int}
    (same : integerDigits number ++ rest = integerDigits number' ++ rest') :
    number = number' ∧ rest = rest' := by
  have minus : isDigit '-' = false := rfl
  unfold integerDigits at same
  rw [digits_eq_padded, digits_eq_padded] at same
  split at same
  next negative =>
    split at same
    next negative' =>
      obtain ⟨_, sameRest⟩ := List.cons.inj same
      obtain ⟨sameDigits, ended⟩ := padded_append_inj ends ends' sameRest
      exact ⟨by have := padded_inj sameDigits; omega, ended⟩
    next => exact absurd same.symm (padded_append_ne_cons minus _ _ _ _)
  next positive =>
    split at same
    next => exact absurd same (padded_append_ne_cons minus _ _ _ _)
    next positive' =>
      obtain ⟨sameDigits, ended⟩ := padded_append_inj ends ends' same
      exact ⟨by have := padded_inj sameDigits; omega, ended⟩

end

/-! ## How many digits there are -/

theorem length_digits_le {width : Nat} (room : 0 < width) {number : Nat}
    (small : number < 10 ^ width) : (digits number).length ≤ width := by
  induction width generalizing number with
  | zero => exact absurd room (Nat.lt_irrefl 0)
  | succ width ih =>
      rw [digits]
      split
      next => exact Nat.succ_le_succ (Nat.zero_le width)
      next large =>
        have positive : 0 < width := by
          rcases Nat.eq_zero_or_pos width with rfl | positive
          · omega
          · exact positive
        have shorter : number / 10 < 10 ^ width := by
          rw [Nat.pow_succ] at small
          omega
        rw [List.length_append, List.length_singleton]
        exact Nat.succ_le_succ (ih positive shorter)

theorem length_padded {width : Nat} (room : 0 < width) {number : Nat}
    (small : number < 10 ^ width) : (padded width number).length = width := by
  have fits := length_digits_le room small
  rw [padded, List.length_append, List.length_replicate]
  omega

end GranuleRecall.Decimal
