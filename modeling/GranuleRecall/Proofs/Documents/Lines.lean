import GranuleRecall.Proofs.Documents.Printing

/-! # Printed data take one line

No line breaks are written around the parts of data, and those in texts are escaped. -/

set_option autoImplicit false

namespace GranuleRecall.Json

open Decimal

/-! ## Numbers -/

theorem newline_not_mem_digits (number : Nat) : '\n' ∉ digits number := by
  intro written
  cases isDigit_of_mem_digits written

theorem newline_not_mem_exponentPart (exponent : Int) : '\n' ∉ exponentPart exponent := by
  have written := newline_not_mem_digits exponent.natAbs
  unfold exponentPart
  split <;> simp [written]

theorem newline_not_mem_realDigits (decimal : ShortDecimal) : '\n' ∉ realDigits decimal := by
  have written := newline_not_mem_digits decimal.coefficient
  unfold realDigits
  dsimp only
  split
  next => simp [written]
  next =>
    split
    next =>
      simp only [List.mem_append, List.mem_cons, not_or]
      exact ⟨fun taken => written (List.mem_of_mem_take taken), by decide,
        fun left => written (List.mem_of_mem_drop left)⟩
    next =>
      split
      next => simp [written]
      next =>
        have exponent := newline_not_mem_exponentPart
        split
        next single same =>
          rw [same] at written
          simp_all
        next first remaining _ same =>
          rw [same] at written
          simp_all
        next => exact List.not_mem_nil

theorem newline_not_mem_realText (number : Binary64) : '\n' ∉ realText number := by
  unfold realText
  split
  next negative significand exponent =>
    have magnitude : '\n' ∉ if significand = 0 then ['0', '.', '0']
        else realDigits (shortest .toEven significand exponent) := by
      split
      next => decide
      next => exact newline_not_mem_realDigits _
    dsimp only
    split
    next => exact List.not_mem_cons_of_ne_of_not_mem (by decide) magnitude
    next => exact magnitude
  next => decide

theorem newline_not_mem_numberText (number : Number) : '\n' ∉ numberText number := by
  cases number with
  | integer value =>
      have written := newline_not_mem_digits value.natAbs
      rw [numberText, integerDigits]
      split
      next => exact List.not_mem_cons_of_ne_of_not_mem (by decide) written
      next => exact written
  | real value => exact newline_not_mem_realText value

/-! ## Texts -/

theorem hexDigitOf_ne_newline {value : Nat} (small : value < 16) : '\n' ≠ hexDigitOf value := by
  have every : ∀ candidate ∈ List.range 16, '\n' ≠ hexDigitOf candidate := by decide
  exact every value (List.mem_range.mpr small)

theorem newline_not_mem_escaped (character : Char) : '\n' ∉ escaped character := by
  by_cases control : character.toNat < 0x20
  · have high := hexDigitOf_ne_newline (show character.toNat / 16 < 16 by omega)
    have low := hexDigitOf_ne_newline (Nat.mod_lt character.toNat (by decide : 0 < 16))
    simp only [escaped, if_pos control]
    split_ifs <;> simp [high, low]
  · have other : '\n' ≠ character := by
      rintro rfl
      exact control (by decide)
    simp only [escaped, if_neg control]
    split_ifs <;> simp [other]

theorem newline_not_mem_quoted (characters : List Char) : '\n' ∉ quoted characters := by
  have written : '\n' ∉ characters.flatMap escaped := by
    intro listed
    obtain ⟨character, _, within⟩ := List.mem_flatMap.mp listed
    exact newline_not_mem_escaped character within
  simp [quoted, written]

/-! ## Data -/

mutual

theorem newline_not_mem_characters : (data : Json) → '\n' ∉ characters data
  | .null => by decide
  | .bool true => by decide
  | .bool false => by decide
  | .number value => newline_not_mem_numberText value
  | .text value => newline_not_mem_quoted value.toList
  | .array elements => by
      simp [characters, newline_not_mem_elementCharacters elements]
  | .object members => by
      simp [characters, newline_not_mem_memberCharacters members]

theorem newline_not_mem_elementCharacters : (elements : List Json) →
    '\n' ∉ elementCharacters elements
  | [] => List.not_mem_nil
  | [element] => newline_not_mem_characters element
  | element :: next :: remaining => by
      simp [elementCharacters, newline_not_mem_characters element,
        newline_not_mem_elementCharacters (next :: remaining)]

theorem newline_not_mem_memberCharacters : (members : List (String × Json)) →
    '\n' ∉ memberCharacters members
  | [] => List.not_mem_nil
  | [(name, value)] => by
      simp [memberCharacters, newline_not_mem_quoted name.toList, newline_not_mem_characters value]
  | (name, value) :: next :: remaining => by
      simp [memberCharacters, newline_not_mem_quoted name.toList,
        newline_not_mem_characters value, newline_not_mem_memberCharacters (next :: remaining)]

end

theorem newline_not_mem_render (data : Json) : '\n' ∉ data.render.toList := by
  rw [render, String.toList_ofList]
  exact newline_not_mem_characters data

end GranuleRecall.Json
