import GranuleRecall.Proofs.Documents.Printing
import GranuleRecall.Proofs.WrittenForm.Reals

/-! # Numbers that are read are written as literals

A number that is read from a literal is an integer or a finite binary64 number, and each of these
has a written form of the grammar. -/

set_option autoImplicit false

namespace GranuleRecall.Json

open Decimal

/-! ## The written form of reals -/

theorem digits_cons {number : Nat} (positive : number ≠ 0) :
    ∃ first others value, digits number = first :: others ∧ digitValue? first = some value ∧
      value ≠ 0 ∧ ∀ character ∈ others, isDigit character = true := by
  obtain ⟨value, values, begins, notZero⟩ := digits_values_cons positive
  cases written : digits number with
  | nil => exact absurd written (digits_ne_nil number)
  | cons first others =>
      have digit : ∀ character ∈ first :: others, isDigit character = true := fun character among =>
        isDigit_of_mem_digits (written ▸ among)
      obtain ⟨isFirst, others_digits⟩ := List.forall_mem_cons.mp digit
      obtain ⟨firstValue, read⟩ := Option.isSome_iff_exists.mp isFirst
      rw [written, List.filterMap_cons_some read] at begins
      exact ⟨first, others, firstValue, rfl, read, (List.cons.inj begins).1 ▸ notZero,
        others_digits⟩

theorem isDigit_of_mem_zeros (count : Nat) :
    ∀ character ∈ List.replicate count '0', isDigit character = true := by
  intro character among
  rw [List.eq_of_mem_replicate among]
  rfl

theorem exponentPart_spelled (exponent : Int) :
    ∃ part, ∀ rest, ExponentPart part (exponentPart exponent ++ rest) rest := by
  have run (rest : List Char) := digitRun_of_isDigit (digits_ne_nil exponent.natAbs)
    (fun _ written => isDigit_of_mem_digits written) rest
  unfold exponentPart
  split
  next => exact ⟨_, fun rest => .plus rfl (run rest)⟩
  next => exact ⟨_, fun rest => .minus rfl (run rest)⟩

/-- A text that is a number literal without a sign, whatever follows it. -/
def IsUnsigned (text : List Char) : Prop :=
  ∃ whole fraction exponent, ∀ negative rest,
    (NumberLiteral.mk negative whole fraction exponent).Unsigned (text ++ rest) rest

section

variable {first : Char} {value : Nat} (read : digitValue? first = some value)
  (notZero : value ≠ 0) {before after : List Char}
  (digitsBefore : ∀ character ∈ before, isDigit character = true)
  (digitsAfter : ∀ character ∈ after, isDigit character = true)

include read notZero digitsBefore

theorem wholePart_cons (rest : List Char) :
    WholePart (value :: before.filterMap digitValue?) (first :: (before ++ rest)) rest := by
  have isFirst : isDigit first = true := by rw [isDigit, read, Option.isSome_some]
  have run := digitRun_of_isDigit (List.cons_ne_nil first before)
    (List.forall_mem_cons.mpr ⟨isFirst, digitsBefore⟩) rest
  rw [List.filterMap_cons_some read] at run
  exact .digits notZero run

include digitsAfter

/-- Digits with a point among them, and what follows as an exponent. -/
theorem isUnsigned_pointed (given : after ≠ []) {exponent : Option (Bool × List Nat)}
    {tail text : List Char} (spelled : ∀ rest, ExponentPart exponent (tail ++ rest) rest)
    (same : text = first :: (before ++ '.' :: (after ++ tail))) : IsUnsigned text := by
  refine ⟨value :: before.filterMap digitValue?, some (after.filterMap digitValue?), exponent, ?_⟩
  intro negative rest
  have whole := wholePart_cons read notZero digitsBefore ('.' :: (after ++ (tail ++ rest)))
  have places := digitRun_of_isDigit given digitsAfter (tail ++ rest)
  rw [same, List.cons_append, List.append_assoc, List.cons_append, List.append_assoc]
  exact .parts whole (.places places) (spelled rest)

end

/-- The written form of a number that is not zero is a literal without a sign. -/
theorem isUnsigned_realDigits {decimal : ShortDecimal} (positive : decimal.coefficient ≠ 0) :
    IsUnsigned (realDigits decimal) := by
  obtain ⟨first, others, value, written, read, notZero, digits⟩ := digits_cons positive
  have noExponent (rest : List Char) : ExponentPart none ([] ++ rest) rest := .missing
  unfold realDigits
  dsimp only
  rw [written, List.length_cons]
  split
  next =>
    have zeros := isDigit_of_mem_zeros decimal.exponent.toNat
    exact isUnsigned_pointed read notZero (List.forall_mem_append.mpr ⟨digits, zeros⟩)
      (isDigit_of_mem_zeros 1) (List.cons_ne_nil _ _) noExponent (by simp)
  next notWhole =>
    split
    next within =>
      -- The point lies among the digits.
      obtain ⟨places, same⟩ := Int.eq_ofNat_of_zero_le
        (show 0 ≤ ((others.length + 1 : Nat) : Int) + decimal.exponent - 1 by omega)
      have point : (((others.length + 1 : Nat) : Int) + decimal.exponent).toNat = places + 1 := by
        omega
      have given : others.drop places ≠ [] := by
        rw [Ne, List.drop_eq_nil_iff]
        omega
      have before : ∀ character ∈ others.take places, isDigit character = true :=
        fun character among => digits character (List.mem_of_mem_take among)
      have after : ∀ character ∈ others.drop places, isDigit character = true :=
        fun character among => digits character (List.mem_of_mem_drop among)
      rw [point, List.take_succ_cons, List.drop_succ_cons]
      exact isUnsigned_pointed read notZero before after given noExponent (by simp)
    next =>
      split
      next =>
        have isFirst : isDigit first = true := by rw [isDigit, read, Option.isSome_some]
        have places := List.forall_mem_append.mpr
          ⟨isDigit_of_mem_zeros (-(((others.length + 1 : Nat) : Int) + decimal.exponent)).toNat,
            List.forall_mem_cons.mpr ⟨isFirst, digits⟩⟩
        exact ⟨[0], _, none, fun negative rest =>
          .parts .zero (.places (digitRun_of_isDigit (by simp) places rest)) .missing⟩
      next =>
        obtain ⟨exponent, spelled⟩ := exponentPart_spelled
          (((others.length + 1 : Nat) : Int) + decimal.exponent - 1)
        cases others with
        | nil =>
            exact ⟨_, none, exponent, fun negative rest =>
              .parts (wholePart_cons read notZero digits _) .missing (spelled rest)⟩
        | cons second later =>
            exact isUnsigned_pointed read notZero (List.forall_mem_nil _) digits
              (List.cons_ne_nil second later) spelled (by simp)

/-- The written form of a finite number is a literal. -/
theorem exists_realText_spelled {negative : Bool} {significand : Nat} {exponent : Int}
    (inRange : Binary64.InRange significand exponent) :
    ∃ literal : NumberLiteral, ∀ rest,
      literal.Spelled (realText (.finite negative significand exponent) ++ rest) rest := by
  have magnitude : IsUnsigned (if significand = 0 then ['0', '.', '0']
      else realDigits (shortest .toEven significand exponent)) := by
    split
    next => exact ⟨[0], some [0], none, fun _ _ => .parts .zero (.places (.last rfl)) .missing⟩
    next positive => exact isUnsigned_realDigits (shortest_ne_zero inRange positive .toEven)
  obtain ⟨whole, fraction, part, unsigned⟩ := magnitude
  unfold realText
  dsimp only
  cases negative with
  | true => exact ⟨_, fun rest => .negative rfl (unsigned true rest)⟩
  | false => exact ⟨_, fun rest => .positive rfl (unsigned false rest)⟩

/-! ## Numbers that are read -/

theorem scaleByTen_range {number result : Binary64} {exponent : Int} (modest : number.IsModest)
    (scaled : scaleByTen number exponent = some result) : result.IsInRange := by
  fun_induction scaleByTen number exponent with
  | case1 number exponent large =>
      cases scaled
      exact modest.isInRange
  | case2 => cases scaled
  | case3 => cases scaled
  | case4 number exponent small positive product finite =>
      rw [← Option.some.inj scaled]
      exact Binary64.times_range modest.isInRange
        (Binary64.isAtLeast_powerOfTen (by omega)) (by simpa using finite)
  | case5 number exponent small negative within =>
      cases scaled
      exact (Binary64.dividedBy_range modest (Binary64.isAtLeast_powerOfTen (by omega))
        (Nat.zero_le _)).1
  | case6 =>
      cases scaled
      exact modest.isInRange
  | case7 number exponent _ _ _ _ ih =>
      exact ih ((Binary64.dividedBy_range modest Binary64.isAtLeast_powerOfTen_308
        (Nat.le_refl _)).2 (by decide)) scaled

theorem appendDigits_le (values : List Nat) {significand : Nat}
    (small : significand ≤ significandBound) :
    (appendDigits significand values).1 ≤ significandBound := by
  induction values generalizing significand with
  | nil => exact small
  | cons value values ih =>
      rw [appendDigits]
      split
      next => exact small
      next fits => exact ih (Nat.not_lt.mp fits)

/-- The condition on numbers that come of literals. -/
def Number.IsFinite : Number → Prop
  | .integer _ => True
  | .real value => value.IsInRange

theorem realOf?_finite {negative : Bool} {significand : Nat} {exponent : Int} {number : Number}
    (small : significand ≤ significandBound)
    (read : realOf? negative significand exponent = some number) : number.IsFinite := by
  obtain ⟨magnitude, scaled, rfl⟩ := Option.map_eq_some_iff.mp read
  have modest := Binary64.isModest_ofNat (Nat.le_trans small (by decide))
  have inRange := scaleByTen_range modest scaled
  cases negative with
  | true => exact inRange.negate
  | false => exact inRange

theorem isFinite_of_realOf? {negative : Bool} {significand : Nat} {exponent : Int}
    {number : Number} (small : significand ≤ significandBound)
    (read : (realOf? negative significand exponent).elim (.error 0) .ok =
      (.ok number : Except Nat Number)) : number.IsFinite := by
  cases scaled : realOf? negative significand exponent with
  | none =>
      rw [scaled] at read
      cases read
  | some found =>
      rw [scaled] at read
      cases read
      exact realOf?_finite small scaled

theorem isFinite_of_exponent {negative negativeExponent : Bool} {significand : Nat} {base : Int}
    {values : List Nat} {number : Number} (small : significand ≤ significandBound)
    (read : (match exponentValue 0 values with
      | .error unread =>
        if significand ≠ 0 ∧ ¬ negativeExponent then .error unread
        else .ok (.real (.finite negative 0 Binary64.leastExponent))
      | .ok exponent =>
        (realOf? negative significand
          (if negativeExponent then base - exponent else base + exponent)).elim (.error 0) .ok) =
        (.ok number : Except Nat Number)) : number.IsFinite := by
  cases scanned : exponentValue 0 values with
  | ok value =>
      rw [scanned] at read
      exact isFinite_of_realOf? small read
  | error unread =>
      rw [scanned] at read
      rcases ite_eq_iff.mp read with ⟨_, tooLarge⟩ | ⟨_, same⟩
      · cases tooLarge
      · cases same
        exact ⟨Nat.zero_le _, Int.le_refl _, by decide⟩

theorem NumberLiteral.isFinite_of_value {literal : NumberLiteral} {number : Number}
    (read : literal.value = .ok number) : number.IsFinite := by
  obtain ⟨negative, whole, fraction, exponent⟩ := literal
  have wholeSmall := appendDigits_le whole (Nat.zero_le significandBound)
  cases fraction with
  | some places =>
      have small := appendDigits_le places wholeSmall
      cases exponent with
      | some exponent => exact isFinite_of_exponent small read
      | none =>
          simp only [NumberLiteral.value, Option.isNone_some, Bool.false_eq_true, false_and,
            if_false] at read
          exact isFinite_of_realOf? small read
  | none =>
      cases exponent with
      | some exponent => exact isFinite_of_exponent wholeSmall read
      | none =>
          rcases ite_eq_iff.mp read with ⟨_, whole⟩ | ⟨_, scaled⟩
          · rcases ite_eq_iff.mp whole with ⟨_, positive⟩ | ⟨_, negative⟩
            · cases positive
              trivial
            · rcases ite_eq_iff.mp negative with ⟨_, within⟩ | ⟨_, beyond⟩
              · cases within
                trivial
              · cases beyond
                have modest := Binary64.isModest_ofNat (Nat.le_trans wholeSmall (by decide))
                exact modest.isInRange.negate
          · exact isFinite_of_realOf? wholeSmall scaled

/-- A finite number has a written form of the grammar. -/
theorem Number.IsFinite.isLiteral {number : Number} (finite : number.IsFinite) :
    number.IsLiteral := by
  cases number with
  | integer value => exact Number.isLiteral_integer value
  | real value =>
      cases value with
      | infinite _ => cases finite
      | notANumber => cases finite
      | finite negative significand exponent =>
          obtain ⟨literal, spelled⟩ := exists_realText_spelled finite
          exact Number.isLiteral_of_spelled spelled

end GranuleRecall.Json
