import Mathlib.Algebra.Order.Ring.Nat
import Mathlib.Tactic.Ring
import GranuleRecall.Decimal.Shortest

/-! # Binary64 numbers have digits

Results of rounding keep within the bounds of binary64 numbers, and the search for the shortest
digits of such a number finds some before its grids run out. -/

set_option autoImplicit false

namespace GranuleRecall.Decimal

namespace Binary64

/-! ## Results of rounding -/

/-- The bounds of finite numbers, a little wider than need be: the significand may have two bits
more. -/
structure InRange (significand : Nat) (exponent : Int) : Prop where
  significand : significand ≤ 2 ^ 54
  least : leastExponent ≤ exponent
  greatest : exponent ≤ greatestExponent

theorem divideToEven_le (numerator denominator : Nat) :
    divideToEven numerator denominator ≤ numerator / denominator + 1 := by
  unfold divideToEven
  dsimp only
  repeat' split
  all_goals omega

theorem ratioLog2_le (numerator denominator : Nat) :
    ratioLog2 numerator denominator ≤ numerator.log2 - denominator.log2 := by
  unfold ratioLog2
  dsimp only
  split <;> omega

theorem le_ratioLog2 (numerator denominator : Nat) :
    (numerator.log2 : Int) - denominator.log2 - 1 ≤ ratioLog2 numerator denominator := by
  unfold ratioLog2
  dsimp only
  split <;> omega

/-- A quotient that is scaled down by its own size is small. -/
theorem scaledDown_lt {numerator denominator : Nat} (positive : denominator ≠ 0) {exponent : Int}
    (scaled : (numerator.log2 : Int) - denominator.log2 - 53 ≤ exponent) :
    (scaledDown numerator denominator exponent).1 <
      (scaledDown numerator denominator exponent).2 * 2 ^ 54 := by
  have above : numerator < 2 ^ (numerator.log2 + 1) := Nat.lt_log2_self
  have below : 2 ^ denominator.log2 ≤ denominator := Nat.log2_self_le positive
  unfold scaledDown
  split
  next raised =>
    obtain ⟨shift, rfl⟩ := Int.eq_ofNat_of_zero_le raised
    have room : numerator.log2 + 1 ≤ denominator.log2 + shift + 54 := by omega
    rw [Int.toNat_natCast, Nat.shiftLeft_eq]
    calc numerator < 2 ^ (numerator.log2 + 1) := above
      _ ≤ 2 ^ (denominator.log2 + shift + 54) := Nat.pow_le_pow_right (by decide) room
      _ = 2 ^ denominator.log2 * 2 ^ shift * 2 ^ 54 := by rw [Nat.pow_add, Nat.pow_add]
      _ ≤ denominator * 2 ^ shift * 2 ^ 54 :=
        Nat.mul_le_mul_right _ (Nat.mul_le_mul_right _ below)
  next lowered =>
    obtain ⟨shift, same⟩ := Int.eq_ofNat_of_zero_le (show 0 ≤ -exponent by omega)
    have room : numerator.log2 + 1 + shift ≤ denominator.log2 + 54 := by omega
    rw [same, Int.toNat_natCast, Nat.shiftLeft_eq]
    calc numerator * 2 ^ shift < 2 ^ (numerator.log2 + 1) * 2 ^ shift :=
          Nat.mul_lt_mul_of_pos_right above (Nat.two_pow_pos shift)
      _ = 2 ^ (numerator.log2 + 1 + shift) := (Nat.pow_add ..).symm
      _ ≤ 2 ^ (denominator.log2 + 54) := Nat.pow_le_pow_right (by decide) room
      _ = 2 ^ denominator.log2 * 2 ^ 54 := Nat.pow_add ..
      _ ≤ denominator * 2 ^ 54 := Nat.mul_le_mul_right _ below

/-- What a fraction is rounded to, before it is seen to be too large. -/
theorem ofRatio_eq (negative : Bool) (numerator : Nat) {denominator : Nat}
    (positive : denominator ≠ 0) :
    ∃ significand exponent, significand ≤ 2 ^ 54 ∧ leastExponent ≤ exponent ∧
      exponent ≤ max leastExponent (numerator.log2 - denominator.log2 - 52) + 1 ∧
      ofRatio negative numerator denominator =
        if greatestExponent < exponent then .infinite negative
        else .finite negative significand exponent := by
  by_cases zero : numerator = 0
  · refine ⟨0, leastExponent, Nat.zero_le _, le_refl _, by omega, ?_⟩
    rw [ofRatio, if_pos zero, if_neg (by decide)]
  · have high := ratioLog2_le numerator denominator
    have low := le_ratioLog2 numerator denominator
    generalize made : max leastExponent (ratioLog2 numerator denominator - 52) = exponent
    have scaled : (numerator.log2 : Int) - denominator.log2 - 53 ≤ exponent := by omega
    have quotient := Nat.div_lt_of_lt_mul (scaledDown_lt positive scaled)
    have small := divideToEven_le (scaledDown numerator denominator exponent).1
      (scaledDown numerator denominator exponent).2
    rw [ofRatio, if_neg zero]
    dsimp only
    rw [made]
    by_cases carried : divideToEven (scaledDown numerator denominator exponent).1
        (scaledDown numerator denominator exponent).2 = 1 <<< 53
    · rw [if_pos carried]
      refine ⟨1 <<< 52, exponent + 1, by decide, ?_, ?_, rfl⟩
      · omega
      · omega
    · rw [if_neg carried]
      refine ⟨_, exponent, Nat.le_trans small quotient, ?_, ?_, rfl⟩
      · omega
      · omega

theorem ofRatio_range (negative : Bool) (numerator : Nat) {denominator : Nat}
    (positive : denominator ≠ 0) :
    ofRatio negative numerator denominator = .infinite negative ∨
      ∃ significand exponent, InRange significand exponent ∧
        ofRatio negative numerator denominator = .finite negative significand exponent := by
  obtain ⟨significand, exponent, small, least, _, rounded⟩ :=
    ofRatio_eq negative numerator positive
  rw [rounded]
  split
  next => exact .inl rfl
  next within => exact .inr ⟨significand, exponent, ⟨small, least, Int.not_lt.mp within⟩, rfl⟩

/-- A fraction below a power of two that is not too large is rounded to a finite number. -/
theorem ofRatio_small (negative : Bool) {numerator denominator bound : Nat}
    (positive : denominator ≠ 0) (below : numerator ≤ denominator * 2 ^ bound)
    (room : bound ≤ 1000) :
    ∃ significand exponent, InRange significand exponent ∧ exponent ≤ max 0 (bound - 51) ∧
      ofRatio negative numerator denominator = .finite negative significand exponent := by
  obtain ⟨significand, exponent, small, least, above, rounded⟩ :=
    ofRatio_eq negative numerator positive
  have sizes : numerator.log2 ≤ denominator.log2 + bound := by
    by_cases zero : numerator = 0
    · rw [zero]
      exact Nat.zero_le _
    · refine Nat.le_of_lt_succ ((Nat.log2_lt zero).mpr ?_)
      calc numerator ≤ denominator * 2 ^ bound := below
        _ < 2 ^ (denominator.log2 + 1) * 2 ^ bound :=
          Nat.mul_lt_mul_of_pos_right Nat.lt_log2_self (Nat.two_pow_pos bound)
        _ = 2 ^ (denominator.log2 + bound).succ := by rw [← Nat.pow_add]; congr 1; omega
  simp only [leastExponent] at above least
  refine ⟨significand, exponent, ⟨small, least, ?_⟩, ?_, ?_⟩
  · simp only [greatestExponent]
    omega
  · omega
  · rw [rounded, if_neg]
    simp only [greatestExponent]
    omega

/-! ## Powers of ten -/

theorem magnitude_denominator_ne_zero (significand : Nat) (exponent : Int) :
    (magnitude significand exponent).2 ≠ 0 := by
  unfold magnitude
  split
  next => exact Nat.one_ne_zero
  next =>
    rw [Nat.shiftLeft_eq, Nat.one_mul]
    exact Nat.ne_of_gt (Nat.two_pow_pos _)

theorem magnitude_le {significand : Nat} {exponent : Int} (small : significand ≤ 2 ^ 54)
    (modest : exponent ≤ 40) :
    (magnitude significand exponent).1 ≤ (magnitude significand exponent).2 * 2 ^ 94 := by
  unfold magnitude
  split
  next raised =>
    have shift : 2 ^ exponent.toNat ≤ 2 ^ 40 := Nat.pow_le_pow_right (by decide) (by omega)
    calc significand <<< exponent.toNat = significand * 2 ^ exponent.toNat := Nat.shiftLeft_eq ..
      _ ≤ 2 ^ 54 * 2 ^ 40 := Nat.mul_le_mul small shift
      _ = 1 * 2 ^ 94 := by decide
  next =>
    have room : 2 ^ 54 ≤ 1 <<< (-exponent).toNat * 2 ^ 94 := by
      rw [Nat.shiftLeft_eq, Nat.one_mul]
      exact Nat.le_trans (by decide) (Nat.le_mul_of_pos_left (2 ^ 94) (Nat.two_pow_pos _))
    exact Nat.le_trans small room

/-- The number is finite and no less than a power of two. -/
def isAtLeast (bound : Nat) : Binary64 → Bool
  | .finite _ significand exponent =>
    significand != 0 &&
      decide ((magnitude significand exponent).2 * 2 ^ bound ≤ (magnitude significand exponent).1)
  | _ => false

theorem isAtLeast_powerOfTen {exponent : Nat} (within : exponent ≤ 308) :
    isAtLeast 0 (powerOfTen exponent) = true := by
  have every : ∀ exponent ∈ List.range 309, isAtLeast 0 (powerOfTen exponent) = true := by
    decide +kernel
  exact every exponent (List.mem_range.mpr (by omega))

theorem isAtLeast_powerOfTen_308 : isAtLeast 94 (powerOfTen 308) = true := by
  decide +kernel

/-! ## Products and quotients -/

def IsInRange : Binary64 → Prop
  | .finite _ significand exponent => InRange significand exponent
  | _ => False

/-- Numbers that are not too large to be divided. -/
def IsModest : Binary64 → Prop
  | .finite _ significand exponent => InRange significand exponent ∧ exponent ≤ 40
  | _ => False

theorem IsModest.isInRange {number : Binary64} (modest : number.IsModest) : number.IsInRange := by
  cases number with
  | finite => exact modest.1
  | infinite => cases modest
  | notANumber => cases modest

theorem IsInRange.negate {number : Binary64} (inRange : number.IsInRange) :
    number.negate.IsInRange := by
  cases number with
  | finite => exact inRange
  | infinite => cases inRange
  | notANumber => cases inRange

theorem isModest_ofNat {number : Nat} (bounded : number ≤ 2 ^ 64) : (ofNat number).IsModest := by
  have below : number ≤ 1 * 2 ^ 64 := by omega
  obtain ⟨significand, exponent, inRange, modest, rounded⟩ :=
    ofRatio_small false Nat.one_ne_zero below (by decide)
  rw [ofNat, rounded]
  exact ⟨inRange, Int.le_trans modest (by decide)⟩

section

variable (leftSign rightSign : Bool) (leftSignificand rightSignificand : Nat)
  (leftExponent rightExponent : Int)

theorem times_finite :
    (finite leftSign leftSignificand leftExponent).times
        (finite rightSign rightSignificand rightExponent) =
      ofRatio (leftSign != rightSign)
        ((magnitude leftSignificand leftExponent).1 *
          (magnitude rightSignificand rightExponent).1)
        ((magnitude leftSignificand leftExponent).2 *
          (magnitude rightSignificand rightExponent).2) := rfl

theorem dividedBy_finite (notZero : rightSignificand ≠ 0) :
    (finite leftSign leftSignificand leftExponent).dividedBy
        (finite rightSign rightSignificand rightExponent) =
      ofRatio (leftSign != rightSign)
        ((magnitude leftSignificand leftExponent).1 *
          (magnitude rightSignificand rightExponent).2)
        ((magnitude leftSignificand leftExponent).2 *
          (magnitude rightSignificand rightExponent).1) :=
  if_neg notZero

end

theorem times_range {left right : Binary64} (leftInRange : left.IsInRange)
    (rightFinite : isAtLeast 0 right = true) (finite : (left.times right).isInfinite = false) :
    (left.times right).IsInRange := by
  cases left with
  | infinite => cases leftInRange
  | notANumber => cases leftInRange
  | finite leftSign leftSignificand leftExponent =>
      cases right with
      | infinite => cases rightFinite
      | notANumber => cases rightFinite
      | finite rightSign rightSignificand rightExponent =>
          have positive := Nat.mul_ne_zero
            (magnitude_denominator_ne_zero leftSignificand leftExponent)
            (magnitude_denominator_ne_zero rightSignificand rightExponent)
          rw [times_finite] at finite ⊢
          rcases ofRatio_range (leftSign != rightSign) _ positive with
            tooLarge | ⟨significand, exponent, inRange, rounded⟩
          · rw [tooLarge] at finite
            cases finite
          · rw [rounded]
            exact inRange

/-- A number that is not too large is divided by a number that is not below one; the quotient is
not too large either when the divisor is large. -/
theorem dividedBy_range {number divisor : Binary64} {bound : Nat} (modest : number.IsModest)
    (atLeast : isAtLeast bound divisor = true) (within : bound ≤ 94) :
    (number.dividedBy divisor).IsInRange ∧
      (10 ≤ bound → (number.dividedBy divisor).IsModest) := by
  cases number with
  | infinite => cases modest
  | notANumber => cases modest
  | finite leftSign leftSignificand leftExponent =>
      cases divisor with
      | infinite => cases atLeast
      | notANumber => cases atLeast
      | finite rightSign rightSignificand rightExponent =>
          obtain ⟨⟨leftSmall, _, _⟩, leftModest⟩ := modest
          obtain ⟨given, large⟩ := Bool.and_eq_true_iff.mp atLeast
          have notZero : rightSignificand ≠ 0 := by simpa using given
          have atLeast := of_decide_eq_true large
          have below := magnitude_le leftSmall leftModest
          have leftPositive := magnitude_denominator_ne_zero leftSignificand leftExponent
          have rightPositive := magnitude_denominator_ne_zero rightSignificand rightExponent
          rw [dividedBy_finite _ _ _ _ _ _ notZero]
          generalize magnitude leftSignificand leftExponent = left at *
          generalize magnitude rightSignificand rightExponent = right at *
          have dividing : right.1 ≠ 0 := by
            have := Nat.mul_ne_zero rightPositive (Nat.ne_of_gt (Nat.two_pow_pos bound))
            omega
          have powers : 2 ^ 94 = 2 ^ bound * 2 ^ (94 - bound) := by
            rw [← Nat.pow_add, Nat.add_sub_cancel' within]
          have fraction : left.1 * right.2 ≤ left.2 * right.1 * 2 ^ (94 - bound) :=
            calc left.1 * right.2 ≤ left.2 * 2 ^ 94 * right.2 := Nat.mul_le_mul_right _ below
              _ = left.2 * (right.2 * 2 ^ bound) * 2 ^ (94 - bound) := by rw [powers]; ring
              _ ≤ left.2 * right.1 * 2 ^ (94 - bound) :=
                Nat.mul_le_mul_right _ (Nat.mul_le_mul_left _ atLeast)
          obtain ⟨significand, exponent, inRange, above, rounded⟩ :=
            ofRatio_small (leftSign != rightSign) (Nat.mul_ne_zero leftPositive dividing)
              fraction (by omega)
          rw [rounded]
          refine ⟨inRange, fun large => ⟨inRange, ?_⟩⟩
          omega

end Binary64

/-! ## Powers of ten and powers of two -/

theorem ten_pow_le_two_pow {exponent bits : Nat}
    (room : 10 * (exponent / 3) + 4 * (exponent % 3) ≤ bits) : 10 ^ exponent ≤ 2 ^ bits :=
  calc 10 ^ exponent = (10 ^ 3) ^ (exponent / 3) * 10 ^ (exponent % 3) := by
        rw [← Nat.pow_mul, ← Nat.pow_add, Nat.div_add_mod]
    _ ≤ (2 ^ 10) ^ (exponent / 3) * (2 ^ 4) ^ (exponent % 3) :=
      Nat.mul_le_mul (Nat.pow_le_pow_left (by decide) _) (Nat.pow_le_pow_left (by decide) _)
    _ = 2 ^ (10 * (exponent / 3) + 4 * (exponent % 3)) := by
      rw [← Nat.pow_mul, ← Nat.pow_mul, ← Nat.pow_add]
    _ ≤ 2 ^ bits := Nat.pow_le_pow_right (by decide) room

theorem two_pow_le_ten_pow {exponent bits : Nat}
    (room : bits ≤ 33 * (exponent / 10) + 3 * (exponent % 10)) : 2 ^ bits ≤ 10 ^ exponent :=
  calc 2 ^ bits ≤ 2 ^ (33 * (exponent / 10) + 3 * (exponent % 10)) :=
        Nat.pow_le_pow_right (by decide) room
    _ = (2 ^ 33) ^ (exponent / 10) * (2 ^ 3) ^ (exponent % 10) := by
      rw [← Nat.pow_mul, ← Nat.pow_mul, ← Nat.pow_add]
    _ ≤ (10 ^ 10) ^ (exponent / 10) * 10 ^ (exponent % 10) :=
      Nat.mul_le_mul (Nat.pow_le_pow_left (by decide) _) (Nat.pow_le_pow_left (by decide) _)
    _ = 10 ^ exponent := by rw [← Nat.pow_mul, ← Nat.pow_add, Nat.div_add_mod]

/-! ## The search for digits -/

namespace RoundingInterval

/-- A grid of multiples of a power of ten as a fraction. -/
def grid (exponent : Int) : Nat × Nat :=
  (if 0 ≤ exponent then tenTo exponent.toNat else 1,
    if 0 ≤ exponent then 1 else tenTo (-exponent).toNat)

theorem grid_positive (exponent : Int) : 0 < (grid exponent).1 ∧ 0 < (grid exponent).2 := by
  unfold grid tenTo
  constructor
  · dsimp only
    split
    next => exact Nat.pow_pos (by decide)
    next => exact Nat.one_pos
  · dsimp only
    split
    next => exact Nat.one_pos
    next => exact Nat.pow_pos (by decide)

/-- The number lies in its interval, and zero does not. -/
structure IsProper (interval : RoundingInterval) : Prop where
  lower : 0 < interval.lower
  number : interval.lower ≤ interval.number
  denominator : 0 < interval.denominator

variable {interval : RoundingInterval} (proper : interval.IsProper)

include proper

theorem IsProper.holds_zero {denominator : Nat} (positive : 0 < denominator) :
    interval.holds 0 denominator = false := by
  have above : ¬ interval.lower * denominator ≤ 0 * interval.denominator := by
    rw [Nat.zero_mul]
    exact Nat.not_le.mpr (Nat.mul_pos proper.lower positive)
  unfold holds
  dsimp only
  split
  next => rw [decide_eq_false above, Bool.false_and]
  next => rw [decide_eq_false fun below => above (Nat.le_of_lt below), Bool.false_and]

omit proper in
/-- A grid is searched at the two of its points that are next to the number. -/
theorem onGrid?_cases (tie : TieRule) {exponent : Int} {floor : Nat}
    (below : floor = interval.number * (grid exponent).2 /
      (interval.denominator * (grid exponent).1)) :
    interval.onGrid? tie exponent = some floor ∧
        interval.holds (floor * (grid exponent).1) (grid exponent).2 = true ∨
      interval.onGrid? tie exponent = some (floor + 1) ∧
        interval.holds ((floor + 1) * (grid exponent).1) (grid exponent).2 = true ∨
      interval.onGrid? tie exponent = none ∧
        interval.holds ((floor + 1) * (grid exponent).1) (grid exponent).2 = false := by
  unfold onGrid?
  dsimp only [grid] at below ⊢
  rw [← below]
  generalize (if 0 ≤ exponent then tenTo exponent.toNat else 1) = up
  generalize (if 0 ≤ exponent then 1 else tenTo (-exponent).toNat) = down
  generalize interval.holds (floor * up) down = lowerIn
  generalize interval.holds ((floor + 1) * up) down = upperIn
  cases lowerIn with
  | false => cases upperIn <;> simp
  | true =>
      cases upperIn with
      | false => simp
      | true =>
          -- Both points are inside, and the nearer one is taken, or one of the two by the rule.
          simp only [Bool.and_self, if_true]
          split
          next => simp
          next =>
            split
            next => simp
            next =>
              cases tie with
              | upward => simp
              | toEven => by_cases even : floor % 2 = 0 <;> simp [even]

theorem IsProper.onGrid?_ne_zero {tie : TieRule} {exponent : Int} {coefficient : Nat}
    (found : interval.onGrid? tie exponent = some coefficient) : coefficient ≠ 0 := by
  rintro rfl
  rcases onGrid?_cases tie rfl with ⟨same, within⟩ | ⟨same, _⟩ | ⟨same, _⟩
  · rw [found] at same
    rw [← Option.some.inj same, Nat.zero_mul, proper.holds_zero (grid_positive exponent).2]
      at within
    cases within
  · rw [found] at same
    cases Option.some.inj same
  · rw [found] at same
    cases same

/-- A grid that is finer than the upper part of the interval has a point there. -/
theorem IsProper.onGrid?_ne_none (tie : TieRule) {exponent : Int}
    (fine : interval.number * (grid exponent).2 + interval.denominator * (grid exponent).1 <
      interval.upper * (grid exponent).2) :
    interval.onGrid? tie exponent ≠ none := by
  intro none
  rcases onGrid?_cases tie rfl with ⟨same, _⟩ | ⟨same, _⟩ | ⟨_, outside⟩
  · rw [none] at same
    cases same
  · rw [none] at same
    cases same
  · have step := Nat.mul_pos proper.denominator (grid_positive exponent).1
    generalize grid exponent = grid at *
    have past := Nat.lt_mul_div_succ (interval.number * grid.2) step
    have near := Nat.div_mul_le_self (interval.number * grid.2) (interval.denominator * grid.1)
    generalize interval.number * grid.2 / (interval.denominator * grid.1) = floor at *
    have point : (floor + 1) * grid.1 * interval.denominator =
        floor * (interval.denominator * grid.1) + interval.denominator * grid.1 := by ring
    have above : interval.lower * grid.2 < (floor + 1) * grid.1 * interval.denominator := by
      have number := Nat.mul_le_mul_right grid.2 proper.number
      rw [Nat.mul_succ, Nat.mul_comm (interval.denominator * grid.1)] at past
      omega
    have within : (floor + 1) * grid.1 * interval.denominator < interval.upper * grid.2 := by
      omega
    unfold holds at outside
    dsimp only at outside
    split at outside
    next => simp [Nat.le_of_lt above, Nat.le_of_lt within] at outside
    next => simp [above, within] at outside

/-- The search finds digits when the last of its grids has a point in the interval. -/
theorem IsProper.search_ne_zero {tie : TieRule} {gridsLeft : Nat} {exponent : Int}
    (last : interval.onGrid? tie (exponent - gridsLeft) ≠ none) :
    (interval.search tie (gridsLeft + 1) exponent).coefficient ≠ 0 := by
  induction gridsLeft generalizing exponent with
  | zero =>
      have last : interval.onGrid? tie exponent ≠ none := by simpa using last
      obtain ⟨coefficient, found⟩ := Option.ne_none_iff_exists'.mp last
      rw [search, found]
      exact proper.onGrid?_ne_zero found
  | succ gridsLeft ih =>
      rw [search]
      cases found : interval.onGrid? tie exponent with
      | some coefficient => exact proper.onGrid?_ne_zero found
      | none =>
          apply ih
          rwa [Int.sub_sub, Int.add_comm 1]

omit proper

/-- A quarter of the last bit of a number, as a fraction. -/
def quarter (exponent : Int) : Nat × Nat :=
  (if 0 ≤ exponent then 1 <<< exponent.toNat else 1,
    if 0 ≤ exponent then 4 else 4 <<< (-exponent).toNat)

theorem quarter_positive (exponent : Int) :
    0 < (quarter exponent).1 ∧ 0 < (quarter exponent).2 := by
  unfold quarter
  split
  next =>
    rw [Nat.shiftLeft_eq, Nat.one_mul]
    exact ⟨Nat.two_pow_pos _, Nat.succ_pos 3⟩
  next =>
    rw [Nat.shiftLeft_eq]
    exact ⟨Nat.one_pos, Nat.mul_pos (by decide) (Nat.two_pow_pos _)⟩

theorem isProper_of {significand : Nat} (positive : significand ≠ 0) (exponent : Int) :
    (of significand exponent).IsProper where
  lower := by
    have below : (if significand = 1 <<< 52 ∧ Binary64.leastExponent < exponent then 1 else 2) ≤
        2 := by
      split <;> decide
    exact Nat.mul_pos (by omega) (quarter_positive exponent).1
  number := Nat.mul_le_mul_right _ (Nat.sub_le ..)
  denominator := (quarter_positive exponent).2

/-- A grid that is far below the leading digit of a number is finer than half of its last bit. -/
theorem grid_lt {exponent : Int} (place : Int) (least : Binary64.leastExponent ≤ exponent)
    (greatest : exponent ≤ Binary64.greatestExponent)
    (below : (place + 22) * 100000 ≤ (exponent + 55) * 30103) :
    (quarter exponent).2 * (grid place).1 < 2 * (quarter exponent).1 * (grid place).2 := by
  simp only [Binary64.leastExponent, Binary64.greatestExponent] at least greatest
  unfold quarter grid tenTo
  dsimp only
  by_cases raised : 0 ≤ exponent
  · obtain ⟨shift, rfl⟩ := Int.eq_ofNat_of_zero_le raised
    by_cases coarse : 0 ≤ place
    · obtain ⟨zeros, rfl⟩ := Int.eq_ofNat_of_zero_le coarse
      have grows : 10 ^ zeros ≤ 2 ^ (shift - 2) := ten_pow_le_two_pow (by omega)
      have positive := Nat.two_pow_pos (shift - 2)
      have bits : 2 ^ (shift - 2) * 2 ^ 2 = 2 ^ shift := by
        rw [← Nat.pow_add, Nat.sub_add_cancel (by omega)]
      simp only [raised, coarse, if_true, Int.toNat_natCast, Nat.shiftLeft_eq, Nat.pow_eq]
      omega
    · have many : 0 < (-place).toNat := by omega
      have bits := Nat.two_pow_pos shift
      have ten : 10 ^ 1 ≤ 10 ^ (-place).toNat := Nat.pow_le_pow_right (by decide) many
      simp only [raised, coarse, if_true, if_false, Int.toNat_natCast, Nat.shiftLeft_eq,
        Nat.pow_eq]
      calc 4 * 1 < 2 * 1 * 10 ^ 1 := by decide
        _ ≤ 2 * (1 * 2 ^ shift) * 10 ^ (-place).toNat :=
          Nat.mul_le_mul (by omega) ten
  · obtain ⟨shift, same⟩ := Int.eq_ofNat_of_zero_le (show 0 ≤ -exponent by omega)
    have fine : ¬ 0 ≤ place := by omega
    obtain ⟨places, samePlace⟩ := Int.eq_ofNat_of_zero_le (show 0 ≤ -place by omega)
    have grows : 2 ^ (shift + 2) ≤ 10 ^ places := two_pow_le_ten_pow (by omega)
    have bits := Nat.two_pow_pos shift
    rw [Nat.pow_add] at grows
    simp only [raised, fine, same, samePlace, if_false, Int.toNat_natCast, Nat.shiftLeft_eq,
      Nat.pow_eq]
    omega

end RoundingInterval

/-- Numbers that are not zero have digits that are not zero. -/
theorem shortest_ne_zero {significand : Nat} {exponent : Int}
    (inRange : Binary64.InRange significand exponent) (positive : significand ≠ 0)
    (tie : TieRule) : (shortest tie significand exponent).coefficient ≠ 0 := by
  have proper := RoundingInterval.isProper_of positive exponent
  have size : significand.log2 ≤ 54 :=
    Nat.le_of_lt_succ ((Nat.log2_lt positive).mpr (Nat.lt_of_le_of_lt inRange.significand
      (by decide)))
  apply proper.search_ne_zero
  apply proper.onGrid?_ne_none
  rw [Int.fdiv_eq_ediv_of_nonneg _ (by decide)]
  have fine := RoundingInterval.grid_lt
    ((exponent + significand.log2 + 1) * 30103 / 100000 + 1 - 23) inRange.least inRange.greatest
    (by omega)
  have upper : (RoundingInterval.of significand exponent).upper =
      (RoundingInterval.of significand exponent).number +
        2 * (RoundingInterval.quarter exponent).1 := Nat.add_mul ..
  rw [upper, Nat.add_mul]
  exact Nat.add_lt_add_left fine _

end GranuleRecall.Decimal
