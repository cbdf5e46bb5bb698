import Mathlib.Tactic.IntervalCases
import GranuleRecall.Proofs.WrittenForm.Digits
import GranuleRecall.Time.Instant

/-! # Written instants can be read back

A date tells its day, and the written form of a valid instant tells the instant to the
nanosecond: years of any length, leap seconds, and fractions of any number of digits. -/

set_option autoImplicit false

namespace GranuleRecall.Time

/-! ## Dates -/

namespace Date

/-- The days from the first of January 1970 to a date. -/
def dayNumber (date : Date) : Int :=
  let year := if date.month ≤ 2 then date.year - 1 else date.year
  let era := year / 400
  let yearOfEra := year % 400
  let monthFromMarch : Int := if date.month ≤ 2 then date.month + 9 else date.month - 3
  let dayOfYear := (153 * monthFromMarch + 2) / 5 + date.day - 1
  let dayOfEra := 365 * yearOfEra + yearOfEra / 4 - yearOfEra / 100 + dayOfYear
  era * 146097 + dayOfEra - 719468

/-- The year of an era that a day of it falls into, and its day in that year. -/
theorem yearOfEra_spec {dayOfEra yearOfEra : Nat} (within : dayOfEra < 146097)
    (made : yearOfEra =
      (dayOfEra - dayOfEra / 1460 + dayOfEra / 36524 - dayOfEra / 146096) / 365) :
    yearOfEra < 400 ∧ 365 * yearOfEra + yearOfEra / 4 - yearOfEra / 100 ≤ dayOfEra ∧
      dayOfEra - (365 * yearOfEra + yearOfEra / 4 - yearOfEra / 100) ≤ 365 := by
  generalize counted : dayOfEra / 36524 = century at made
  have few : century ≤ 4 := by omega
  -- The last day of an era is the only one past four full centuries.
  have centuries : yearOfEra / 100 = century ∨ century = 4 ∧ yearOfEra = 399 := by
    interval_cases century <;> omega
  rcases centuries with same | ⟨rfl, rfl⟩
  · rw [same]
    interval_cases century <;> omega
  · omega

/-- The date of a day of some year, counted from the first of March, of an era. -/
theorem dayNumber_ofParts {era : Int} {yearOfEra dayOfYear monthFromMarch month : Nat}
    (early : yearOfEra < 400) (short : dayOfYear ≤ 365)
    (fallen : monthFromMarch = (5 * dayOfYear + 2) / 153)
    (named : month = if monthFromMarch < 10 then monthFromMarch + 3 else monthFromMarch - 9) :
    dayNumber
        ⟨if month ≤ 2 then yearOfEra + era * 400 + 1 else yearOfEra + era * 400, month,
          dayOfYear - (153 * monthFromMarch + 2) / 5 + 1⟩ =
      era * 146097 + (365 * yearOfEra + yearOfEra / 4 - yearOfEra / 100 + dayOfYear : Nat) -
        719468 := by
  unfold dayNumber
  by_cases sameYear : monthFromMarch < 10
  · rw [if_pos sameYear] at named
    have late : ¬ month ≤ 2 := by omega
    simp only [late, ↓reduceIte]
    omega
  · rw [if_neg sameYear] at named
    have first : month ≤ 2 := by omega
    simp only [first, ↓reduceIte]
    omega

theorem dayNumber_ofDays (days : Int) : (ofDays days).dayNumber = days := by
  have floor : (days + 719468).fdiv 146097 = (days + 719468) / 146097 :=
    Int.fdiv_eq_ediv_of_nonneg _ (by decide)
  have within : (days + 719468 - (days + 719468).fdiv 146097 * 146097).toNat < 146097 := by
    omega
  obtain ⟨early, started, short⟩ := yearOfEra_spec within rfl
  refine (dayNumber_ofParts early short rfl rfl).trans ?_
  omega

example : dayNumber ⟨2000, 2, 29⟩ = 11016 ∧ ofDays 11016 = ⟨2000, 2, 29⟩ := by decide

theorem eq_of_parts {date date' : Date} (sameYear : date.year = date'.year)
    (sameMonth : date.month = date'.month) (sameDay : date.day = date'.day) : date = date' := by
  cases date
  cases date'
  cases sameYear
  cases sameMonth
  cases sameDay
  rfl

theorem ofDays_inj {days days' : Int} (same : ofDays days = ofDays days') : days = days' := by
  rw [← dayNumber_ofDays days, same, dayNumber_ofDays]

end Date

namespace Instant

open Decimal

/-! ## Parts of the written form -/

def yearSign (year : Int) : Char :=
  if 0 ≤ year then '+' else '-'

theorem isDigit_yearSign (year : Int) : isDigit (yearSign year) = false := by
  unfold yearSign
  split
  · rfl
  · rfl

theorem yearSign_inj {year year' : Int} (same : yearSign year = yearSign year') :
    0 ≤ year ↔ 0 ≤ year' := by
  unfold yearSign at same
  by_cases after : 0 ≤ year
  · by_cases after' : 0 ≤ year'
    · exact iff_of_true after after'
    · simp [after, after'] at same
  · by_cases after' : 0 ≤ year'
    · simp [after, after'] at same
    · exact iff_of_false after after'

theorem yearText_eq (year : Int) :
    yearText year =
      if 0 ≤ year ∧ year ≤ 9999 then padded 4 year.toNat
      else yearSign year :: padded 4 year.natAbs := rfl

theorem yearText_append_inj {year year' : Int} {rest rest' : List Char}
    (ends : IsPastDigits rest) (ends' : IsPastDigits rest')
    (same : yearText year ++ rest = yearText year' ++ rest') :
    year = year' ∧ rest = rest' := by
  rw [yearText_eq, yearText_eq] at same
  by_cases short : 0 ≤ year ∧ year ≤ 9999
  · rw [if_pos short] at same
    by_cases short' : 0 ≤ year' ∧ year' ≤ 9999
    · rw [if_pos short'] at same
      obtain ⟨sameDigits, ended⟩ := padded_append_inj ends ends' same
      have sameNumber := padded_inj sameDigits
      exact ⟨by omega, ended⟩
    · rw [if_neg short'] at same
      exact absurd same (padded_append_ne_cons (isDigit_yearSign year') _ _ _ _)
  · rw [if_neg short] at same
    by_cases short' : 0 ≤ year' ∧ year' ≤ 9999
    · rw [if_pos short'] at same
      exact absurd same.symm (padded_append_ne_cons (isDigit_yearSign year) _ _ _ _)
    · rw [if_neg short'] at same
      obtain ⟨sameSign, sameRest⟩ := List.cons.inj same
      obtain ⟨sameDigits, ended⟩ := padded_append_inj ends ends' sameRest
      have sameNumber := padded_inj sameDigits
      have sameSide := yearSign_inj sameSign
      exact ⟨by omega, ended⟩

/-- A fraction is written in units of which a second has a power of ten. -/
theorem fractionText_of_ne_zero {nanoseconds : Nat} (some : nanoseconds ≠ 0) :
    ∃ places unit, 0 < places ∧ unit * 10 ^ places = 1000000000 ∧
      nanoseconds = unit * (nanoseconds / unit) ∧
      fractionText nanoseconds = '.' :: padded places (nanoseconds / unit) := by
  unfold fractionText
  rw [if_neg some]
  split
  next => exact ⟨3, 1000000, by decide, by decide, by omega, rfl⟩
  next =>
    split
    next => exact ⟨6, 1000, by decide, by decide, by omega, rfl⟩
    next => exact ⟨9, 1, by decide, by decide, by omega, by rw [Nat.div_one]⟩

theorem fractionText_inj {nanoseconds nanoseconds' : Nat} (small : nanoseconds < 1000000000)
    (small' : nanoseconds' < 1000000000)
    (same : fractionText nanoseconds = fractionText nanoseconds') :
    nanoseconds = nanoseconds' := by
  by_cases none : nanoseconds = 0
  · by_cases none' : nanoseconds' = 0
    · rw [none, none']
    · obtain ⟨places, unit, _, _, _, written⟩ := fractionText_of_ne_zero none'
      rw [written, none] at same
      cases same
  · obtain ⟨places, unit, positive, whole, exact, written⟩ := fractionText_of_ne_zero none
    by_cases none' : nanoseconds' = 0
    · rw [written, none'] at same
      cases same
    · obtain ⟨places', unit', positive', whole', exact', written'⟩ :=
        fractionText_of_ne_zero none'
      rw [written, written'] at same
      have sameDigits := List.tail_eq_of_cons_eq same
      have fits : nanoseconds / unit < 10 ^ places :=
        Nat.div_lt_of_lt_mul (by rw [whole]; exact small)
      have fits' : nanoseconds' / unit' < 10 ^ places' :=
        Nat.div_lt_of_lt_mul (by rw [whole']; exact small')
      have samePlaces := congrArg List.length sameDigits
      rw [length_padded positive fits, length_padded positive' fits'] at samePlaces
      subst samePlaces
      have sameUnit : unit = unit' :=
        Nat.eq_of_mul_eq_mul_right (Nat.pow_pos (by decide)) (whole.trans whole'.symm)
      rw [exact, exact', padded_inj sameDigits, sameUnit]

theorem isPastDigits_fractionText (nanoseconds : Nat) :
    IsPastDigits (fractionText nanoseconds ++ ['Z']) := by
  by_cases none : nanoseconds = 0
  · rw [none]
    exact isPastDigits_cons rfl _
  · obtain ⟨_, _, _, _, _, written⟩ := fractionText_of_ne_zero none
    rw [written]
    exact isPastDigits_cons rfl _

/-! ## Instants -/

/-- A valid instant has less than a second of nanoseconds, or less than two at the end of a
minute, where a leap second is inserted. -/
def IsValid (instant : Instant) : Prop :=
  instant.nanoseconds < 1000000000 ∨
    instant.seconds % 60 = 59 ∧ instant.nanoseconds < 2000000000

instance : DecidablePred IsValid := fun _ => inferInstanceAs (Decidable (_ ∨ _))

theorem render_inj {instant instant' : Instant} (valid : instant.IsValid)
    (valid' : instant'.IsValid) (same : instant.render = instant'.render) :
    instant = instant' := by
  have sameCharacters := String.ofList_inj.mp same
  simp only [characters, List.append_assoc, List.cons_append] at sameCharacters
  have dash (text : List Char) : IsPastDigits ('-' :: text) := isPastDigits_cons rfl text
  have middle (text : List Char) : IsPastDigits ('T' :: text) := isPastDigits_cons rfl text
  have colon (text : List Char) : IsPastDigits (':' :: text) := isPastDigits_cons rfl text
  obtain ⟨sameYear, later⟩ := yearText_append_inj (dash _) (dash _) sameCharacters
  obtain ⟨sameMonth, later⟩ := padded_append_inj (dash _) (dash _)
    (List.tail_eq_of_cons_eq later)
  obtain ⟨sameDay, later⟩ := padded_append_inj (middle _) (middle _)
    (List.tail_eq_of_cons_eq later)
  obtain ⟨sameHour, later⟩ := padded_append_inj (colon _) (colon _)
    (List.tail_eq_of_cons_eq later)
  obtain ⟨sameMinute, later⟩ := padded_append_inj (colon _) (colon _)
    (List.tail_eq_of_cons_eq later)
  obtain ⟨sameSecond, later⟩ := padded_append_inj (isPastDigits_fractionText _)
    (isPastDigits_fractionText _) (List.tail_eq_of_cons_eq later)
  have sameFraction := fractionText_inj (Nat.mod_lt _ (by decide)) (Nat.mod_lt _ (by decide))
    (List.append_cancel_right later)
  have sameDays := Date.ofDays_inj
    (Date.eq_of_parts sameYear (padded_inj sameMonth) (padded_inj sameDay))
  have hour := padded_inj sameHour
  have minute := padded_inj sameMinute
  have second := padded_inj sameSecond
  have floor (seconds : Int) : seconds.fdiv 86400 = seconds / 86400 :=
    Int.fdiv_eq_ediv_of_nonneg _ (by decide)
  rw [floor, floor] at sameDays
  rw [floor, floor] at hour minute second
  obtain ⟨seconds, nanoseconds⟩ := instant
  obtain ⟨seconds', nanoseconds'⟩ := instant'
  simp only [IsValid] at valid valid' sameDays hour minute second sameFraction ⊢
  have sameNanoseconds : nanoseconds = nanoseconds' := by omega
  have sameSeconds : seconds = seconds' := by omega
  rw [sameSeconds, sameNanoseconds]

end Instant

end GranuleRecall.Time
