import GranuleRecall.Decimal.Literal
import GranuleRecall.Proofs.Documents.Numbers
import GranuleRecall.Proofs.WrittenForm.Digits

/-! # Numerals

The texts that are read as integers within bounds: one digit or more, zeros in front allowed, after
a sign that may be missing. A text that is none has a first character at which that shows, or with
which the number leaves its bounds, and this character decides what is said about the text. -/

set_option autoImplicit false

namespace GranuleRecall.Decimal

/-- The value of the digits of a text after digits with the value `magnitude`. -/
def valueAfter (magnitude : Nat) (text : List Char) : Nat :=
  (text.filterMap digitValue?).foldl (fun number value => number * 10 + value) magnitude

structure IsNumeral (text : List Char) (number : Nat) : Prop where
  written : text ≠ []
  digits : ∀ character ∈ text, isDigit character = true
  value : ofDigitValues (text.filterMap digitValue?) = number

inductive IsNatural : List Char → Nat → Prop
  | bare {text : List Char} {number : Nat} : IsNumeral text number → IsNatural text number
  | plus {text : List Char} {number : Nat} : IsNumeral text number → IsNatural ('+' :: text) number

inductive IsInteger : List Char → Int → Prop
  | natural {text : List Char} {number : Nat} : IsNatural text number → IsInteger text number
  | minus {text : List Char} {number : Nat} :
      IsNumeral text number → IsInteger ('-' :: text) (-number)

/-- Where digits go wrong that should tell a number up to a bound. What stands in front of the
character is nothing, or digits of such a number; it is no digit, or takes the number too far. -/
inductive DigitsFault (bound : Nat) (exceeded : IntegerFault) : List Char → IntegerFault → Prop
  | noDigit {before after : List Char} {character : Char}
      (digits : ∀ earlier ∈ before, isDigit earlier = true) (within : valueAfter 0 before ≤ bound)
      (other : isDigit character = false) :
      DigitsFault bound exceeded (before ++ character :: after) .invalidDigit
  | tooFar {before after : List Char} {character : Char}
      (digits : ∀ earlier ∈ before ++ [character], isDigit earlier = true)
      (within : valueAfter 0 before ≤ bound)
      (beyond : bound < valueAfter 0 (before ++ [character])) :
      DigitsFault bound exceeded (before ++ character :: after) exceeded

inductive NaturalFault (bound : Nat) : List Char → IntegerFault → Prop
  | empty : NaturalFault bound [] .empty
  | bare {text : List Char} {fault : IntegerFault} (noPlus : text.head? ≠ some '+')
      (digits : DigitsFault bound .tooLarge text fault) : NaturalFault bound text fault
  | plusAlone : NaturalFault bound ['+'] .invalidDigit
  | plus {text : List Char} {fault : IntegerFault} (more : text ≠ [])
      (digits : DigitsFault bound .tooLarge text fault) : NaturalFault bound ('+' :: text) fault

/-- As for natural numbers. Below zero there is room for one number more. -/
inductive SignedFault (bound : Nat) : List Char → IntegerFault → Prop
  | natural {text : List Char} {fault : IntegerFault} (noMinus : text.head? ≠ some '-')
      (natural : NaturalFault bound text fault) : SignedFault bound text fault
  | minusAlone : SignedFault bound ['-'] .invalidDigit
  | minus {text : List Char} {fault : IntegerFault} (more : text ≠ [])
      (digits : DigitsFault (bound + 1) .tooSmall text fault) :
      SignedFault bound ('-' :: text) fault

theorem isDigit_plus : isDigit '+' = false :=
  rfl

theorem isDigit_minus : isDigit '-' = false :=
  rfl

theorem isDigit_eq_true_iff {character : Char} :
    isDigit character = true ↔ ∃ value, digitValue? character = some value :=
  Option.isSome_iff_exists

theorem IsNumeral.not_cons_of_noDigit {character : Char} {text : List Char} {number : Nat}
    (other : isDigit character = false) : ¬IsNumeral (character :: text) number := by
  intro numeral
  have digit := numeral.digits character List.mem_cons_self
  rw [other] at digit
  cases digit

/-! ## Digits up to a bound -/

theorem valueAfter_cons {character : Char} {value : Nat}
    (digit : digitValue? character = some value) (magnitude : Nat) (text : List Char) :
    valueAfter magnitude (character :: text) = valueAfter (magnitude * 10 + value) text := by
  rw [valueAfter, List.filterMap_cons_some digit]
  rfl

theorem le_valueAfter (magnitude : Nat) (text : List Char) :
    magnitude ≤ valueAfter magnitude text := by
  unfold valueAfter
  induction text.filterMap digitValue? generalizing magnitude with
  | nil => exact Nat.le_refl magnitude
  | cons value values ih => exact Nat.le_trans (by omega) (ih (magnitude * 10 + value))

theorem readMagnitude_eq_ok_iff {bound magnitude number : Nat} {exceeded : IntegerFault}
    (start : magnitude ≤ bound) (text : List Char) :
    readMagnitude bound exceeded magnitude text = .ok number ↔
      (∀ character ∈ text, isDigit character = true) ∧ valueAfter magnitude text = number ∧
        number ≤ bound := by
  induction text generalizing magnitude with
  | nil =>
      have whole : valueAfter magnitude [] = magnitude := rfl
      simp only [readMagnitude, Except.ok.injEq, List.not_mem_nil, false_implies, implies_true,
        true_and, whole]
      exact ⟨fun same => ⟨same, same ▸ start⟩, And.left⟩
  | cons character text ih =>
      rw [readMagnitude]
      cases read : digitValue? character with
      | none =>
          have other : isDigit character = false := by rw [isDigit, read]; rfl
          simp [other]
      | some value =>
          have digit : isDigit character = true := isDigit_eq_true_iff.mpr ⟨value, read⟩
          rw [valueAfter_cons read]
          by_cases far : bound < magnitude * 10 + value
          · -- No digit that follows brings the number back within its bounds.
            have further := le_valueAfter (magnitude * 10 + value) text
            simp only [far, ↓reduceIte, reduceCtorEq, false_iff]
            omega
          · simp only [far, ↓reduceIte, ih (Nat.not_lt.mp far), List.forall_mem_cons, digit,
              true_and]

/-- The shape of `DigitsFault` when digits with some value were read before. -/
theorem readMagnitude_eq_error {bound magnitude : Nat} {exceeded fault : IntegerFault}
    {text : List Char} (start : magnitude ≤ bound)
    (failed : readMagnitude bound exceeded magnitude text = .error fault) :
    ∃ before character after, text = before ++ character :: after ∧
      (∀ earlier ∈ before, isDigit earlier = true) ∧ valueAfter magnitude before ≤ bound ∧
      (isDigit character = false ∧ fault = .invalidDigit ∨
        isDigit character = true ∧ bound < valueAfter magnitude (before ++ [character]) ∧
          fault = exceeded) := by
  induction text generalizing magnitude with
  | nil => cases failed
  | cons character text ih =>
      rw [readMagnitude] at failed
      cases read : digitValue? character with
      | none =>
          have other : isDigit character = false := by rw [isDigit, read]; rfl
          rw [read] at failed
          exact ⟨[], character, text, rfl, by simp, start, .inl ⟨other, by simpa using failed.symm⟩⟩
      | some value =>
          have digit : isDigit character = true := isDigit_eq_true_iff.mpr ⟨value, read⟩
          simp only [read] at failed
          split at failed
          next far =>
            refine ⟨[], character, text, rfl, by simp, start,
              .inr ⟨digit, ?_, by simpa using failed.symm⟩⟩
            rw [List.nil_append, valueAfter_cons read]
            exact far
          next near =>
            obtain ⟨before, wrong, after, split, digits, within, shows⟩ :=
              ih (Nat.not_lt.mp near) failed
            refine ⟨character :: before, wrong, after, by rw [split, List.cons_append],
              List.forall_mem_cons.mpr ⟨digit, digits⟩, ?_, ?_⟩
            · rw [valueAfter_cons read]
              exact within
            · rw [List.cons_append, valueAfter_cons read]
              exact shows

section

variable {bound number : Nat} {exceeded fault : IntegerFault} {text : List Char}

theorem readMagnitude_eq_ok_iff_isNumeral (written : text ≠ []) :
    readMagnitude bound exceeded 0 text = .ok number ↔ IsNumeral text number ∧ number ≤ bound := by
  rw [readMagnitude_eq_ok_iff (Nat.zero_le bound)]
  constructor
  · rintro ⟨digits, value, within⟩
    exact ⟨⟨written, digits, value⟩, within⟩
  · rintro ⟨numeral, within⟩
    exact ⟨numeral.digits, numeral.value, within⟩

theorem digitsFault_of_readMagnitude
    (failed : readMagnitude bound exceeded 0 text = .error fault) :
    DigitsFault bound exceeded text fault := by
  obtain ⟨before, character, after, rfl, digits, within, ⟨other, rfl⟩ | ⟨digit, beyond, rfl⟩⟩ :=
    readMagnitude_eq_error (Nat.zero_le bound) failed
  · exact .noDigit digits within other
  · refine .tooFar ?_ within beyond
    simpa [or_imp, forall_and] using ⟨digits, digit⟩

end

/-! ## Natural numbers and integers -/

section

variable {bound : Nat} {text : List Char}

theorem readNatural_plus (more : text ≠ []) :
    readNatural bound ('+' :: text) = readMagnitude bound .tooLarge 0 text := by
  cases text with
  | nil => exact absurd rfl more
  | cons character text => rfl

/-- A minus alone is read like any other character that is no digit. -/
theorem readNatural_bare (written : text ≠ []) (noPlus : text.head? ≠ some '+') :
    readNatural bound text = readMagnitude bound .tooLarge 0 text := by
  unfold readNatural
  split
  next => exact absurd rfl written
  next => exact absurd rfl noPlus
  next => rfl
  next => exact absurd rfl noPlus
  next => rfl

theorem readSigned_natural (noMinus : text.head? ≠ some '-') :
    readSigned bound text = (readNatural bound text).map Int.ofNat := by
  unfold readSigned
  split
  next => rfl
  next => rfl
  next => exact absurd rfl noMinus
  next more => rw [readNatural_plus more]
  next => exact absurd rfl noMinus
  next written _ _ noPlus _ =>
    rw [readNatural_bare written fun plus => ?_]
    obtain ⟨remaining, rfl⟩ := List.head?_eq_some_iff.mp plus
    exact noPlus remaining rfl

theorem readSigned_minus (more : text ≠ []) :
    readSigned bound ('-' :: text) =
      (readMagnitude (bound + 1) .tooSmall 0 text).map fun magnitude => -Int.ofNat magnitude := by
  cases text with
  | nil => exact absurd rfl more
  | cons character text => rfl

theorem isNatural_bare_iff {number : Nat} (noPlus : text.head? ≠ some '+') :
    IsNatural text number ↔ IsNumeral text number := by
  constructor
  · intro natural
    cases natural with
    | bare numeral => exact numeral
    | plus => exact absurd rfl noPlus
  · exact .bare

theorem isNatural_plus_iff {number : Nat} :
    IsNatural ('+' :: text) number ↔ IsNumeral text number := by
  constructor
  · intro natural
    cases natural with
    | bare numeral => exact absurd numeral (IsNumeral.not_cons_of_noDigit isDigit_plus)
    | plus numeral => exact numeral
  · exact .plus

theorem readNatural_eq_ok_iff {number : Nat} :
    readNatural bound text = .ok number ↔ IsNatural text number ∧ number ≤ bound := by
  by_cases plus : text.head? = some '+'
  · obtain ⟨unsigned, rfl⟩ := List.head?_eq_some_iff.mp plus
    rw [isNatural_plus_iff]
    by_cases alone : unsigned = []
    · subst alone
      exact ⟨nofun, fun natural => absurd rfl natural.1.written⟩
    · rw [readNatural_plus alone, readMagnitude_eq_ok_iff_isNumeral alone]
  · rw [isNatural_bare_iff plus]
    by_cases blank : text = []
    · subst blank
      exact ⟨nofun, fun natural => absurd rfl natural.1.written⟩
    · rw [readNatural_bare blank plus, readMagnitude_eq_ok_iff_isNumeral blank]

theorem naturalFault_of_readNatural {fault : IntegerFault}
    (failed : readNatural bound text = .error fault) : NaturalFault bound text fault := by
  by_cases plus : text.head? = some '+'
  · obtain ⟨unsigned, rfl⟩ := List.head?_eq_some_iff.mp plus
    by_cases alone : unsigned = []
    · subst alone
      cases failed
      exact .plusAlone
    · rw [readNatural_plus alone] at failed
      exact .plus alone (digitsFault_of_readMagnitude failed)
  · by_cases blank : text = []
    · subst blank
      cases failed
      exact .empty
    · rw [readNatural_bare blank plus] at failed
      exact .bare plus (digitsFault_of_readMagnitude failed)

theorem isInteger_iff_exists_isNatural {number : Int} (noMinus : text.head? ≠ some '-') :
    IsInteger text number ↔ ∃ natural : Nat, IsNatural text natural ∧ number = natural := by
  constructor
  · intro integer
    cases integer with
    | natural natural => exact ⟨_, natural, rfl⟩
    | minus => exact absurd rfl noMinus
  · rintro ⟨natural, read, rfl⟩
    exact .natural read

theorem isInteger_minus_iff {number : Int} :
    IsInteger ('-' :: text) number ↔
      ∃ magnitude : Nat, IsNumeral text magnitude ∧ number = -magnitude := by
  constructor
  · intro integer
    cases integer with
    | natural natural =>
        rw [isNatural_bare_iff (by simp)] at natural
        exact absurd natural (IsNumeral.not_cons_of_noDigit isDigit_minus)
    | minus numeral => exact ⟨_, numeral, rfl⟩
  · rintro ⟨magnitude, numeral, rfl⟩
    exact .minus numeral

theorem readSigned_eq_ok_iff {number : Int} :
    readSigned bound text = .ok number ↔
      IsInteger text number ∧ -(bound + 1) ≤ number ∧ number ≤ bound := by
  by_cases minus : text.head? = some '-'
  · obtain ⟨unsigned, rfl⟩ := List.head?_eq_some_iff.mp minus
    rw [isInteger_minus_iff]
    by_cases alone : unsigned = []
    · subst alone
      constructor
      · nofun
      · rintro ⟨⟨magnitude, numeral, -⟩, -⟩
        exact absurd rfl numeral.written
    · simp only [readSigned_minus alone, Json.map_eq_ok, readMagnitude_eq_ok_iff_isNumeral alone,
        Int.ofNat_eq_natCast]
      constructor
      · rintro ⟨magnitude, ⟨numeral, within⟩, rfl⟩
        exact ⟨⟨magnitude, numeral, rfl⟩, by omega, by omega⟩
      · rintro ⟨⟨magnitude, numeral, rfl⟩, within, -⟩
        exact ⟨magnitude, ⟨numeral, by omega⟩, rfl⟩
  · simp only [readSigned_natural minus, Json.map_eq_ok, readNatural_eq_ok_iff,
      isInteger_iff_exists_isNatural minus, Int.ofNat_eq_natCast]
    constructor
    · rintro ⟨natural, ⟨read, within⟩, rfl⟩
      exact ⟨⟨natural, read, rfl⟩, by omega, by omega⟩
    · rintro ⟨⟨natural, read, rfl⟩, -, within⟩
      exact ⟨natural, ⟨read, by omega⟩, rfl⟩

example : readSigned (1 <<< 31 - 1) "-2147483648".toList = .ok (-2147483648) ∧
    readSigned (1 <<< 31 - 1) "2147483648".toList = .error .tooLarge := ⟨rfl, rfl⟩

theorem signedFault_of_readSigned {fault : IntegerFault}
    (failed : readSigned bound text = .error fault) : SignedFault bound text fault := by
  by_cases minus : text.head? = some '-'
  · obtain ⟨unsigned, rfl⟩ := List.head?_eq_some_iff.mp minus
    by_cases alone : unsigned = []
    · subst alone
      cases failed
      exact .minusAlone
    · rw [readSigned_minus alone] at failed
      cases read : readMagnitude (bound + 1) .tooSmall 0 unsigned with
      | ok magnitude => simp [read, Except.map] at failed
      | error shown =>
          rw [read] at failed
          cases failed
          exact .minus alone (digitsFault_of_readMagnitude read)
  · rw [readSigned_natural minus] at failed
    cases read : readNatural bound text with
    | ok natural => simp [read, Except.map] at failed
    | error shown =>
        rw [read] at failed
        cases failed
        exact .natural minus (naturalFault_of_readNatural read)

/-! ## A text tells one number -/

theorem IsNatural.unique {number number' : Nat} (natural : IsNatural text number)
    (natural' : IsNatural text number') : number = number' := by
  have read := readNatural_eq_ok_iff.mpr ⟨natural, Nat.le_max_left number number'⟩
  have read' := readNatural_eq_ok_iff.mpr ⟨natural', Nat.le_max_right number number'⟩
  exact Except.ok.inj (read.symm.trans read')

theorem IsInteger.unique {number number' : Int} (integer : IsInteger text number)
    (integer' : IsInteger text number') : number = number' := by
  obtain ⟨bound, wide, wide'⟩ : ∃ bound, number.natAbs ≤ bound ∧ number'.natAbs ≤ bound :=
    ⟨_, Nat.le_max_left .., Nat.le_max_right ..⟩
  have read : readSigned bound text = .ok number :=
    readSigned_eq_ok_iff.mpr ⟨integer, by omega, by omega⟩
  have read' : readSigned bound text = .ok number' :=
    readSigned_eq_ok_iff.mpr ⟨integer', by omega, by omega⟩
  exact Except.ok.inj (read.symm.trans read')

end

end GranuleRecall.Decimal
