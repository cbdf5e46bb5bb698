import GranuleRecall.Proofs.Documents.Grammar
import GranuleRecall.Proofs.WrittenForm.Digits

/-! # The reader of numbers follows the grammar

Blanks, digits and number literals. Each reader takes what the grammar allows, and it takes all of
it: what follows does not go on. -/

set_option autoImplicit false

namespace GranuleRecall.Json

open Decimal

/-! ## Outcomes and cursors -/

theorem bind_eq_ok {ε α β : Type} {first : Except ε α} {later : α → Except ε β} {value : β} :
    (first >>= later) = .ok value ↔ ∃ read, first = .ok read ∧ later read = .ok value := by
  cases first with
  | error problem => simp [bind, Except.bind]
  | ok read => simp [bind, Except.bind]

theorem map_eq_ok {ε α β : Type} {first : Except ε α} {change : α → β} {value : β} :
    first.map change = .ok value ↔ ∃ read, first = .ok read ∧ change read = value := by
  cases first with
  | error problem => simp [Except.map]
  | ok read => simp [Except.map]

theorem Cursor.unread_next {cursor : Cursor} {character : Char} {text : List Char}
    (unread : cursor.unread = character :: text) : cursor.next.unread = text := by
  rw [Cursor.next, unread]

/-- The text does not begin with a character of some kind. -/
def BeginsOutside (kind : Char → Bool) (text : List Char) : Prop :=
  ∀ character ∈ text.head?, kind character = false

theorem beginsOutside_nil (kind : Char → Bool) : BeginsOutside kind [] := by
  intro character begins
  cases begins

theorem beginsOutside_cons {kind : Char → Bool} {character : Char} (other : kind character = false)
    (text : List Char) : BeginsOutside kind (character :: text) := by
  intro first begins
  cases begins
  exact other

/-! ## Blanks -/

theorem Blanks.skipBlanksFrom (text : List Char) (position : Position) :
    Blanks text (skipBlanksFrom text position).unread := by
  induction text generalizing position with
  | nil => exact .none
  | cons character remaining ih =>
      unfold Json.skipBlanksFrom
      split
      next blank => exact .more blank (ih _)
      next => exact .none

theorem Cursor.blanks_skipBlanks (cursor : Cursor) :
    Blanks cursor.unread cursor.skipBlanks.unread :=
  .skipBlanksFrom cursor.unread cursor.position

theorem Blanks.unread_skipBlanksFrom {text rest : List Char} (blanks : Blanks text rest)
    (ends : BeginsOutside isBlank rest) (position : Position) :
    (Json.skipBlanksFrom text position).unread = rest := by
  induction blanks generalizing position with
  | @none text =>
      cases text with
      | nil => rfl
      | cons character remaining =>
          have other : isBlank character = false := ends character rfl
          simp [Json.skipBlanksFrom, other]
  | more blank _ ih =>
      rw [Json.skipBlanksFrom, if_pos blank]
      exact ih ends _

theorem Blanks.length_le {text rest : List Char} (blanks : Blanks text rest) :
    rest.length ≤ text.length := by
  induction blanks with
  | none => exact Nat.le_refl _
  | more _ _ ih => exact Nat.le_succ_of_le ih

theorem Blanks.trans {text middle rest : List Char} (first : Blanks text middle)
    (later : Blanks middle rest) : Blanks text rest := by
  induction first with
  | none => exact later
  | more blank _ ih => exact .more blank (ih later)

/-! ## Digits -/

theorem spanDigits_spelled {text : List Char} {position : Position} {values : List Nat}
    {following : Cursor} (spanned : spanDigits text position = (values, following)) :
    values = [] ∧ following.unread = text ∨ DigitRun values text following.unread := by
  induction text generalizing position values following with
  | nil =>
      cases spanned
      exact .inl ⟨rfl, rfl⟩
  | cons character remaining ih =>
      rw [spanDigits] at spanned
      cases digit : digitValue? character with
      | none =>
          rw [digit] at spanned
          cases spanned
          exact .inl ⟨rfl, rfl⟩
      | some value =>
          rw [digit] at spanned
          cases spanned
          rcases ih rfl with ⟨none, unread⟩ | more
          · rw [none, unread]
            exact .inr (.last digit)
          · exact .inr (.more digit more)

theorem DigitRun.spanDigits {values : List Nat} {text rest : List Char}
    (run : DigitRun values text rest) (ends : BeginsOutside isDigit rest)
    (position : Position) :
    ∃ following, Json.spanDigits text position = (values, following) ∧ following.unread = rest := by
  induction run generalizing position with
  | @last character value rest digit =>
      rw [Json.spanDigits, digit]
      cases rest with
      | nil => exact ⟨_, rfl, rfl⟩
      | cons next remaining =>
          have other : digitValue? next = none := by
            simpa [isDigit] using ends next rfl
          refine ⟨⟨next :: remaining, position.after character⟩, ?_, rfl⟩
          simp only [Json.spanDigits, other]
  | @more character value values text rest digit _ ih =>
      obtain ⟨following, spanned, unread⟩ := ih ends (position.after character)
      refine ⟨following, ?_, unread⟩
      rw [Json.spanDigits, digit]
      simp only [spanned]

theorem DigitRun.values_ne_nil {values : List Nat} {text rest : List Char}
    (run : DigitRun values text rest) : values ≠ [] := by
  cases run with
  | last _ => exact List.cons_ne_nil _ _
  | more _ _ => exact List.cons_ne_nil _ _

theorem DigitRun.length_lt {values : List Nat} {text rest : List Char}
    (run : DigitRun values text rest) : rest.length < text.length := by
  induction run with
  | last _ => exact Nat.lt_succ_self _
  | more _ _ ih => exact Nat.lt_succ_of_lt ih

/-- A run of digits begins with a digit whose value is the first one. -/
theorem DigitRun.exists_first {value : Nat} {values : List Nat} {text rest : List Char}
    (run : DigitRun (value :: values) text rest) :
    ∃ character remaining, text = character :: remaining ∧
      digitValue? character = some value := by
  cases run with
  | last digit => exact ⟨_, _, rfl, digit⟩
  | more digit _ => exact ⟨_, _, rfl, digit⟩

/-! ## The parts of a number -/

theorem eq_zero_of_digitValue? {character : Char} (zero : digitValue? character = some 0) :
    character = '0' := by
  have code : character.toNat = '0'.toNat := by
    have bounds := zero
    simp only [digitValue?] at bounds
    split at bounds
    next between =>
      have same := Option.some.inj bounds
      have least : '0'.toNat = 48 := rfl
      omega
    next => cases bounds
  exact Char.ext (UInt32.toNat_inj.mp code)

theorem scanWhole_spelled {cursor following : Cursor} {values : List Nat}
    (scanned : scanWhole cursor = .ok (values, following)) :
    WholePart values cursor.unread following.unread := by
  unfold scanWhole at scanned
  split at scanned
  next => cases scanned
  next remaining unread =>
    split at scanned
    next => cases scanned
    next =>
      cases scanned
      simp only [Cursor.next, unread]
      exact .zero
  next character remaining other unread =>
    generalize spanned : cursor.spanDigits = span at scanned
    obtain ⟨values', following'⟩ := span
    dsimp only at scanned
    split at scanned
    next => cases scanned
    next given =>
      cases scanned
      rcases spanDigits_spelled spanned with ⟨none, _⟩ | run
      · simp [none] at given
      · cases values with
        | nil => simp at given
        | cons value values =>
            refine .digits ?_ run
            rintro rfl
            obtain ⟨first, later, begins, digit⟩ := run.exists_first
            rw [unread] at begins
            cases begins
            exact other (eq_zero_of_digitValue? digit)

theorem WholePart.scanWhole {values : List Nat} {cursor : Cursor} {rest : List Char}
    (part : WholePart values cursor.unread rest) (ends : BeginsOutside isDigit rest) :
    ∃ following, Json.scanWhole cursor = .ok (values, following) ∧ following.unread = rest := by
  generalize unread : cursor.unread = text at part
  cases part with
  | zero =>
      have next : cursor.next.unread = rest := Cursor.unread_next unread
      have noDigit : cursor.next.atDigit = false := by
        rw [Cursor.atDigit, next]
        cases rest with
        | nil => rfl
        | cons character remaining => exact ends character rfl
      refine ⟨cursor.next, ?_, next⟩
      simp only [Json.scanWhole, unread, noDigit, Bool.false_eq_true, if_false]
  | @digits value values _ _ positive run =>
      obtain ⟨character, remaining, begins, digit⟩ := run.exists_first
      obtain ⟨following, spanned, ending⟩ := run.spanDigits ends cursor.position
      have notZero : character ≠ '0' := by
        rintro rfl
        exact positive (Option.some.inj digit).symm
      refine ⟨following, ?_, ending⟩
      rw [← unread] at spanned
      rw [begins] at unread
      simp only [Json.scanWhole, unread]
      simp only [Cursor.spanDigits, spanned, List.isEmpty_cons, Bool.false_eq_true, if_false]

theorem scanFraction_spelled {cursor following : Cursor} {fraction : Option (List Nat)}
    (scanned : scanFraction cursor = .ok (fraction, following)) :
    FractionPart fraction cursor.unread following.unread := by
  unfold scanFraction at scanned
  split at scanned
  next remaining unread =>
    have next : cursor.next.unread = remaining := Cursor.unread_next unread
    generalize spanned : cursor.next.spanDigits = span at scanned
    obtain ⟨values, following'⟩ := span
    dsimp only at scanned
    split at scanned
    next => split at scanned <;> cases scanned
    next given =>
      cases scanned
      rw [unread]
      rw [Cursor.spanDigits, next] at spanned
      rcases spanDigits_spelled spanned with ⟨none, _⟩ | run
      · simp [none] at given
      · exact .places run
  next =>
    cases scanned
    exact .missing

theorem FractionPart.scanFraction {fraction : Option (List Nat)} {cursor : Cursor}
    {rest : List Char} (part : FractionPart fraction cursor.unread rest)
    (ends : BeginsOutside isDigit rest) (noPoint : BeginsOutside (· == '.') rest) :
    ∃ following, Json.scanFraction cursor = .ok (fraction, following) ∧
      following.unread = rest := by
  generalize unread : cursor.unread = text at part
  cases part with
  | missing =>
      refine ⟨cursor, ?_, unread⟩
      unfold Json.scanFraction
      split
      next remaining pointed =>
        rw [unread] at pointed
        rw [pointed] at noPoint
        cases noPoint '.' rfl
      next => rfl
  | @places values text _ run =>
      have next : cursor.next.unread = text := Cursor.unread_next unread
      obtain ⟨following, spanned, ending⟩ := run.spanDigits ends cursor.next.position
      have given : values.isEmpty = false := by
        simpa [List.isEmpty_eq_false_iff] using run.values_ne_nil
      refine ⟨following, ?_, ending⟩
      simp only [Json.scanFraction, unread, Cursor.spanDigits, next, spanned, given,
        Bool.false_eq_true, if_false]

/-- What the scan of an exponent does past the mark and the sign. -/
def scanExponentDigits (negative : Bool) (unsigned : Cursor) :
    Except Break (Option (Bool × List Nat) × Cursor) :=
  match unsigned.unread with
  | [] => .error ⟨unsigned.here .endInValue, unsigned.here .invalidNumber⟩
  | _ :: _ =>
    let (values, following) := unsigned.spanDigits
    if values.isEmpty then .error (.always (unsigned.atNext .invalidNumber))
    else .ok (some (negative, values), following)

theorem scanExponentDigits_spelled {negative : Bool} {unsigned following : Cursor}
    {exponent : Option (Bool × List Nat)}
    (scanned : scanExponentDigits negative unsigned = .ok (exponent, following)) :
    ∃ values, exponent = some (negative, values) ∧
      DigitRun values unsigned.unread following.unread := by
  unfold scanExponentDigits at scanned
  split at scanned
  next => cases scanned
  next =>
    generalize spanned : unsigned.spanDigits = span at scanned
    obtain ⟨values, following'⟩ := span
    dsimp only at scanned
    split at scanned
    next => cases scanned
    next given =>
      cases scanned
      rcases spanDigits_spelled spanned with ⟨none, _⟩ | run
      · simp [none] at given
      · exact ⟨values, rfl, run⟩

theorem DigitRun.scanExponentDigits {values : List Nat} {unsigned : Cursor} {rest : List Char}
    (run : DigitRun values unsigned.unread rest) (ends : BeginsOutside isDigit rest)
    (negative : Bool) :
    ∃ following,
      Json.scanExponentDigits negative unsigned = .ok (some (negative, values), following) ∧
        following.unread = rest := by
  obtain ⟨following, spanned, ending⟩ := run.spanDigits ends unsigned.position
  have given : values.isEmpty = false := by
    simpa [List.isEmpty_eq_false_iff] using run.values_ne_nil
  refine ⟨following, ?_, ending⟩
  cases unread : unsigned.unread with
  | nil =>
      rw [unread] at run
      cases run
  | cons character remaining =>
      rw [unread] at spanned
      simp only [Json.scanExponentDigits, unread, Cursor.spanDigits, spanned, given,
        Bool.false_eq_true, if_false]

section

variable {cursor : Cursor} {mark : Char} {text : List Char}
  (marked : isExponentMark mark = true)

include marked

theorem scanExponent_minus (unread : cursor.unread = mark :: '-' :: text) :
    scanExponent cursor = scanExponentDigits true cursor.next.next := by
  have isMark : mark = 'e' ∨ mark = 'E' := by simpa [isExponentMark] using marked
  have next : cursor.next.unread = '-' :: text := Cursor.unread_next unread
  simp only [scanExponent, unread, next, if_pos isMark]
  rfl

theorem scanExponent_plus (unread : cursor.unread = mark :: '+' :: text) :
    scanExponent cursor = scanExponentDigits false cursor.next.next := by
  have isMark : mark = 'e' ∨ mark = 'E' := by simpa [isExponentMark] using marked
  have next : cursor.next.unread = '+' :: text := Cursor.unread_next unread
  simp only [scanExponent, unread, next, if_pos isMark]
  rfl

theorem scanExponent_unsigned (unread : cursor.unread = mark :: text)
    (noSign : ∀ sign ∈ text.head?, sign ≠ '-' ∧ sign ≠ '+') :
    scanExponent cursor = scanExponentDigits false cursor.next := by
  have isMark : mark = 'e' ∨ mark = 'E' := by simpa [isExponentMark] using marked
  have next : cursor.next.unread = text := Cursor.unread_next unread
  unfold scanExponent
  split
  next first following begins =>
    rw [unread] at begins
    cases begins
    rw [if_pos isMark]
    extract_lets signed
    cases text with
    | nil =>
        simp only [signed, next, scanExponentDigits]
    | cons sign remaining =>
        obtain ⟨minus, plus⟩ := noSign sign rfl
        split
        next negative unsigned signature =>
          have noneGiven : (negative, unsigned) = (false, cursor.next) := by
            rw [← signature]
            split
            next given => exact absurd (List.cons.inj (next.symm.trans given)).1 minus
            next given => exact absurd (List.cons.inj (next.symm.trans given)).1 plus
            next => rfl
          cases noneGiven
          rfl
  next nothing =>
    rw [unread] at nothing
    cases nothing

end

theorem scanExponent_spelled {cursor following : Cursor} {exponent : Option (Bool × List Nat)}
    (scanned : scanExponent cursor = .ok (exponent, following)) :
    ExponentPart exponent cursor.unread following.unread := by
  cases unread : cursor.unread with
  | nil =>
      simp only [scanExponent, unread] at scanned
      cases scanned
      rw [unread]
      exact .missing
  | cons mark text =>
      by_cases marked : isExponentMark mark = true
      · have next : cursor.next.unread = text := Cursor.unread_next unread
        by_cases minus : ∃ unsigned, text = '-' :: unsigned
        · obtain ⟨unsigned, rfl⟩ := minus
          have after : cursor.next.next.unread = unsigned := Cursor.unread_next next
          rw [scanExponent_minus marked unread] at scanned
          obtain ⟨values, rfl, run⟩ := scanExponentDigits_spelled scanned
          rw [after] at run
          exact .minus marked run
        by_cases plus : ∃ unsigned, text = '+' :: unsigned
        · obtain ⟨unsigned, rfl⟩ := plus
          have after : cursor.next.next.unread = unsigned := Cursor.unread_next next
          rw [scanExponent_plus marked unread] at scanned
          obtain ⟨values, rfl, run⟩ := scanExponentDigits_spelled scanned
          rw [after] at run
          exact .plus marked run
        · have noSign : ∀ sign ∈ text.head?, sign ≠ '-' ∧ sign ≠ '+' := by
            intro sign begins
            obtain ⟨later, begins⟩ := List.head?_eq_some_iff.mp begins
            refine ⟨?_, ?_⟩
            · rintro rfl
              exact minus ⟨later, begins⟩
            · rintro rfl
              exact plus ⟨later, begins⟩
          rw [scanExponent_unsigned marked unread noSign] at scanned
          obtain ⟨values, rfl, run⟩ := scanExponentDigits_spelled scanned
          rw [next] at run
          exact .unsigned marked run
      · have notMark : ¬ (mark = 'e' ∨ mark = 'E') := by simpa [isExponentMark] using marked
        simp only [scanExponent, unread, if_neg notMark] at scanned
        cases scanned
        rw [unread]
        exact .missing

theorem ExponentPart.scanExponent {exponent : Option (Bool × List Nat)} {cursor : Cursor}
    {rest : List Char} (part : ExponentPart exponent cursor.unread rest)
    (ends : BeginsOutside isDigit rest) (noMark : BeginsOutside isExponentMark rest) :
    ∃ following, Json.scanExponent cursor = .ok (exponent, following) ∧
      following.unread = rest := by
  generalize unread : cursor.unread = text at part
  cases part with
  | missing =>
      refine ⟨cursor, ?_, unread⟩
      cases rest with
      | nil => simp only [Json.scanExponent, unread]
      | cons mark remaining =>
          have notMark : ¬ (mark = 'e' ∨ mark = 'E') := by
            simpa [isExponentMark] using noMark mark rfl
          simp only [Json.scanExponent, unread, if_neg notMark]
  | @unsigned mark values text _ marked run =>
      have next : cursor.next.unread = text := Cursor.unread_next unread
      have noSign : ∀ sign ∈ text.head?, sign ≠ '-' ∧ sign ≠ '+' := by
        intro sign begins
        cases values with
        | nil => exact absurd rfl run.values_ne_nil
        | cons value values =>
            obtain ⟨first, later, rfl, digit⟩ := run.exists_first
            cases begins
            refine ⟨?_, ?_⟩
            · rintro rfl
              cases digit
            · rintro rfl
              cases digit
      rw [scanExponent_unsigned marked unread noSign]
      rw [← next] at run
      exact run.scanExponentDigits ends false
  | @plus mark values text _ marked run =>
      have after : cursor.next.next.unread = text := by simp only [Cursor.next, unread]
      rw [scanExponent_plus marked unread]
      rw [← after] at run
      exact run.scanExponentDigits ends false
  | @minus mark values text _ marked run =>
      have after : cursor.next.next.unread = text := by simp only [Cursor.next, unread]
      rw [scanExponent_minus marked unread]
      rw [← after] at run
      exact run.scanExponentDigits ends true

/-! ## Whole literals -/

/-- A character that may go on a number. -/
def continuesNumber (character : Char) : Bool :=
  isDigit character || character == '.' || isExponentMark character

theorem BeginsOutside.mono {kind wider : Char → Bool} {text : List Char}
    (ends : BeginsOutside wider text)
    (among : ∀ character, kind character = true → wider character = true) :
    BeginsOutside kind text := by
  intro character begins
  cases found : kind character with
  | false => rfl
  | true => exact absurd (among character found) (by rw [ends character begins]; decide)

theorem ExponentPart.beginsOutside {exponent : Option (Bool × List Nat)} {text rest : List Char}
    (part : ExponentPart exponent text rest) {kind : Char → Bool}
    (noMark : ∀ mark, isExponentMark mark = true → kind mark = false)
    (ends : BeginsOutside kind rest) : BeginsOutside kind text := by
  cases part with
  | missing => exact ends
  | unsigned marked _ => exact beginsOutside_cons (noMark _ marked) _
  | plus marked _ => exact beginsOutside_cons (noMark _ marked) _
  | minus marked _ => exact beginsOutside_cons (noMark _ marked) _

theorem FractionPart.beginsOutside {fraction : Option (List Nat)} {text rest : List Char}
    (part : FractionPart fraction text rest) {kind : Char → Bool} (noPoint : kind '.' = false)
    (ends : BeginsOutside kind rest) : BeginsOutside kind text := by
  cases part with
  | missing => exact ends
  | places _ => exact beginsOutside_cons noPoint _

theorem isDigit_eq_false_of_isExponentMark {mark : Char} (marked : isExponentMark mark = true) :
    isDigit mark = false := by
  have either : mark = 'e' ∨ mark = 'E' := by simpa [isExponentMark] using marked
  rcases either with rfl | rfl
  · rfl
  · rfl

theorem ne_point_of_isExponentMark {mark : Char} (marked : isExponentMark mark = true) :
    (mark == '.') = false := by
  have either : mark = 'e' ∨ mark = 'E' := by simpa [isExponentMark] using marked
  rcases either with rfl | rfl
  · rfl
  · rfl

/-- What the scan of a number does past its sign. -/
def scanUnsigned (negative : Bool) (unsigned : Cursor) :
    Except Break (NumberLiteral × Cursor) := do
  let (whole, afterWhole) ← scanWhole unsigned
  let (fraction, afterFraction) ← scanFraction afterWhole
  let (exponent, following) ← scanExponent afterFraction
  return (⟨negative, whole, fraction, exponent⟩, following)

theorem scanNumber_negative {cursor : Cursor} {text : List Char}
    (unread : cursor.unread = '-' :: text) :
    scanNumber cursor = scanUnsigned true cursor.next := by
  unfold scanNumber
  split
  next negative unsigned signature =>
    rw [unread] at signature
    cases signature
    rfl

theorem scanNumber_positive {cursor : Cursor}
    (noMinus : ∀ text, cursor.unread ≠ '-' :: text) :
    scanNumber cursor = scanUnsigned false cursor := by
  unfold scanNumber
  split
  next negative unsigned signature =>
    split at signature
    next text unread => exact absurd unread (noMinus text)
    next =>
      cases signature
      rfl

theorem scanUnsigned_spelled {negative : Bool} {unsigned following : Cursor}
    {literal : NumberLiteral}
    (scanned : scanUnsigned negative unsigned = .ok (literal, following)) :
    literal.negative = negative ∧ literal.Unsigned unsigned.unread following.unread := by
  obtain ⟨⟨whole, afterWhole⟩, wholeScan, scanned⟩ := bind_eq_ok.mp scanned
  obtain ⟨⟨fraction, afterFraction⟩, fractionScan, scanned⟩ := bind_eq_ok.mp scanned
  obtain ⟨⟨exponent, ending⟩, exponentScan, scanned⟩ := bind_eq_ok.mp scanned
  cases scanned
  exact ⟨rfl, .parts (scanWhole_spelled wholeScan) (scanFraction_spelled fractionScan)
    (scanExponent_spelled exponentScan)⟩

theorem NumberLiteral.Unsigned.scanUnsigned {literal : NumberLiteral} {unsigned : Cursor}
    {rest : List Char} (spelled : literal.Unsigned unsigned.unread rest)
    (ends : BeginsOutside continuesNumber rest) :
    ∃ following, Json.scanUnsigned literal.negative unsigned = .ok (literal, following) ∧
      following.unread = rest := by
  cases spelled with
  | @parts negative whole fraction exponent _ afterWhole afterFraction _ wholePart fractionPart
      exponentPart =>
      have noDigit : BeginsOutside isDigit rest :=
        ends.mono fun _ digit => by simp [continuesNumber, digit]
      have noPoint : BeginsOutside (· == '.') rest :=
        ends.mono fun _ point => by simp [continuesNumber, beq_iff_eq.mp point]
      have noMark : BeginsOutside isExponentMark rest :=
        ends.mono fun _ mark => by simp [continuesNumber, mark]
      have noDigitAfterFraction : BeginsOutside isDigit afterFraction :=
        exponentPart.beginsOutside (fun _ => isDigit_eq_false_of_isExponentMark) noDigit
      have noPointAfterFraction : BeginsOutside (· == '.') afterFraction :=
        exponentPart.beginsOutside (fun _ => ne_point_of_isExponentMark) noPoint
      obtain ⟨wholeEnd, wholeScan, wholeUnread⟩ :=
        wholePart.scanWhole (fractionPart.beginsOutside rfl noDigitAfterFraction)
      rw [← wholeUnread] at fractionPart
      obtain ⟨fractionEnd, fractionScan, fractionUnread⟩ :=
        fractionPart.scanFraction noDigitAfterFraction noPointAfterFraction
      rw [← fractionUnread] at exponentPart
      obtain ⟨exponentEnd, exponentScan, exponentUnread⟩ :=
        exponentPart.scanExponent noDigit noMark
      refine ⟨exponentEnd, ?_, exponentUnread⟩
      exact bind_eq_ok.mpr ⟨_, wholeScan, bind_eq_ok.mpr ⟨_, fractionScan,
        bind_eq_ok.mpr ⟨_, exponentScan, rfl⟩⟩⟩

theorem scanNumber_spelled {cursor following : Cursor} {literal : NumberLiteral}
    (scanned : scanNumber cursor = .ok (literal, following)) :
    literal.Spelled cursor.unread following.unread := by
  by_cases minus : ∃ text, cursor.unread = '-' :: text
  · obtain ⟨text, unread⟩ := minus
    rw [scanNumber_negative unread] at scanned
    obtain ⟨negative, unsigned⟩ := scanUnsigned_spelled scanned
    rw [Cursor.next, unread] at unsigned
    rw [unread]
    exact .negative negative unsigned
  · rw [scanNumber_positive (not_exists.mp minus)] at scanned
    obtain ⟨positive, unsigned⟩ := scanUnsigned_spelled scanned
    exact .positive positive unsigned

/-- A number begins with a digit where it has no sign. -/
theorem NumberLiteral.Unsigned.exists_digit {literal : NumberLiteral} {text rest : List Char}
    (spelled : literal.Unsigned text rest) :
    ∃ character remaining, text = character :: remaining ∧ isDigit character = true := by
  cases spelled with
  | parts wholePart _ _ =>
      cases wholePart with
      | zero => exact ⟨'0', _, rfl, rfl⟩
      | digits _ run =>
          obtain ⟨character, remaining, begins, digit⟩ := run.exists_first
          exact ⟨character, remaining, begins, by rw [isDigit, digit]; rfl⟩

theorem NumberLiteral.Spelled.scanNumber {literal : NumberLiteral} {cursor : Cursor}
    {rest : List Char} (spelled : literal.Spelled cursor.unread rest)
    (ends : BeginsOutside continuesNumber rest) :
    ∃ following, Json.scanNumber cursor = .ok (literal, following) ∧ following.unread = rest := by
  generalize unread : cursor.unread = text at spelled
  cases spelled with
  | positive positive unsigned =>
      rw [← unread] at unsigned
      rw [scanNumber_positive, ← positive]
      · exact unsigned.scanUnsigned ends
      · intro text minus
        obtain ⟨character, remaining, begins, digit⟩ := unsigned.exists_digit
        rw [minus] at begins
        cases begins
        cases digit
  | negative negative unsigned =>
      rw [← Cursor.unread_next unread] at unsigned
      rw [scanNumber_negative unread, ← negative]
      exact unsigned.scanUnsigned ends

theorem NumberLiteral.Spelled.length_lt {literal : NumberLiteral} {text rest : List Char}
    (spelled : literal.Spelled text rest) : rest.length < text.length := by
  have wholePart {values : List Nat} {text rest : List Char} (part : WholePart values text rest) :
      rest.length < text.length := by
    cases part with
    | zero => exact Nat.lt_succ_self _
    | digits _ run => exact run.length_lt
  have fractionPart {values : Option (List Nat)} {text rest : List Char}
      (part : FractionPart values text rest) : rest.length ≤ text.length := by
    cases part with
    | missing => exact Nat.le_refl _
    | places run => exact Nat.le_succ_of_le (Nat.le_of_lt run.length_lt)
  have exponentPart {exponent : Option (Bool × List Nat)} {text rest : List Char}
      (part : ExponentPart exponent text rest) : rest.length ≤ text.length := by
    cases part with
    | missing => exact Nat.le_refl _
    | unsigned _ run => have := run.length_lt; simp only [List.length_cons]; omega
    | plus _ run => have := run.length_lt; simp only [List.length_cons]; omega
    | minus _ run => have := run.length_lt; simp only [List.length_cons]; omega
  have unsigned {text : List Char} (spelled : literal.Unsigned text rest) :
      rest.length < text.length := by
    cases spelled with
    | parts whole fraction exponent =>
        have := wholePart whole
        have := fractionPart fraction
        have := exponentPart exponent
        omega
  cases spelled with
  | positive _ spelled => exact unsigned spelled
  | negative _ spelled => exact Nat.lt_succ_of_lt (unsigned spelled)

end GranuleRecall.Json
