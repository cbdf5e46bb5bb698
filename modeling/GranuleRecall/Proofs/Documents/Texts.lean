import GranuleRecall.Proofs.Documents.Numbers

/-! # The reader of texts follows the grammar

The pass that looks for the closing quote takes just what the grammar allows. What the text says is
then read from its pieces, and it says nothing when a surrogate is unpaired. -/

set_option autoImplicit false

namespace GranuleRecall.Json

open Decimal

/-! ## Escapes -/

theorem readHex_spelled {cursor following : Cursor} {code : Nat}
    (read : readHex cursor = .ok (code, following)) :
    ∃ first second third fourth,
      cursor.unread = first :: second :: third :: fourth :: following.unread ∧
        hexValueOfFour? first second third fourth = some code := by
  unfold readHex at read
  split at read
  next first second third fourth rest unread =>
    split at read
    next value four =>
      cases read
      refine ⟨first, second, third, fourth, ?_, four⟩
      simp only [Cursor.next, unread]
    next => cases read
  next => cases read

theorem readHex_of_hexValueOfFour? {cursor : Cursor} {first second third fourth : Char}
    {rest : List Char} {code : Nat}
    (unread : cursor.unread = first :: second :: third :: fourth :: rest)
    (four : hexValueOfFour? first second third fourth = some code) :
    ∃ following, readHex cursor = .ok (code, following) ∧ following.unread = rest := by
  refine ⟨cursor.next.next.next.next, ?_, ?_⟩
  · simp only [readHex, unread, four]
  · simp only [Cursor.next, unread]

theorem skipEscape_spelled {cursor following : Cursor}
    (skipped : skipEscape cursor = .ok following) :
    ∃ piece : Piece, piece.Spelled ('\\' :: cursor.unread) following.unread := by
  unfold skipEscape at skipped
  split at skipped
  next => cases skipped
  next mark remaining unread =>
    split at skipped
    next simple =>
      obtain ⟨meant, simple⟩ := Option.isSome_iff_exists.mp simple
      cases skipped
      rw [unread, Cursor.unread_next unread]
      exact ⟨_, .escape simple⟩
    next =>
      split at skipped
      next unit =>
        subst unit
        obtain ⟨⟨code, ending⟩, read, rfl⟩ := map_eq_ok.mp skipped
        obtain ⟨first, second, third, fourth, digits, four⟩ := readHex_spelled read
        rw [Cursor.unread_next unread] at digits
        rw [unread, digits]
        exact ⟨_, .unit four⟩
      next => cases skipped

theorem simpleEscape?_unit : simpleEscape? 'u' = none :=
  rfl

/-! ## Finding the closing quote -/

theorem Piece.Spelled.length_lt {piece : Piece} {text rest : List Char}
    (spelled : piece.Spelled text rest) : rest.length < text.length := by
  cases spelled with
  | plain _ _ _ => exact Nat.lt_succ_self _
  | escape _ => simp only [List.length_cons]; omega
  | unit _ => simp only [List.length_cons]; omega

theorem PiecesSpelled.length_lt {pieces : List Piece} {text rest : List Char}
    (spelled : PiecesSpelled pieces text rest) : rest.length < text.length := by
  induction spelled with
  | close => exact Nat.lt_succ_self _
  | more piece _ ih => exact Nat.lt_trans ih piece.length_lt

theorem skipTextWithin_spelled {fuel : Nat} {cursor ending : Cursor}
    (skipped : skipTextWithin fuel cursor = .ok ending) :
    ∃ pieces, PiecesSpelled pieces cursor.unread ending.unread := by
  induction fuel generalizing cursor with
  | zero => cases skipped
  | succ fuel ih =>
      unfold skipTextWithin at skipped
      split at skipped
      next => cases skipped
      next character remaining unread =>
        split at skipped
        next quote =>
          cases skipped
          rw [unread, Cursor.unread_next unread, quote]
          exact ⟨[], .close⟩
        next notQuote =>
          split at skipped
          next backslash =>
            obtain ⟨following, escape, skipped⟩ := bind_eq_ok.mp skipped
            obtain ⟨piece, spelled⟩ := skipEscape_spelled escape
            rw [Cursor.unread_next unread] at spelled
            obtain ⟨pieces, later⟩ := ih skipped
            rw [unread, backslash]
            exact ⟨piece :: pieces, .more spelled later⟩
          next notBackslash =>
            split at skipped
            next => cases skipped
            next notControl =>
              obtain ⟨pieces, later⟩ := ih skipped
              rw [Cursor.unread_next unread] at later
              rw [unread]
              exact ⟨_, .more (.plain notQuote notBackslash (Nat.not_lt.mp notControl)) later⟩

section

variable {fuel : Nat} {cursor : Cursor} {following : List Char} (room : 0 < fuel)

include room

/-- Passing over one piece. -/
theorem Piece.Spelled.skipTextWithin {piece : Piece}
    (spelled : piece.Spelled cursor.unread following) :
    ∃ after, Json.skipTextWithin fuel cursor = Json.skipTextWithin (fuel - 1) after ∧
      after.unread = following := by
  obtain ⟨fuel, rfl⟩ := Nat.exists_eq_succ_of_ne_zero (Nat.ne_of_gt room)
  rw [Nat.succ_sub_one]
  generalize unread : cursor.unread = text at spelled
  cases spelled with
  | plain notQuote notBackslash visible =>
      refine ⟨cursor.next, ?_, Cursor.unread_next unread⟩
      simp only [Json.skipTextWithin, unread, notQuote, notBackslash, Nat.not_lt.mpr visible,
        if_false]
  | @escape mark meant _ simple =>
      have marked := Cursor.unread_next unread
      refine ⟨cursor.next.next, ?_, Cursor.unread_next marked⟩
      have quote : ¬ '\\' = '"' := by decide
      simp only [Json.skipTextWithin, unread, quote, if_false, if_true, skipEscape, marked, simple,
        Option.isSome_some]
      rfl
  | unit four =>
      have marked := Cursor.unread_next unread
      obtain ⟨after, read, ending⟩ := readHex_of_hexValueOfFour? (Cursor.unread_next marked) four
      refine ⟨after, ?_, ending⟩
      have quote : ¬ '\\' = '"' := by decide
      simp only [Json.skipTextWithin, unread, quote, if_false, if_true, skipEscape, marked,
        simpleEscape?_unit, read, Option.isSome_none, Bool.false_eq_true]
      rfl

end

theorem PiecesSpelled.skipTextWithin {pieces : List Piece} {fuel : Nat} {cursor : Cursor}
    {rest : List Char} (spelled : PiecesSpelled pieces cursor.unread rest)
    (room : cursor.unread.length < fuel) :
    ∃ ending, Json.skipTextWithin fuel cursor = .ok ending ∧ ending.unread = rest := by
  generalize unread : cursor.unread = text at spelled
  induction spelled generalizing fuel cursor with
  | close =>
      refine ⟨cursor.next, ?_, Cursor.unread_next unread⟩
      obtain ⟨fuel, rfl⟩ := Nat.exists_eq_succ_of_ne_zero (Nat.ne_of_gt (Nat.zero_lt_of_lt room))
      simp only [Json.skipTextWithin, unread, if_true]
  | more piece _ ih =>
      rw [← unread] at piece
      obtain ⟨after, same, following⟩ := piece.skipTextWithin (Nat.zero_lt_of_lt room)
      have shorter := piece.length_lt
      rw [same]
      exact ih (by rw [following]; omega) following

/-! ## What a text says -/

def charactersRead (outcome : Except Problem (List Char × Cursor)) : Option (List Char) :=
  outcome.toOption.map Prod.fst

theorem charactersRead_cons (outcome : Except Problem (List Char × Cursor)) (first : Char) :
    charactersRead (do
      let (others, ending) ← outcome
      return (first :: others, ending)) = (charactersRead outcome).map (first :: ·) := by
  cases outcome with
  | error problem => rfl
  | ok read => rfl

section

variable {code : Nat} (later : List Piece)

theorem Piece.meaning_trailing (trailing : isTrailing code = true) :
    Piece.meaning (.unit code :: later) = none := by
  unfold Piece.meaning
  rw [if_pos trailing]

variable (notTrailing : isTrailing code = false)

include notTrailing

theorem Piece.meaning_plain (notLeading : isLeading code = false) :
    Piece.meaning (.unit code :: later) = (Piece.meaning later).map (Char.ofNat code :: ·) := by
  conv => lhs; unfold Piece.meaning
  rw [notTrailing, notLeading]
  rfl

theorem Piece.meaning_pair (leading : isLeading code = true) {second : Nat}
    (trailing : isTrailing second = true) :
    Piece.meaning (.unit code :: .unit second :: later) = (Piece.meaning later).map
      (Char.ofNat ((code - 0xD800) * 0x400 + (second - 0xDC00) + 0x10000) :: ·) := by
  conv => lhs; unfold Piece.meaning
  simp only [notTrailing, leading, trailing, Bool.false_eq_true, if_false, if_true]

theorem Piece.meaning_unpaired (leading : isLeading code = true)
    (unpaired : ∀ second remaining, later = .unit second :: remaining →
      isTrailing second = false) :
    Piece.meaning (.unit code :: later) = none := by
  conv => lhs; unfold Piece.meaning
  simp only [notTrailing, leading, Bool.false_eq_true, if_false, if_true]
  split
  next second remaining =>
    rw [unpaired second remaining rfl]
    rfl
  next => rfl

end

section

variable {cursor after : Cursor} {code : Nat} (read : readHex cursor = .ok (code, after))

include read

theorem readCodeUnits_of_isTrailing (trailing : isTrailing code = true) :
    ∃ problem, readCodeUnits cursor = .error problem := by
  have between : 0xDC00 ≤ code ∧ code ≤ 0xDFFF := by simpa [isTrailing] using trailing
  refine ⟨after.here .loneSurrogate, ?_⟩
  simp only [readCodeUnits, read, bind, Except.bind, if_pos between]
  rfl

theorem readCodeUnits_of_plain (notTrailing : isTrailing code = false)
    (notLeading : isLeading code = false) :
    readCodeUnits cursor = .ok (Char.ofNat code, after) := by
  have outside : ¬ (0xDC00 ≤ code ∧ code ≤ 0xDFFF) := by
    simpa [isTrailing] using notTrailing
  have plain : code < 0xD800 ∨ 0xDBFF < code := by
    have := notLeading
    simp only [isLeading, Bool.and_eq_false_iff, decide_eq_false_iff_not, Nat.not_le] at this
    exact this
  simp only [readCodeUnits, read, bind, Except.bind, if_neg outside, if_pos plain]
  rfl

/-- Behind a leading surrogate the second escape of a pair has to come. -/
theorem readCodeUnits_of_isLeading (notTrailing : isTrailing code = false)
    (leading : isLeading code = true) :
    readCodeUnits cursor = (do
      let digits ← expectInPair after '\\' >>= (expectInPair · 'u')
      let (second, afterPair) ← readHex digits
      if isTrailing second then
        return (Char.ofNat ((code - 0xD800) * 0x400 + (second - 0xDC00) + 0x10000), afterPair)
      else throw (afterPair.here .loneSurrogate)) := by
  have outside : ¬ (0xDC00 ≤ code ∧ code ≤ 0xDFFF) := by
    simpa [isTrailing] using notTrailing
  have surrogate : ¬ (code < 0xD800 ∨ 0xDBFF < code) := by
    have : 0xD800 ≤ code ∧ code ≤ 0xDBFF := by simpa [isLeading] using leading
    omega
  have paired (second : Nat) :
      (second < 0xDC00 ∨ 0xDFFF < second) ↔ ¬ (isTrailing second = true) := by
    simp only [isTrailing, Bool.and_eq_true, decide_eq_true_eq]
    omega
  simp only [readCodeUnits, read, bind, Except.bind, if_neg outside, if_neg surrogate, paired,
    ite_not]
  cases expectInPair after '\\' with
  | error problem => rfl
  | ok afterBackslash => rfl

end

theorem expectInPair_of_eq {cursor : Cursor} {wanted : Char} {text : List Char}
    (unread : cursor.unread = wanted :: text) : expectInPair cursor wanted = .ok cursor.next := by
  simp only [expectInPair, unread, if_true]

theorem expectInPair_of_ne {cursor : Cursor} {character : Char} {text : List Char}
    (wanted : Char) (unread : cursor.unread = character :: text) (other : character ≠ wanted) :
    ∃ problem, expectInPair cursor wanted = .error problem := by
  refine ⟨cursor.atNext .unfinishedSurrogate, ?_⟩
  simp only [expectInPair, unread, if_neg other]

/-- The escape of a unit, past the marks that an escape in a pair begins with. -/
theorem expectPair_of_unit {cursor : Cursor} {code : Nat} {following : List Char}
    (spelled : (Piece.unit code).Spelled cursor.unread following) :
    ∃ digits after, (expectInPair cursor '\\' >>= (expectInPair · 'u')) = .ok digits ∧
      readHex digits = .ok (code, after) ∧ after.unread = following := by
  generalize unread : cursor.unread = text at spelled
  cases spelled with
  | unit four =>
      have marked := Cursor.unread_next unread
      obtain ⟨after, read, ending⟩ := readHex_of_hexValueOfFour? (Cursor.unread_next marked) four
      refine ⟨cursor.next.next, after, ?_, read, ending⟩
      rw [expectInPair_of_eq unread]
      exact expectInPair_of_eq marked

def Piece.IsUnit : Piece → Prop
  | .unit _ => True
  | .character _ => False

/-- Where no escape of a unit follows, a pair cannot be completed. -/
theorem expectPair_of_no_unit {pieces : List Piece} {cursor : Cursor} {rest : List Char}
    (spelled : PiecesSpelled pieces cursor.unread rest)
    (noUnit : ∀ piece ∈ pieces.head?, ¬ piece.IsUnit) :
    ∃ problem, (expectInPair cursor '\\' >>= (expectInPair · 'u')) = .error problem := by
  generalize unread : cursor.unread = text at spelled
  cases spelled with
  | close =>
      obtain ⟨problem, failed⟩ := expectInPair_of_ne '\\' unread (by decide)
      exact ⟨problem, by rw [failed]; rfl⟩
  | more piece _ =>
      cases piece with
      | plain _ notBackslash _ =>
          obtain ⟨problem, failed⟩ := expectInPair_of_ne _ unread notBackslash
          exact ⟨problem, by rw [failed]; rfl⟩
      | escape simple =>
          rw [expectInPair_of_eq unread]
          refine expectInPair_of_ne _ (Cursor.unread_next unread) ?_
          rintro rfl
          cases simple
      | unit _ => exact absurd trivial (noUnit _ rfl)

section

variable {cursor after : Cursor} {code : Nat} (read : readHex cursor = .ok (code, after))
  (notTrailing : isTrailing code = false) (leading : isLeading code = true)

include read notTrailing leading

theorem readCodeUnits_of_pair {second : Nat} {following : List Char}
    (spelled : (Piece.unit second).Spelled after.unread following)
    (trailing : isTrailing second = true) :
    ∃ afterPair, afterPair.unread = following ∧ readCodeUnits cursor =
      .ok (Char.ofNat ((code - 0xD800) * 0x400 + (second - 0xDC00) + 0x10000), afterPair) := by
  obtain ⟨digits, afterPair, expected, readSecond, ending⟩ := expectPair_of_unit spelled
  refine ⟨afterPair, ending, ?_⟩
  rw [readCodeUnits_of_isLeading read notTrailing leading, expected]
  simp only [bind, Except.bind, readSecond, if_pos trailing, pure, Except.pure]

theorem readCodeUnits_of_unpaired {pieces : List Piece} {rest : List Char}
    (spelled : PiecesSpelled pieces after.unread rest)
    (unpaired : ∀ second remaining, pieces = .unit second :: remaining →
      isTrailing second = false) :
    ∃ problem, readCodeUnits cursor = .error problem := by
  rw [readCodeUnits_of_isLeading read notTrailing leading]
  by_cases escaped : ∃ second remaining, pieces = .unit second :: remaining
  · obtain ⟨second, remaining, rfl⟩ := escaped
    cases spelled with
    | more piece _ =>
        obtain ⟨digits, afterPair, expected, readSecond, _⟩ := expectPair_of_unit piece
        refine ⟨afterPair.here .loneSurrogate, ?_⟩
        rw [expected]
        simp only [bind, Except.bind, readSecond, unpaired second remaining rfl,
          Bool.false_eq_true, if_false]
        rfl
  · obtain ⟨problem, failed⟩ := expectPair_of_no_unit spelled (by
      intro piece begins isUnit
      obtain ⟨remaining, rfl⟩ := List.head?_eq_some_iff.mp begins
      cases piece with
      | character _ => exact isUnit
      | unit second => exact escaped ⟨second, remaining, rfl⟩)
    exact ⟨problem, by rw [failed]; rfl⟩

end

section

variable (fuel : Nat) {cursor : Cursor} {following : List Char}

theorem readTextWithin_of_character {meant : Char}
    (spelled : (Piece.character meant).Spelled cursor.unread following) :
    ∃ after, after.unread = following ∧
      readTextWithin (fuel + 1) cursor = (do
        let (others, ending) ← readTextWithin fuel after
        return (meant :: others, ending)) := by
  generalize unread : cursor.unread = text at spelled
  cases spelled with
  | plain notQuote notBackslash visible =>
      refine ⟨cursor.next, Cursor.unread_next unread, ?_⟩
      simp only [readTextWithin, unread, notQuote, notBackslash, Nat.not_lt.mpr visible, if_false]
  | escape simple =>
      have marked := Cursor.unread_next unread
      refine ⟨cursor.next.next, Cursor.unread_next marked, ?_⟩
      have quote : ¬ '\\' = '"' := by decide
      simp only [readTextWithin, unread, quote, if_false, if_true, readEscape, marked, simple]
      rfl

theorem readTextWithin_of_unit {code : Nat}
    (spelled : (Piece.unit code).Spelled cursor.unread following) :
    ∃ digits after, readHex digits = .ok (code, after) ∧ after.unread = following ∧
      readTextWithin (fuel + 1) cursor = (do
        let (meant, following) ← readCodeUnits digits
        let (others, ending) ← readTextWithin fuel following
        return (meant :: others, ending)) := by
  generalize unread : cursor.unread = text at spelled
  cases spelled with
  | unit four =>
      have marked := Cursor.unread_next unread
      obtain ⟨after, read, ending⟩ := readHex_of_hexValueOfFour? (Cursor.unread_next marked) four
      refine ⟨cursor.next.next, after, read, ending, ?_⟩
      have quote : ¬ '\\' = '"' := by decide
      simp only [readTextWithin, unread, quote, if_false, if_true, readEscape, marked,
        simpleEscape?_unit]

end

/-- The reader of a text that is wanted gives the meaning of its pieces. -/
theorem PiecesSpelled.charactersRead {pieces : List Piece} {fuel : Nat} {cursor : Cursor}
    {rest : List Char} (spelled : PiecesSpelled pieces cursor.unread rest)
    (room : cursor.unread.length < fuel) :
    Json.charactersRead (readTextWithin fuel cursor) = Piece.meaning pieces := by
  induction pieces using Piece.meaning.induct generalizing fuel cursor with
  | case1 =>
      generalize unread : cursor.unread = text at spelled
      cases spelled with
      | close =>
          obtain ⟨fuel, rfl⟩ :=
            Nat.exists_eq_succ_of_ne_zero (Nat.ne_of_gt (Nat.zero_lt_of_lt room))
          simp only [readTextWithin, unread, if_true]
          rfl
  | case2 meant later ih =>
      obtain ⟨fuel, rfl⟩ := Nat.exists_eq_succ_of_ne_zero (Nat.ne_of_gt (Nat.zero_lt_of_lt room))
      cases spelled with
      | @more _ _ _ following _ piece later =>
          obtain ⟨after, rfl, read⟩ := readTextWithin_of_character fuel piece
          have shorter := piece.length_lt
          rw [read, charactersRead_cons, ih later (by omega), Piece.meaning]
  | case3 code later trailing =>
      obtain ⟨fuel, rfl⟩ := Nat.exists_eq_succ_of_ne_zero (Nat.ne_of_gt (Nat.zero_lt_of_lt room))
      cases spelled with
      | more piece _ =>
          obtain ⟨digits, after, hex, rfl, read⟩ := readTextWithin_of_unit fuel piece
          obtain ⟨problem, failed⟩ := readCodeUnits_of_isTrailing hex trailing
          rw [read, failed, Piece.meaning_trailing later trailing]
          rfl
  | case4 code notTrailing leading second later trailing ih =>
      obtain ⟨fuel, rfl⟩ := Nat.exists_eq_succ_of_ne_zero (Nat.ne_of_gt (Nat.zero_lt_of_lt room))
      have notTrailing := Bool.eq_false_iff.mpr notTrailing
      cases spelled with
      | more piece others =>
          obtain ⟨digits, after, hex, rfl, read⟩ := readTextWithin_of_unit fuel piece
          have shorter := piece.length_lt
          cases others with
          | more secondPiece others =>
              have shorterStill := secondPiece.length_lt
              obtain ⟨afterPair, rfl, paired⟩ :=
                readCodeUnits_of_pair hex notTrailing leading secondPiece trailing
              rw [read, paired, Piece.meaning_pair later notTrailing leading trailing]
              refine (charactersRead_cons _ _).trans ?_
              rw [ih others (by omega)]
  | case5 code notTrailing leading second later notPaired =>
      obtain ⟨fuel, rfl⟩ := Nat.exists_eq_succ_of_ne_zero (Nat.ne_of_gt (Nat.zero_lt_of_lt room))
      have notTrailing := Bool.eq_false_iff.mpr notTrailing
      have unpaired : ∀ next remaining, Piece.unit second :: later = .unit next :: remaining →
          isTrailing next = false := by
        intro next remaining same
        cases same
        exact Bool.eq_false_iff.mpr notPaired
      cases spelled with
      | more piece others =>
          obtain ⟨digits, after, hex, rfl, read⟩ := readTextWithin_of_unit fuel piece
          obtain ⟨problem, failed⟩ :=
            readCodeUnits_of_unpaired hex notTrailing leading others unpaired
          rw [read, failed, Piece.meaning_unpaired _ notTrailing leading unpaired]
          rfl
  | case6 code later notTrailing leading noUnit =>
      obtain ⟨fuel, rfl⟩ := Nat.exists_eq_succ_of_ne_zero (Nat.ne_of_gt (Nat.zero_lt_of_lt room))
      have notTrailing := Bool.eq_false_iff.mpr notTrailing
      have unpaired : ∀ next remaining, later = .unit next :: remaining →
          isTrailing next = false :=
        fun next remaining same => (noUnit next remaining same).elim
      cases spelled with
      | more piece others =>
          obtain ⟨digits, after, hex, rfl, read⟩ := readTextWithin_of_unit fuel piece
          obtain ⟨problem, failed⟩ :=
            readCodeUnits_of_unpaired hex notTrailing leading others unpaired
          rw [read, failed, Piece.meaning_unpaired _ notTrailing leading unpaired]
          rfl
  | case7 code later notTrailing notLeading ih =>
      obtain ⟨fuel, rfl⟩ := Nat.exists_eq_succ_of_ne_zero (Nat.ne_of_gt (Nat.zero_lt_of_lt room))
      have notTrailing := Bool.eq_false_iff.mpr notTrailing
      have notLeading := Bool.eq_false_iff.mpr notLeading
      cases spelled with
      | more piece others =>
          obtain ⟨digits, after, hex, rfl, read⟩ := readTextWithin_of_unit fuel piece
          have shorter := piece.length_lt
          rw [read, readCodeUnits_of_plain hex notTrailing notLeading,
            Piece.meaning_plain later notTrailing notLeading]
          refine (charactersRead_cons _ _).trans ?_
          rw [ih others (by omega)]

/-! ## Scanned texts -/

theorem toOption_map {ε α β : Type} (outcome : Except ε α) (change : α → β) :
    (outcome.map change).toOption = outcome.toOption.map change := by
  cases outcome with
  | error problem => rfl
  | ok value => rfl

theorem PiecesSpelled.content {pieces : List Piece} {cursor : Cursor} {rest : List Char}
    (spelled : PiecesSpelled pieces cursor.unread rest) :
    ((readText cursor).map Prod.fst).toOption = (Piece.meaning pieces).map String.ofList := by
  rw [← spelled.charactersRead (Nat.lt_succ_self _)]
  simp only [readText, Json.charactersRead, toOption_map, Option.map_map]
  rfl

theorem scanText_spelled {cursor : Cursor} {scanned : ScannedText}
    (ok : scanText cursor = .ok scanned) :
    TextSpelled scanned.content.toOption cursor.unread scanned.ending.unread := by
  unfold scanText at ok
  split at ok
  next ending skipped =>
    cases ok
    obtain ⟨pieces, spelled⟩ := skipTextWithin_spelled skipped
    exact ⟨pieces, spelled, spelled.content⟩
  next => split at ok <;> cases ok

theorem TextSpelled.scanText {content : Option String} {cursor : Cursor} {rest : List Char}
    (spelled : TextSpelled content cursor.unread rest) :
    ∃ scanned, Json.scanText cursor = .ok scanned ∧ scanned.content.toOption = content ∧
      scanned.ending.unread = rest := by
  obtain ⟨pieces, spelled, rfl⟩ := spelled
  obtain ⟨ending, skipped, unread⟩ := spelled.skipTextWithin (Nat.lt_succ_self _)
  refine ⟨⟨(readText cursor).map Prod.fst, ending⟩, ?_, spelled.content, unread⟩
  simp only [Json.scanText, skipText, skipped]

theorem TextSpelled.length_lt {content : Option String} {text rest : List Char}
    (spelled : TextSpelled content text rest) : rest.length < text.length := by
  obtain ⟨_, spelled, _⟩ := spelled
  exact spelled.length_lt

end GranuleRecall.Json
