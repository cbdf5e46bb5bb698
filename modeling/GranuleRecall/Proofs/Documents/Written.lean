import GranuleRecall.Proofs.Documents.Layout

/-! # The layout of what is written

The layout of a written form of a document comes to the end of it and shows the document. So what a
text is read as can be told from its document, without its layout. -/

set_option autoImplicit false

namespace GranuleRecall.Json

open Decimal

variable {fuel : Nat}

/-! ## The length of what is written -/

theorem NameSpelled.length_lt {name : Option String} {text rest : List Char}
    (spelled : NameSpelled name text rest) : rest.length < text.length := by
  cases spelled with
  | quoted before content after =>
      have := before.length_le
      have := content.length_lt
      have := after.length_le
      simp only [List.length_cons] at *
      omega

mutual

theorem Document.Spelled.length_lt {document : Document} {text rest : List Char}
    (spelled : document.Spelled text rest) : rest.length < text.length := by
  cases spelled with
  | nullWord => simp only [List.length_cons]; omega
  | trueWord => simp only [List.length_cons]; omega
  | falseWord => simp only [List.length_cons]; omega
  | number literal => exact literal.length_lt
  | text content => exact Nat.lt_succ_of_lt content.length_lt
  | emptyArray blanks => exact Nat.lt_succ_of_lt (Nat.lt_of_succ_le blanks.length_le)
  | array elements => exact Nat.lt_succ_of_lt elements.length_lt
  | emptyObject blanks => exact Nat.lt_succ_of_lt (Nat.lt_of_succ_le blanks.length_le)
  | object members => exact Nat.lt_succ_of_lt members.length_lt

theorem ElementsSpelled.length_lt {elements : List Document} {text rest : List Char}
    (spelled : ElementsSpelled elements text rest) : rest.length < text.length := by
  cases spelled with
  | last before element after =>
      have := before.length_le
      have := element.length_lt
      have := after.length_le
      simp only [List.length_cons] at *
      omega
  | more before element after others =>
      have := before.length_le
      have := element.length_lt
      have := after.length_le
      have := others.length_lt
      simp only [List.length_cons] at *
      omega

theorem MembersSpelled.length_lt {members : List (Option String × Document)}
    {text rest : List Char} (spelled : MembersSpelled members text rest) :
    rest.length < text.length := by
  cases spelled with
  | last name before value after =>
      have := name.length_lt
      have := before.length_le
      have := value.length_lt
      have := after.length_le
      simp only [List.length_cons] at *
      omega
  | more name before value after others =>
      have := name.length_lt
      have := before.length_le
      have := value.length_lt
      have := after.length_le
      have := others.length_lt
      simp only [List.length_cons] at *
      omega

end

/-! ## The layout of what is written -/

theorem Blanks.unread_skipBlanks {cursor : Cursor} {begun : List Char}
    (blanks : Blanks cursor.unread begun) (begins : BeginsOutside isBlank begun) :
    cursor.skipBlanks.unread = begun :=
  blanks.unread_skipBlanksFrom begins cursor.position

theorem Blanks.unread_skipBlanks_cons {cursor : Cursor} {character : Char} {rest : List Char}
    (blanks : Blanks cursor.unread (character :: rest)) (notBlank : isBlank character = false) :
    cursor.skipBlanks.unread = character :: rest :=
  blanks.unread_skipBlanks (beginsOutside_cons notBlank rest)

/-- A number does not go on where blanks and then another character follow. -/
theorem Blanks.beginsOutside_continuesNumber {text rest : List Char} (blanks : Blanks text rest)
    (ends : BeginsOutside continuesNumber rest) : BeginsOutside continuesNumber text := by
  cases blanks with
  | none => exact ends
  | more blank _ =>
      refine beginsOutside_cons ?_ _
      have kinds := blank
      simp only [isBlank, Bool.or_eq_true, beq_iff_eq] at kinds
      rcases kinds with ((rfl | rfl) | rfl) | rfl
      · rfl
      · rfl
      · rfl
      · rfl

/-- A number begins with a sign or a digit, which no other value does. -/
theorem NumberLiteral.Spelled.exists_first {literal : NumberLiteral} {text rest : List Char}
    (spelled : literal.Spelled text rest) :
    ∃ character remaining, text = character :: remaining ∧
      (character = '-' ∨ isDigit character = true) := by
  cases spelled with
  | positive _ unsigned =>
      obtain ⟨character, remaining, begins, digit⟩ := unsigned.exists_digit
      exact ⟨character, remaining, begins, .inr digit⟩
  | negative _ _ => exact ⟨'-', _, rfl, .inl rfl⟩

theorem isBlank_eq_false_of_beginsNumber {character : Char}
    (begins : character = '-' ∨ isDigit character = true) :
    isBlank character = false ∧ character ≠ ']' := by
  have notOther (other : Char) (wrong : ¬ (other = '-' ∨ isDigit other = true)) :
      (character == other) = false := by
    rw [beq_eq_false_iff_ne]
    rintro rfl
    exact wrong begins
  refine ⟨?_, ?_⟩
  · rw [isBlank, notOther ' ' (by decide), notOther '\n' (by decide), notOther '\t' (by decide),
      notOther '\r' (by decide)]
    rfl
  · rintro rfl
    revert begins
    decide

theorem Document.Spelled.exists_first {document : Document} {text rest : List Char}
    (spelled : document.Spelled text rest) :
    ∃ character remaining, text = character :: remaining ∧ isBlank character = false ∧
      character ≠ ']' := by
  cases spelled with
  | nullWord => exact ⟨'n', _, rfl, rfl, by decide⟩
  | trueWord => exact ⟨'t', _, rfl, rfl, by decide⟩
  | falseWord => exact ⟨'f', _, rfl, rfl, by decide⟩
  | number literal =>
      obtain ⟨character, remaining, begins, first⟩ := literal.exists_first
      exact ⟨character, remaining, begins, isBlank_eq_false_of_beginsNumber first⟩
  | text _ => exact ⟨'"', _, rfl, rfl, by decide⟩
  | emptyArray _ => exact ⟨'[', _, rfl, rfl, by decide⟩
  | array _ => exact ⟨'[', _, rfl, rfl, by decide⟩
  | emptyObject _ => exact ⟨'\x7b', _, rfl, rfl, by decide⟩
  | object _ => exact ⟨'\x7b', _, rfl, rfl, by decide⟩

theorem layValue_number {start following : Cursor} {character : Char} {text : List Char}
    {literal : NumberLiteral} (unread : start.skipBlanks.unread = character :: text)
    (first : character = '-' ∨ isDigit character = true)
    (scan : scanNumber start.skipBlanks = .ok (literal, following)) :
    layValue (fuel + 1) start =
      (.number (literal.valueAt following.position) following.position, .ok following) := by
  have notOther (other : Char) (wrong : ¬ (other = '-' ∨ isDigit other = true)) :
      ¬ character = other := by
    rintro rfl
    exact wrong first
  rw [layValue_of_unread _ unread, if_neg (notOther 'n' (by decide)),
    if_neg (notOther 't' (by decide)), if_neg (notOther 'f' (by decide)),
    if_neg (notOther '"' (by decide)), if_pos first, layNumber, scan]

/-- The layout of a member comes down to the layout of its value past the colon. -/
theorem NameSpelled.layMembers {name : Option String} {cursor : Cursor} {rest : List Char}
    (spelled : NameSpelled name cursor.unread rest) (first : Bool) (fuel : Nat) :
    ∃ (read : Except Problem String) (named : Position) (afterColon : Cursor),
      Json.layMembers (fuel + 1) first cursor =
        layMembersFrom fuel read named (Json.layValue fuel afterColon) ∧
      read.toOption = name ∧ afterColon.unread = rest := by
  cases spelled with
  | quoted before content after =>
      have unread := before.unread_skipBlanks_cons rfl
      rw [← Cursor.unread_next unread] at content
      obtain ⟨scanned, scan, said, rfl⟩ := content.scanText
      have colon := after.unread_skipBlanks_cons rfl
      refine ⟨scanned.content, namedPlace scanned.ending.skipBlanks,
        scanned.ending.skipBlanks.next, ?_, said, Cursor.unread_next colon⟩
      rw [layMembers_of_name unread scan]
      simp only [layNamed, colon]

mutual

theorem Document.Spelled.layValue {document : Document} {text rest : List Char}
    (spelled : document.Spelled text rest) (fuel : Nat) (cursor : Cursor)
    (blanks : Blanks cursor.unread text) (ends : BeginsOutside continuesNumber rest)
    (room : 2 * cursor.unread.length ≤ fuel + 2 * rest.length) :
    ∃ tree following, Json.layValue fuel cursor = (tree, .ok following) ∧
      following.unread = rest ∧ tree.Shows document := by
  have longer := blanks.length_le
  have shorter := spelled.length_lt
  obtain ⟨fuel, rfl⟩ := Nat.exists_eq_succ_of_ne_zero (show fuel ≠ 0 by omega)
  obtain ⟨character, remaining, rfl, notBlank, _⟩ := spelled.exists_first
  have unread := blanks.unread_skipBlanks_cons notBlank
  have next := Cursor.unread_next unread
  have laidOut := layValue_of_unread fuel unread
  cases spelled with
  | nullWord =>
      obtain ⟨following, laid, ending⟩ := layWord_of_append ['u', 'l', 'l'] .null next
      exact ⟨_, following, laidOut.trans laid, ending, .null⟩
  | trueWord =>
      obtain ⟨following, laid, ending⟩ :=
        layWord_of_append ['r', 'u', 'e'] (.bool true) next
      exact ⟨_, following, laidOut.trans laid, ending, .bool⟩
  | falseWord =>
      obtain ⟨following, laid, ending⟩ :=
        layWord_of_append ['a', 'l', 's', 'e'] (.bool false) next
      exact ⟨_, following, laidOut.trans laid, ending, .bool⟩
  | number literal =>
      obtain ⟨_, _, begins, first⟩ := literal.exists_first
      cases begins
      rw [← unread] at literal
      obtain ⟨following, scan, ending⟩ := literal.scanNumber ends
      exact ⟨_, following, layValue_number unread first scan, ending,
        .number (NumberLiteral.toOption_valueAt _ _)⟩
  | text content =>
      rw [← next] at content
      obtain ⟨scanned, scan, said, ending⟩ := content.scanText
      refine ⟨.text scanned.content scanned.ending.position, scanned.ending, laidOut.trans ?_,
        ending, .text said⟩
      simp only [Char.reduceEq, if_false, if_true, layQuoted, scan]
  | emptyArray inside =>
      rw [← next] at inside
      have ended := inside.unread_skipBlanks_cons rfl
      obtain ⟨fuel, rfl⟩ := Nat.exists_eq_succ_of_ne_zero (show fuel ≠ 0 by
        simp only [List.length_cons] at *
        omega)
      exact ⟨_, _, laidOut.trans (by rw [layItems_of_end ended]; rfl),
        Cursor.unread_next ended, .array .close⟩
  | array elements =>
      obtain ⟨items, following, laid, ending, shown⟩ :=
        elements.layItems fuel next (by
          rw [next]
          simp only [List.length_cons] at *
          omega) true
      exact ⟨_, following, laidOut.trans (by rw [laid]; rfl), ending, .array shown⟩
  | emptyObject inside =>
      rw [← next] at inside
      have ended := inside.unread_skipBlanks_cons rfl
      obtain ⟨fuel, rfl⟩ := Nat.exists_eq_succ_of_ne_zero (show fuel ≠ 0 by
        simp only [List.length_cons] at *
        omega)
      exact ⟨_, _, laidOut.trans (by rw [layMembers_of_end ended]; rfl),
        Cursor.unread_next ended, .object .close⟩
  | object members =>
      obtain ⟨shownMembers, following, laid, ending, shown⟩ :=
        members.layMembers fuel next (by
          rw [next]
          simp only [List.length_cons] at *
          omega) true
      exact ⟨_, following, laidOut.trans (by rw [laid]; rfl), ending, .object shown⟩

theorem ElementsSpelled.layItems {elements : List Document} {text rest : List Char}
    (spelled : ElementsSpelled elements text rest) (fuel : Nat) {cursor : Cursor}
    (unread : cursor.unread = text)
    (room : 2 * cursor.unread.length ≤ fuel + 2 * rest.length) (first : Bool) :
    ∃ items following, Json.layItems fuel first cursor = (items, .ok following) ∧
      following.unread = rest ∧ items.Shows elements := by
  have shorter := spelled.length_lt
  rw [← unread] at spelled shorter
  obtain ⟨fuel, rfl⟩ := Nat.exists_eq_succ_of_ne_zero (show fuel ≠ 0 by omega)
  cases spelled with
  | last before element after =>
      have beforeLength := before.length_le
      have afterLength := after.length_le
      obtain ⟨character, remaining, rfl, notBlank, notEnd⟩ := element.exists_first
      have begun := before.unread_skipBlanks_cons notBlank
      obtain ⟨value, ended, laid, ending, shown⟩ := element.layValue fuel
        cursor.skipBlanks (begun ▸ .none)
        (after.beginsOutside_continuesNumber (beginsOutside_cons rfl _)) (by
          rw [begun]
          simp only [List.length_cons] at *
          omega)
      rw [← ending] at after
      have close := after.unread_skipBlanks_cons rfl
      refine ⟨.item cursor.skipBlanks.seen value (.close ended.skipBlanks.next.position),
        ended.skipBlanks.next, ?_, Cursor.unread_next close, .item shown .close⟩
      rw [layItems_of_value begun notEnd, laid]
      simp only [layItemsFrom, close]
  | more before element after others =>
      have beforeLength := before.length_le
      have elementLength := element.length_lt
      have afterLength := after.length_le
      have othersLength := others.length_lt
      obtain ⟨character, remaining, rfl, notBlank, notEnd⟩ := element.exists_first
      have begun := before.unread_skipBlanks_cons notBlank
      obtain ⟨value, ended, laid, ending, shown⟩ := element.layValue fuel
        cursor.skipBlanks (begun ▸ .none)
        (after.beginsOutside_continuesNumber (beginsOutside_cons rfl _)) (by
          rw [begun]
          simp only [List.length_cons] at *
          omega)
      rw [← ending] at after
      have comma := after.unread_skipBlanks_cons rfl
      have next := Cursor.unread_next comma
      obtain ⟨items, following, laidOthers, ending, shownOthers⟩ :=
        others.layItems fuel next (by
          rw [next]
          simp only [List.length_cons] at *
          omega) false
      refine ⟨.item cursor.skipBlanks.seen value items, following, ?_, ending,
        .item shown shownOthers⟩
      rw [layItems_of_value begun notEnd, laid]
      simp only [layItemsFrom, comma, laidOthers]

theorem MembersSpelled.layMembers {members : List (Option String × Document)}
    {text rest : List Char} (spelled : MembersSpelled members text rest) (fuel : Nat)
    {cursor : Cursor} (unread : cursor.unread = text)
    (room : 2 * cursor.unread.length ≤ fuel + 2 * rest.length) (first : Bool) :
    ∃ shown following, Json.layMembers fuel first cursor = (shown, .ok following) ∧
      following.unread = rest ∧ shown.Shows members := by
  have shorter := spelled.length_lt
  rw [← unread] at spelled shorter
  obtain ⟨fuel, rfl⟩ := Nat.exists_eq_succ_of_ne_zero (show fuel ≠ 0 by omega)
  cases spelled with
  | last named before value after =>
      have namedLength := named.length_lt
      have beforeLength := before.length_le
      have afterLength := after.length_le
      obtain ⟨read, place, afterColon, laidOut, said, begun⟩ := named.layMembers first fuel
      obtain ⟨shown, ended, laid, ending, shows⟩ := value.layValue fuel
        afterColon (begun ▸ before)
        (after.beginsOutside_continuesNumber (beginsOutside_cons rfl _)) (by
          rw [begun]
          simp only [List.length_cons] at *
          omega)
      rw [← ending] at after
      have close := after.unread_skipBlanks_cons rfl
      refine ⟨.member read place shown (.close ended.skipBlanks.next.position),
        ended.skipBlanks.next, ?_, Cursor.unread_next close, .member said shows .close⟩
      rw [laidOut, laid]
      simp only [layMembersFrom, close]
  | more named before value after others =>
      have namedLength := named.length_lt
      have beforeLength := before.length_le
      have valueLength := value.length_lt
      have afterLength := after.length_le
      have othersLength := others.length_lt
      obtain ⟨read, place, afterColon, laidOut, said, begun⟩ := named.layMembers first fuel
      obtain ⟨shown, ended, laid, ending, shows⟩ := value.layValue fuel
        afterColon (begun ▸ before)
        (after.beginsOutside_continuesNumber (beginsOutside_cons rfl _)) (by
          rw [begun]
          simp only [List.length_cons] at *
          omega)
      rw [← ending] at after
      have comma := after.unread_skipBlanks_cons rfl
      have next := Cursor.unread_next comma
      obtain ⟨shownOthers, following, laidOthers, ending, showsOthers⟩ :=
        others.layMembers fuel next (by
          rw [next]
          simp only [List.length_cons] at *
          omega) false
      refine ⟨.member read place shown shownOthers, following, ?_, ending,
        .member said shows showsOthers⟩
      rw [laidOut, laid]
      simp only [layMembersFrom, comma, laidOthers]

end

/-! ## Whole texts -/

theorem Layout.of_eq (text : String) :
    Layout.of text = ⟨(layValue (2 * text.toList.length + 2) (.start text)).1,
      (layValue (2 * text.toList.length + 2) (.start text)).2⟩ :=
  rfl

variable {α : Type} {text : String}

theorem Document.IsWrittenAs.layout {document : Document} (written : document.IsWrittenAs text)
    (decode : Decoder α) :
    (Layout.of text).tree.Shows document ∧
      decodeDocument decode text = decode nestingBound (Layout.of text).tree := by
  obtain ⟨begun, ended, before, spelled, after⟩ := written
  have ends : BeginsOutside continuesNumber ended :=
    after.beginsOutside_continuesNumber (beginsOutside_nil _)
  obtain ⟨tree, following, laid, ending, shown⟩ :=
    spelled.layValue (2 * text.toList.length + 2) (.start text) before ends
      (by simp only [Cursor.start]; omega)
  have layout : Layout.of text = ⟨tree, .ok following⟩ := by rw [Layout.of_eq, laid]
  rw [← ending] at after
  refine ⟨layout ▸ shown, ?_⟩
  rw [decodeDocument, layout]
  dsimp only
  rw [after.unread_skipBlanks (beginsOutside_nil _)]
  cases decode nestingBound tree with
  | error problem => rfl
  | ok value => rfl

/-- A text that is read without a problem is a written form of a document. -/
theorem isWrittenAs_of_decodeDocument {decode : Decoder α} {value : α}
    (read : decodeDocument decode text = .ok value) :
    ∃ document : Document, document.IsWrittenAs text := by
  obtain ⟨value', _, read⟩ := bind_eq_ok.mp read
  dsimp only at read
  split at read
  next => cases read
  next following laid =>
    split at read
    next ended =>
      rw [Layout.of_eq] at laid
      obtain ⟨document, begun, before, spelled, _⟩ := (layoutShows _).value _ laid
      refine ⟨document, begun, following.unread, before, spelled, ?_⟩
      have after := following.blanks_skipBlanks
      rw [List.isEmpty_iff.mp ended] at after
      exact after
    next => cases read

end GranuleRecall.Json
