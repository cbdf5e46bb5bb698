import Mathlib.Tactic.SplitIfs
import GranuleRecall.Json.Decode
import GranuleRecall.Proofs.Documents.Texts

/-! # Trees show documents

A layout that comes to its end shows a document, and the text before that end is a written form of
it. -/

set_option autoImplicit false

namespace GranuleRecall.Json

open Decimal

mutual

/-- The tree has the data of the document, with the places of an unbroken layout. -/
inductive Tree.Shows : Tree → Document → Prop
  | null {ending : Position} : Tree.Shows (.null ending) .null
  | bool {value : Bool} {ending : Position} : Tree.Shows (.bool value ending) (.bool value)
  | number {value : Except Problem Number} {literal : NumberLiteral} {ending : Position} :
      value.toOption = literal.value.toOption →
      Tree.Shows (.number value ending) (.number literal)
  | text {value : Except Problem String} {content : Option String} {ending : Position} :
      value.toOption = content → Tree.Shows (.text value ending) (.text content)
  | array {opening : Position} {items : Items} {elements : List Document} :
      Items.Shows items elements → Tree.Shows (.array opening items) (.array elements)
  | object {opening : Position} {shown : Members} {members : List (Option String × Document)} :
      Members.Shows shown members → Tree.Shows (.object opening shown) (.object members)

inductive Items.Shows : Items → List Document → Prop
  | close {ending : Position} : Items.Shows (.close ending) []
  | item {seen : Position} {value : Tree} {remaining : Items} {element : Document}
      {elements : List Document} :
      Tree.Shows value element → Items.Shows remaining elements →
      Items.Shows (.item seen value remaining) (element :: elements)

inductive Members.Shows : Members → List (Option String × Document) → Prop
  | close {ending : Position} : Members.Shows (.close ending) []
  | member {read : Except Problem String} {name : Option String} {named : Position}
      {shown : Tree} {value : Document} {remaining : Members}
      {members : List (Option String × Document)} :
      read.toOption = name → Tree.Shows shown value → Members.Shows remaining members →
      Members.Shows (.member read named shown remaining) ((name, value) :: members)

end

theorem NumberLiteral.toOption_valueAt (literal : NumberLiteral) (ending : Position) :
    (literal.valueAt ending).toOption = literal.value.toOption := by
  unfold valueAt
  cases literal.value with
  | error unread => rfl
  | ok value => rfl

/-! ## Words -/

theorem scanWord_spelled {word : List Char} {cursor following : Cursor}
    (scanned : scanWord word cursor = .ok following) :
    cursor.unread = word ++ following.unread := by
  induction word generalizing cursor with
  | nil =>
      cases scanned
      rfl
  | cons wanted others ih =>
      unfold scanWord at scanned
      split at scanned
      next => cases scanned
      next character remaining unread =>
        split at scanned
        next same =>
          have later := ih scanned
          rw [Cursor.unread_next unread] at later
          rw [unread, same, later]
          rfl
        next => cases scanned

theorem scanWord_of_append {word rest : List Char} {cursor : Cursor}
    (unread : cursor.unread = word ++ rest) :
    ∃ following, scanWord word cursor = .ok following ∧ following.unread = rest := by
  induction word generalizing cursor with
  | nil => exact ⟨cursor, rfl, unread⟩
  | cons wanted others ih =>
      rw [List.cons_append] at unread
      obtain ⟨following, scanned, ending⟩ := ih (Cursor.unread_next unread)
      refine ⟨following, ?_, ending⟩
      simp only [scanWord, unread, if_true, scanned]

theorem layWord_spelled {others : List Char} {tree : Position → Tree} {cursor following : Cursor}
    (laid : (layWord others tree cursor).2 = .ok following) :
    cursor.next.unread = others ++ following.unread ∧
      (layWord others tree cursor).1 = tree following.position := by
  unfold layWord at laid ⊢
  split at laid
  next ending scanned =>
    cases laid
    exact ⟨scanWord_spelled scanned, rfl⟩
  next => cases laid

theorem layWord_of_append (others : List Char) {rest : List Char} {cursor : Cursor}
    (tree : Position → Tree) (unread : cursor.next.unread = others ++ rest) :
    ∃ following, layWord others tree cursor = (tree following.position, .ok following) ∧
      following.unread = rest := by
  obtain ⟨following, scanned, ending⟩ := scanWord_of_append unread
  refine ⟨following, ?_, ending⟩
  simp only [layWord, scanned]

/-! ## What a layout shows -/

/-- Elements and the closing bracket; none of them where none has come yet. -/
def ItemsSpelled (first : Bool) (elements : List Document) (text rest : List Char) : Prop :=
  ElementsSpelled elements text rest ∨ first = true ∧ elements = [] ∧ Blanks text (']' :: rest)

/-- Members and the closing brace; none of them where none has come yet. -/
def EntriesSpelled (first : Bool) (members : List (Option String × Document))
    (text rest : List Char) : Prop :=
  MembersSpelled members text rest ∨ first = true ∧ members = [] ∧ Blanks text ('\x7d' :: rest)

theorem ItemsSpelled.array {elements : List Document} {text rest : List Char}
    (spelled : ItemsSpelled true elements text rest) :
    (Document.array elements).Spelled ('[' :: text) rest := by
  rcases spelled with spelled | ⟨_, rfl, blanks⟩
  · exact .array spelled
  · exact .emptyArray blanks

theorem EntriesSpelled.object {members : List (Option String × Document)} {text rest : List Char}
    (spelled : EntriesSpelled true members text rest) :
    (Document.object members).Spelled ('\x7b' :: text) rest := by
  rcases spelled with spelled | ⟨_, rfl, blanks⟩
  · exact .object spelled
  · exact .emptyObject blanks

/-- The layouts of a fuel show documents. -/
structure LayoutShows (fuel : Nat) : Prop where
  value : ∀ (cursor : Cursor) {following : Cursor}, (layValue fuel cursor).2 = .ok following →
    ∃ document begun, Blanks cursor.unread begun ∧ document.Spelled begun following.unread ∧
      (layValue fuel cursor).1.Shows document
  items : ∀ {first : Bool} {cursor following : Cursor},
    (layItems fuel first cursor).2 = .ok following →
    ∃ elements, ItemsSpelled first elements cursor.unread following.unread ∧
      (layItems fuel first cursor).1.Shows elements
  members : ∀ {first : Bool} {cursor following : Cursor},
    (layMembers fuel first cursor).2 = .ok following →
    ∃ members, EntriesSpelled first members cursor.unread following.unread ∧
      (layMembers fuel first cursor).1.Shows members

variable {fuel : Nat}

def layQuoted (opening : Cursor) : Tree × Except Break Cursor :=
  match scanText opening.next with
  | .ok scanned => (.text scanned.content scanned.ending.position, .ok scanned.ending)
  | .error stop => layBroken stop

def layNumber (cursor : Cursor) : Tree × Except Break Cursor :=
  match scanNumber cursor with
  | .ok (literal, following) =>
    (.number (literal.valueAt following.position) following.position, .ok following)
  | .error stop => layBroken stop

theorem layValue_of_unread (fuel : Nat) {start : Cursor} {character : Char} {text : List Char}
    (unread : start.skipBlanks.unread = character :: text) :
    layValue (fuel + 1) start =
      if character = 'n' then layWord ['u', 'l', 'l'] .null start.skipBlanks
      else if character = 't' then layWord ['r', 'u', 'e'] (.bool true) start.skipBlanks
      else if character = 'f' then layWord ['a', 'l', 's', 'e'] (.bool false) start.skipBlanks
      else if character = '"' then layQuoted start.skipBlanks
      else if character = '-' ∨ isDigit character = true then layNumber start.skipBlanks
      else if character = '[' then
        (.array start.skipBlanks.position (layItems fuel true start.skipBlanks.next).1,
          (layItems fuel true start.skipBlanks.next).2)
      else if character = '\x7b' then
        (.object start.skipBlanks.position (layMembers fuel true start.skipBlanks.next).1,
          (layMembers fuel true start.skipBlanks.next).2)
      else layBroken (.always (start.skipBlanks.atNext .expectedValue)) := by
  have atDigit : start.skipBlanks.atDigit = isDigit character := by
    rw [Cursor.atDigit, unread]
    rfl
  rw [layValue]
  simp only [unread, atDigit]
  rfl

theorem LayoutShows.layValue (shows : LayoutShows fuel) {cursor following : Cursor}
    (laid : (layValue (fuel + 1) cursor).2 = .ok following) :
    ∃ document begun, Blanks cursor.unread begun ∧ document.Spelled begun following.unread ∧
      (Json.layValue (fuel + 1) cursor).1.Shows document := by
  suffices shown : ∃ document : Document,
      document.Spelled cursor.skipBlanks.unread following.unread ∧
        (Json.layValue (fuel + 1) cursor).1.Shows document by
    obtain ⟨document, spelled, shows⟩ := shown
    exact ⟨document, _, cursor.blanks_skipBlanks, spelled, shows⟩
  cases unread : cursor.skipBlanks.unread with
  | nil =>
      simp only [Json.layValue, unread] at laid
      cases laid
  | cons character text =>
      rw [layValue_of_unread _ unread] at laid ⊢
      split_ifs at laid ⊢ with isNull isTrue isFalse isText isNumber isArray isObject
      · obtain ⟨others, tree⟩ := layWord_spelled laid
        rw [Cursor.unread_next unread] at others
        rw [tree, isNull, others]
        exact ⟨.null, .nullWord, .null⟩
      · obtain ⟨others, tree⟩ := layWord_spelled laid
        rw [Cursor.unread_next unread] at others
        rw [tree, isTrue, others]
        exact ⟨.bool true, .trueWord, .bool⟩
      · obtain ⟨others, tree⟩ := layWord_spelled laid
        rw [Cursor.unread_next unread] at others
        rw [tree, isFalse, others]
        exact ⟨.bool false, .falseWord, .bool⟩
      · unfold layQuoted at laid ⊢
        split at laid
        next scanned ok =>
          cases laid
          have spelled := scanText_spelled ok
          rw [Cursor.unread_next unread] at spelled
          rw [isText]
          exact ⟨.text scanned.content.toOption, .text spelled, .text rfl⟩
        next => cases laid
      · unfold layNumber at laid ⊢
        split at laid
        next literal ending ok =>
          cases laid
          have spelled := scanNumber_spelled ok
          rw [unread] at spelled
          exact ⟨.number literal, .number spelled, .number (literal.toOption_valueAt _)⟩
        next => cases laid
      · obtain ⟨elements, spelled, shown⟩ := shows.items laid
        rw [Cursor.unread_next unread] at spelled
        rw [isArray]
        exact ⟨.array elements, spelled.array, .array shown⟩
      · obtain ⟨members, spelled, shown⟩ := shows.members laid
        rw [Cursor.unread_next unread] at spelled
        rw [isObject]
        exact ⟨.object members, spelled.object, .object shown⟩
      · cases laid

/-- The items from one on that has been laid out. -/
def layItemsFrom (fuel : Nat) (seen : Position) (laid : Tree × Except Break Cursor) :
    Items × Except Break Cursor :=
  match laid.2 with
  | .error stop => (.item seen laid.1 (.broken stop), .error stop)
  | .ok following =>
    let ending := following.skipBlanks
    match ending.unread with
    | [] =>
      let stop := Break.always (ending.here .endInArray)
      (.item seen laid.1 (.broken stop), .error stop)
    | ']' :: _ => (.item seen laid.1 (.close ending.next.position), .ok ending.next)
    | ',' :: _ =>
      let (remaining, outcome) := layItems fuel false ending.next
      (.item seen laid.1 remaining, outcome)
    | _ :: _ =>
      let stop := Break.always (ending.atNext .expectedArrayEnd)
      (.item seen laid.1 (.broken stop), .error stop)

theorem layItems_of_value {first : Bool} {start : Cursor} {character : Char} {text : List Char}
    (unread : start.skipBlanks.unread = character :: text) (notEnd : character ≠ ']') :
    layItems (fuel + 1) first start =
      layItemsFrom fuel start.skipBlanks.seen (layValue fuel start.skipBlanks) := by
  rw [layItems]
  dsimp only
  split
  next none =>
    rw [unread] at none
    cases none
  next ended =>
    rw [unread] at ended
    exact absurd (List.cons.inj ended).1 notEnd
  next => rfl

theorem layItems_of_end {start : Cursor} {text : List Char}
    (unread : start.skipBlanks.unread = ']' :: text) {first : Bool} :
    layItems (fuel + 1) first start =
      if first then (.close start.skipBlanks.next.position, .ok start.skipBlanks.next)
      else
        let stop : Break := ⟨start.skipBlanks.atNext .commaBeforeEnd,
          start.skipBlanks.atNext .expectedValue⟩
        (.broken stop, .error stop) := by
  rw [layItems]
  simp only [unread]

/-- The value of a member, past the blanks before the colon. -/
def layNamed (fuel : Nat) (afterName : Cursor) : Tree × Except Break Cursor :=
  match afterName.unread with
  | [] => layBroken (.always (afterName.here .endInObject))
  | ':' :: _ => layValue fuel afterName.next
  | _ :: _ => layBroken (.always (afterName.atNext .expectedColon))

/-- The members from one on whose value has been laid out. -/
def layMembersFrom (fuel : Nat) (name : Except Problem String) (named : Position)
    (laid : Tree × Except Break Cursor) : Members × Except Break Cursor :=
  match laid.2 with
  | .error stop => (.member name named laid.1 (.broken stop), .error stop)
  | .ok following =>
    let ending := following.skipBlanks
    match ending.unread with
    | [] =>
      let stop := Break.always (ending.here .endInObject)
      (.member name named laid.1 (.broken stop), .error stop)
    | '\x7d' :: _ => (.member name named laid.1 (.close ending.next.position), .ok ending.next)
    | ',' :: _ =>
      let (remaining, outcome) := layMembers fuel false ending.next
      (.member name named laid.1 remaining, outcome)
    | _ :: _ =>
      let stop := Break.always (ending.atNext .expectedObjectEnd)
      (.member name named laid.1 (.broken stop), .error stop)

theorem layMembers_of_name {first : Bool} {start : Cursor} {text : List Char}
    {scanned : ScannedText} (unread : start.skipBlanks.unread = '"' :: text)
    (scan : scanText start.skipBlanks.next = .ok scanned) :
    layMembers (fuel + 1) first start =
      layMembersFrom fuel scanned.content (namedPlace scanned.ending.skipBlanks)
        (layNamed fuel scanned.ending.skipBlanks) := by
  rw [layMembers]
  simp only [unread, scan]
  rfl

theorem layMembers_of_end {start : Cursor} {text : List Char}
    (unread : start.skipBlanks.unread = '\x7d' :: text) {first : Bool} :
    layMembers (fuel + 1) first start =
      if first then (.close start.skipBlanks.next.position, .ok start.skipBlanks.next)
      else
        let stop : Break := ⟨start.skipBlanks.atNext .commaBeforeEnd,
          start.skipBlanks.atNext .nameNotText⟩
        (.broken stop, .error stop) := by
  rw [layMembers]
  simp only [unread]

theorem LayoutShows.layItems (shows : LayoutShows fuel) {first : Bool} {cursor following : Cursor}
    (laid : (layItems (fuel + 1) first cursor).2 = .ok following) :
    ∃ elements, ItemsSpelled first elements cursor.unread following.unread ∧
      (Json.layItems (fuel + 1) first cursor).1.Shows elements := by
  have blanks := cursor.blanks_skipBlanks
  cases unread : cursor.skipBlanks.unread with
  | nil =>
      simp only [Json.layItems, unread] at laid
      cases laid
  | cons character text =>
      by_cases isEnd : character = ']'
      · subst isEnd
        rw [layItems_of_end unread] at laid ⊢
        split at laid
        next isFirst =>
          cases laid
          rw [unread] at blanks
          rw [if_pos isFirst, Cursor.unread_next unread]
          exact ⟨[], .inr ⟨isFirst, rfl, blanks⟩, .close⟩
        next => cases laid
      · rw [layItems_of_value unread isEnd] at laid ⊢
        cases outcome : (Json.layValue fuel cursor.skipBlanks).2 with
        | error stop =>
            simp only [layItemsFrom, outcome] at laid
            cases laid
        | ok ended =>
            obtain ⟨element, begun, begins, spelled, shown⟩ := shows.value _ outcome
            have before := blanks.trans begins
            have after := ended.blanks_skipBlanks
            simp only [layItemsFrom, outcome] at laid ⊢
            split at laid
            next => cases laid
            next rest unread =>
              cases laid
              rw [unread] at after
              rw [Cursor.unread_next unread]
              exact ⟨[element], .inl (.last before spelled after), .item shown .close⟩
            next rest unread =>
              obtain ⟨elements, others, shownOthers⟩ := shows.items laid
              rw [unread] at after
              rw [Cursor.unread_next unread] at others
              rcases others with others | ⟨isFirst, _⟩
              · exact ⟨element :: elements, .inl (.more before spelled after others),
                  .item shown shownOthers⟩
              · cases isFirst
            next => cases laid

theorem LayoutShows.layNamed (shows : LayoutShows fuel) {afterName following : Cursor}
    (laid : (layNamed fuel afterName).2 = .ok following) :
    ∃ text value begun, afterName.unread = ':' :: text ∧ Blanks text begun ∧
      Document.Spelled value begun following.unread ∧
        (Json.layNamed fuel afterName).1.Shows value := by
  unfold Json.layNamed at laid ⊢
  split at laid
  next => cases laid
  next text unread =>
    obtain ⟨value, begun, blanks, spelled, shown⟩ := shows.value _ laid
    rw [Cursor.unread_next unread] at blanks
    exact ⟨text, value, begun, unread, blanks, spelled, shown⟩
  next => cases laid

theorem LayoutShows.layMembers (shows : LayoutShows fuel) {first : Bool}
    {cursor following : Cursor} (laid : (layMembers (fuel + 1) first cursor).2 = .ok following) :
    ∃ members, EntriesSpelled first members cursor.unread following.unread ∧
      (Json.layMembers (fuel + 1) first cursor).1.Shows members := by
  have blanks := cursor.blanks_skipBlanks
  cases unread : cursor.skipBlanks.unread with
  | nil =>
      simp only [Json.layMembers, unread] at laid
      cases laid
  | cons character text =>
      rw [unread] at blanks
      by_cases isName : character = '"'
      · subst isName
        cases scan : scanText cursor.skipBlanks.next with
        | error stop =>
            simp only [Json.layMembers, unread, scan] at laid
            cases laid
        | ok scanned =>
            have spelledName := scanText_spelled scan
            rw [Cursor.unread_next unread] at spelledName
            rw [layMembers_of_name unread scan] at laid ⊢
            cases outcome : (Json.layNamed fuel scanned.ending.skipBlanks).2 with
            | error stop =>
                simp only [layMembersFrom, outcome] at laid
                cases laid
            | ok ended =>
                obtain ⟨afterColon, value, begun, colon, beforeValue, spelled, shown⟩ :=
                  shows.layNamed outcome
                have beforeColon := scanned.ending.blanks_skipBlanks
                rw [colon] at beforeColon
                have name : NameSpelled scanned.content.toOption cursor.unread afterColon :=
                  .quoted blanks spelledName beforeColon
                have after := ended.blanks_skipBlanks
                simp only [layMembersFrom, outcome] at laid ⊢
                split at laid
                next => cases laid
                next rest unread =>
                  cases laid
                  rw [unread] at after
                  rw [Cursor.unread_next unread]
                  exact ⟨[(_, value)], .inl (.last name beforeValue spelled after),
                    .member rfl shown .close⟩
                next rest unread =>
                  obtain ⟨members, others, shownOthers⟩ := shows.members laid
                  rw [unread] at after
                  rw [Cursor.unread_next unread] at others
                  rcases others with others | ⟨isFirst, _⟩
                  · exact ⟨(_, value) :: members,
                      .inl (.more name beforeValue spelled after others),
                      .member rfl shown shownOthers⟩
                  · cases isFirst
                next => cases laid
      by_cases isEnd : character = '\x7d'
      · subst isEnd
        rw [layMembers_of_end unread] at laid ⊢
        split at laid
        next isFirst =>
          cases laid
          rw [if_pos isFirst, Cursor.unread_next unread]
          exact ⟨[], .inr ⟨isFirst, rfl, blanks⟩, .close⟩
        next => cases laid
      · simp only [Json.layMembers, unread] at laid
        cases laid

theorem layoutShows (fuel : Nat) : LayoutShows fuel := by
  induction fuel with
  | zero =>
      refine ⟨?_, ?_, ?_⟩
      · intro cursor following laid
        cases laid
      · intro first cursor following laid
        cases laid
      · intro first cursor following laid
        cases laid
  | succ fuel ih => exact ⟨fun _ _ laid => ih.layValue laid, ih.layItems, ih.layMembers⟩

end GranuleRecall.Json
