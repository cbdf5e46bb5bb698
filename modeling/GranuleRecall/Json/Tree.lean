import GranuleRecall.Json.NumberLiteral
import GranuleRecall.Json.QuotedText

/-! # Texts laid out as trees

A JSON text as a tree, with the places where problems with its data are reported. The layout
never fails: where the text cannot be read on, the tree ends in a break, which holds the
problem. So whoever takes data from a tree meets all problems, those of the text and those of
the data, in the order in which they stand in the text. -/
set_option autoImplicit false

namespace GranuleRecall.Json

mutual

inductive Tree
  | null (ending : Position)
  | bool (value : Bool) (ending : Position)
  | number (value : Except Problem Number) (ending : Position)
  | text (value : Except Problem String) (ending : Position)
  | array (opening : Position) (items : Items)
  | object (opening : Position) (members : Members)
  | broken (stop : Break)

inductive Items
  | close (ending : Position)
  | item (seen : Position) (value : Tree) (remaining : Items)
  | broken (stop : Break)

inductive Members
  | close (ending : Position)
  | member (name : Except Problem String) (named : Position) (value : Tree) (remaining : Members)
  | broken (stop : Break)

end

instance : Inhabited Tree := ⟨.broken (.always ⟨.endInValue, {}⟩)⟩

def scanWord : List Char → Cursor → Except Problem Cursor
  | [], cursor => .ok cursor
  | wanted :: others, cursor =>
    match cursor.unread with
    | [] => .error (cursor.here .endInValue)
    | character :: _ =>
      if character = wanted then scanWord others cursor.next
      else .error (cursor.atNext .expectedWord)

def layWord (others : List Char) (tree : Position → Tree) (cursor : Cursor) :
    Tree × Except Break Cursor :=
  match scanWord others cursor.next with
  | .ok following => (tree following.position, .ok following)
  | .error problem => (.broken (.always problem), .error (.always problem))

def layBroken (stop : Break) : Tree × Except Break Cursor :=
  (.broken stop, .error stop)

/-- A place where an objection to a member's name is reported: past blanks, and past a brace that
comes in place of the value. -/
def namedPlace (cursor : Cursor) : Position :=
  match cursor.unread with
  | '\x7d' :: _ => cursor.next.position
  | _ => cursor.position

mutual

/-- Lays out the value at a cursor. The second result is the cursor after it, or the break at
which the layout ends. -/
def layValue : Nat → Cursor → Tree × Except Break Cursor
  | 0, cursor => layBroken (.always (cursor.here .endInValue))
  | fuel + 1, start =>
    let cursor := start.skipBlanks
    match cursor.unread with
    | [] => layBroken (.always (cursor.here .endInValue))
    | character :: _ =>
      if character = 'n' then layWord ['u', 'l', 'l'] .null cursor
      else if character = 't' then layWord ['r', 'u', 'e'] (.bool true) cursor
      else if character = 'f' then layWord ['a', 'l', 's', 'e'] (.bool false) cursor
      else if character = '"' then
        match scanText cursor.next with
        | .ok scanned => (.text scanned.content scanned.ending.position, .ok scanned.ending)
        | .error stop => layBroken stop
      else if character = '-' ∨ cursor.atDigit then
        match scanNumber cursor with
        | .ok (literal, following) =>
          (.number (literal.valueAt following.position) following.position, .ok following)
        | .error stop => layBroken stop
      else if character = '[' then
        let (items, outcome) := layItems fuel true cursor.next
        (.array cursor.position items, outcome)
      else if character = '\x7b' then
        let (members, outcome) := layMembers fuel true cursor.next
        (.object cursor.position members, outcome)
      else layBroken (.always (cursor.atNext .expectedValue))

def layItems : Nat → Bool → Cursor → Items × Except Break Cursor
  | 0, _, cursor =>
    let stop := Break.always (cursor.here .endInArray)
    (.broken stop, .error stop)
  | fuel + 1, first, start =>
    let cursor := start.skipBlanks
    match cursor.unread with
    | [] =>
      let stop := Break.always (cursor.here (if first then .endInArray else .endInValue))
      (.broken stop, .error stop)
    | ']' :: _ =>
      if first then (.close cursor.next.position, .ok cursor.next)
      else
        let stop : Break := ⟨cursor.atNext .commaBeforeEnd, cursor.atNext .expectedValue⟩
        (.broken stop, .error stop)
    | _ :: _ =>
      let (value, outcome) := layValue fuel cursor
      match outcome with
      | .error stop => (.item cursor.seen value (.broken stop), .error stop)
      | .ok following =>
        let ending := following.skipBlanks
        match ending.unread with
        | [] =>
          let stop := Break.always (ending.here .endInArray)
          (.item cursor.seen value (.broken stop), .error stop)
        | ']' :: _ =>
          (.item cursor.seen value (.close ending.next.position), .ok ending.next)
        | ',' :: _ =>
          let (remaining, outcome) := layItems fuel false ending.next
          (.item cursor.seen value remaining, outcome)
        | _ :: _ =>
          let stop := Break.always (ending.atNext .expectedArrayEnd)
          (.item cursor.seen value (.broken stop), .error stop)

def layMembers : Nat → Bool → Cursor → Members × Except Break Cursor
  | 0, _, cursor =>
    let stop := Break.always (cursor.here .endInObject)
    (.broken stop, .error stop)
  | fuel + 1, first, start =>
    let cursor := start.skipBlanks
    match cursor.unread with
    | [] =>
      let stop : Break :=
        if first then .always (cursor.here .endInObject)
        else ⟨cursor.here .endInValue, cursor.here .endInObject⟩
      (.broken stop, .error stop)
    | '"' :: _ =>
      match scanText cursor.next with
      | .error stop => (.broken stop, .error stop)
      | .ok scanned =>
        let name := scanned.content
        let afterName := scanned.ending.skipBlanks
        let named := namedPlace afterName
        let (value, outcome) := match afterName.unread with
          | [] => layBroken (.always (afterName.here .endInObject))
          | ':' :: _ => layValue fuel afterName.next
          | _ :: _ => layBroken (.always (afterName.atNext .expectedColon))
        match outcome with
        | .error stop => (.member name named value (.broken stop), .error stop)
        | .ok following =>
          let ending := following.skipBlanks
          match ending.unread with
          | [] =>
            let stop := Break.always (ending.here .endInObject)
            (.member name named value (.broken stop), .error stop)
          | '\x7d' :: _ =>
            (.member name named value (.close ending.next.position), .ok ending.next)
          | ',' :: _ =>
            let (remaining, outcome) := layMembers fuel false ending.next
            (.member name named value remaining, outcome)
          | _ :: _ =>
            let stop := Break.always (ending.atNext .expectedObjectEnd)
            (.member name named value (.broken stop), .error stop)
    | '\x7d' :: _ =>
      if first then (.close cursor.next.position, .ok cursor.next)
      else
        let stop : Break := ⟨cursor.atNext .commaBeforeEnd, cursor.atNext .nameNotText⟩
        (.broken stop, .error stop)
    | _ :: _ =>
      let stop := Break.always (cursor.atNext .nameNotText)
      (.broken stop, .error stop)

end

structure Layout where
  tree : Tree
  following : Except Break Cursor

/-- Lays out a text. Each step of the layout reads a character or comes right after one that
does, so twice the length bounds the steps. -/
def Layout.of (text : String) : Layout :=
  let cursor := Cursor.start text
  let (tree, following) := layValue (2 * cursor.unread.length + 2) cursor
  ⟨tree, following⟩

end GranuleRecall.Json
