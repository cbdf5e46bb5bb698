import GranuleRecall.Json.Tree
import GranuleRecall.Json.Printer
import GranuleRecall.Text.Quoted

/-! # Data from trees

Taking data out of a text that has been laid out. Each decoder passes through its part of the
tree from front to back and reports the first problem it meets. Values that nobody asks for are
passed over: only their layout has to be sound, not the size of their numbers, the depth of
their nesting or the pairing of their surrogates. -/
set_option autoImplicit false

namespace GranuleRecall.Json

open Decimal

def nestingBound : Nat := 127

/-- A decoder takes the number of arrays and objects that may still be opened, and a tree. -/
abbrev Decoder (α : Type) := Nat → Tree → Except Problem α

mutual

def Tree.skip : Tree → Except Problem Unit
  | .array _ items => items.skip
  | .object _ members => members.skip
  | .broken stop => .error stop.whenSkipped
  | _ => .ok ()

def Items.skip : Items → Except Problem Unit
  | .close _ => .ok ()
  | .item _ value remaining =>
    match value.skip with
    | .error problem => .error problem
    | .ok _ => remaining.skip
  | .broken stop => .error stop.whenSkipped

def Members.skip : Members → Except Problem Unit
  | .close _ => .ok ()
  | .member _ _ value remaining =>
    match value.skip with
    | .error problem => .error problem
    | .ok _ => remaining.skip
  | .broken stop => .error stop.whenSkipped

end

def tooDeepAt (opening : Position) : Problem :=
  ⟨.tooDeep, ⟨opening.line, opening.column + 1⟩⟩

mutual

/-- Any value, with its members sorted by name; of several members of one name the last one
counts. -/
def Tree.data : Decoder Json
  | _, .null _ => .ok .null
  | _, .bool value _ => .ok (.bool value)
  | _, .number value _ => value.map .number
  | _, .text value _ => value.map .text
  | 0, .array opening _ => .error (tooDeepAt opening)
  | levels + 1, .array _ items => (items.data levels).map .array
  | 0, .object opening _ => .error (tooDeepAt opening)
  | levels + 1, .object _ members => (members.data levels []).map .object
  | _, .broken stop => .error stop.whenRead

def Items.data : Nat → Items → Except Problem (List Json)
  | _, .close _ => .ok []
  | levels, .item _ value remaining =>
    match value.data levels with
    | .error problem => .error problem
    | .ok element =>
      match remaining.data levels with
      | .error problem => .error problem
      | .ok others => .ok (element :: others)
  | _, .broken stop => .error stop.whenRead

def Members.data : Nat → List (String × Json) → Members → Except Problem (List (String × Json))
  | _, found, .close _ => .ok found
  | levels, found, .member name _ value remaining =>
    match name with
    | .error problem => .error problem
    | .ok name =>
      match value.data levels with
      | .error problem => .error problem
      | .ok element => remaining.data levels (insertMember name element found)
  | _, _, .broken stop => .error stop.whenRead

end

def Number.described : Number → String
  | .integer value => s!"integer `{String.ofList (integerDigits value)}`"
  | .real value => s!"floating point `{String.ofList (realText value)}`"

/-- The problem with data of another kind than is wanted. A broken tree is a problem of its
own, and so is a number or a text that cannot be read. -/
def Tree.unexpected (wanted : String) : Tree → Problem
  | .null ending => ⟨.wrongKind "null" wanted, ending⟩
  | .bool value ending =>
    ⟨.wrongKind (if value then "boolean `true`" else "boolean `false`") wanted, ending⟩
  | .number (.error problem) _ => problem
  | .number (.ok value) ending => ⟨.wrongKind value.described wanted, ending⟩
  | .text (.error problem) _ => problem
  | .text (.ok value) ending =>
    ⟨.wrongKind ("string " ++ Text.quotedForMessage value) wanted, ending⟩
  | .array opening _ => ⟨.wrongKind "sequence" wanted, opening⟩
  | .object opening _ => ⟨.wrongKind "map" wanted, opening⟩
  | .broken stop => stop.whenRead

def decodeText : Decoder String
  | _, .text value _ => value
  | _, tree => .error (tree.unexpected "a string")

def decodeBool : Decoder Bool
  | _, .bool value _ => .ok value
  | _, tree => .error (tree.unexpected "a boolean")

def decodeOption {α : Type} (decode : Decoder α) : Decoder (Option α)
  | _, .null _ => .ok none
  | levels, tree => (decode levels tree).map some

def Items.decode {α : Type} (decode : Decoder α) (levels : Nat) :
    Items → Except Problem (List α)
  | .close _ => .ok []
  | .item _ value remaining => do
    let element ← decode levels value
    let others ← remaining.decode decode levels
    return element :: others
  | .broken stop => .error stop.whenRead

def decodeArray {α : Type} (decode : Decoder α) : Decoder (List α)
  | 0, .array opening _ => .error (tooDeepAt opening)
  | levels + 1, .array _ items => items.decode decode levels
  | _, tree => .error (tree.unexpected "a sequence")

/-! ## Records -/

/-- A record: slots for its fields, each with the type of its content. -/
structure Record where
  Slot : Type
  slotsEq : DecidableEq Slot
  title : String
  /-- The slots in the order of declaration. -/
  slots : List Slot
  name : Slot → String
  slot? : String → Option Slot
  Content : Slot → Type
  decode : (slot : Slot) → Decoder (Content slot)

def Record.Filled (record : Record) : Type :=
  (slot : record.Slot) → Option (record.Content slot)

namespace Record

def nothing (record : Record) : record.Filled :=
  fun _ => none

def fill {record : Record} (filled : record.Filled) (slot : record.Slot)
    (content : record.Content slot) : record.Filled :=
  fun other =>
    match record.slotsEq other slot with
    | .isTrue same => some (same ▸ content)
    | .isFalse _ => filled other

def required {record : Record} (filled : record.Filled) (slot : record.Slot) :
    Except record.Slot (record.Content slot) :=
  match filled slot with
  | some content => .ok content
  | none => .error slot

inductive Others
  | skip
  | keep
deriving DecidableEq, Repr

/-- What the members of an object give: the filled slots, the members that have none, sorted by
name, and the place after the object. -/
structure Found (record : Record) where
  filled : record.Filled
  others : List (String × Json)
  ending : Position

def takeMembers (record : Record) (policy : Others) (levels : Nat) (filled : record.Filled)
    (others : List (String × Json)) : Members → Except Problem record.Found
  | .close ending => .ok ⟨filled, others, ending⟩
  | .broken stop => .error stop.whenRead
  | .member name named value remaining =>
    match name with
    | .error problem => .error problem
    | .ok name =>
      match record.slot? name with
      | some slot =>
        if (filled slot).isSome then .error ⟨.repeatedField (record.name slot), named⟩
        else
          match record.decode slot levels value with
          | .error problem => .error problem
          | .ok content =>
            record.takeMembers policy levels (fill filled slot content) others remaining
      | none =>
        match policy with
        | .skip =>
          match value.skip with
          | .error problem => .error problem
          | .ok _ => record.takeMembers policy levels filled others remaining
        | .keep =>
          match value.data levels with
          | .error problem => .error problem
          | .ok kept =>
            record.takeMembers policy levels filled (insertMember name kept others) remaining

/-- The place where an array of fields ends. More elements than there are fields are text after
the end, unless there is no further element behind the comma. -/
def endOfFields : Items → Except Problem Position
  | .close ending => .ok ending
  | .item seen _ _ => .error ⟨.textAfterEnd, seen⟩
  | .broken stop =>
    match stop.whenRead.fault with
    | .commaBeforeEnd | .endInArray => .error stop.whenRead
    | _ => .error ⟨.textAfterEnd, stop.whenRead.position⟩

/-- Takes the elements of an array as the fields of a record, in the order of declaration. -/
def takeItems (record : Record) (levels : Nat) (filled : record.Filled) :
    List record.Slot → Items → Except Problem (record.Filled × Position)
  | [], items => (endOfFields items).map (filled, ·)
  | _ :: _, .close ending => .ok (filled, ending)
  | _ :: _, .broken stop => .error stop.whenRead
  | slot :: slots, .item _ value remaining =>
    match record.decode slot levels value with
    | .error problem => .error problem
    | .ok content => record.takeItems levels (fill filled slot content) slots remaining

/-- The index of a slot in the order of declaration. -/
def index (record : Record) (slot : record.Slot) : Nat :=
  let _ := record.slotsEq
  record.slots.idxOf slot

def decodeObject {α : Type} (record : Record) (policy : Others)
    (build : record.Filled → List (String × Json) → Except record.Slot α) : Decoder α
  | 0, .object opening _ => .error (tooDeepAt opening)
  | levels + 1, .object _ members => do
    let found ← record.takeMembers policy levels record.nothing [] members
    (build found.filled found.others).mapError fun slot =>
      ⟨.missingField (record.name slot), found.ending⟩
  | _, tree => .error (tree.unexpected record.title)

/-- An object as a record, or an array of its fields in the order of declaration. Members that
have no slot are passed over. -/
def decodeEither {α : Type} (record : Record)
    (build : record.Filled → Except record.Slot α) : Decoder α
  | 0, .array opening _ => .error (tooDeepAt opening)
  | levels + 1, .array _ items => do
    let (filled, ending) ← record.takeItems levels record.nothing record.slots items
    (build filled).mapError fun slot =>
      ⟨.wrongLength (record.index slot) record.title record.slots.length, ending⟩
  | levels, tree => record.decodeObject .skip (fun filled _ => build filled) levels tree

end Record

/-! ## Whole texts -/

def decodeDocument {α : Type} (decode : Decoder α) (text : String) : Except Problem α := do
  let layout := Layout.of text
  let value ← decode nestingBound layout.tree
  match layout.following with
  | .error stop => .error stop.whenRead
  | .ok cursor =>
    let ending := cursor.skipBlanks
    if ending.unread.isEmpty then return value
    else throw (ending.atNext .textAfterEnd)

def parse (text : String) : Except Problem Json :=
  decodeDocument Tree.data text

end GranuleRecall.Json
