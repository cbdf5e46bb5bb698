import Mathlib.Data.List.Forall2
import GranuleRecall.Proofs.Documents.Written

/-! # What decoders take from documents

A reader says what a document means, apart from any text and its layout. A decoder agrees with a
reader when it gives that on every tree that shows the document. -/

set_option autoImplicit false

namespace GranuleRecall.Json

/-! ## Data -/

mutual

def Document.data? : Nat → Document → Option Json
  | _, .null => some .null
  | _, .bool value => some (.bool value)
  | _, .number literal => literal.value.toOption.map .number
  | _, .text content => content.map .text
  | 0, .array _ => none
  | levels + 1, .array elements => (elementsData? levels elements).map .array
  | 0, .object _ => none
  | levels + 1, .object members => (membersData? levels [] members).map .object

def elementsData? : Nat → List Document → Option (List Json)
  | _, [] => some []
  | levels, element :: remaining => do
    let value ← element.data? levels
    let others ← elementsData? levels remaining
    return value :: others

/-- Members put, one after the other, into a list sorted by name. -/
def membersData? : Nat → List (String × Json) → List (Option String × Document) →
    Option (List (String × Json))
  | _, found, [] => some found
  | levels, found, (name, value) :: remaining => do
    let name ← name
    let element ← value.data? levels
    membersData? levels (insertMember name element found) remaining

end

/-! What is not nested has its data at every level. -/

@[simp] theorem Document.data?_null (levels : Nat) : Document.null.data? levels = some .null := by
  cases levels <;> rfl

@[simp] theorem Document.data?_bool (levels : Nat) (value : Bool) :
    (Document.bool value).data? levels = some (.bool value) := by
  cases levels <;> rfl

@[simp] theorem Document.data?_number (levels : Nat) (literal : NumberLiteral) :
    (Document.number literal).data? levels = literal.value.toOption.map .number := by
  cases levels <;> rfl

@[simp] theorem Document.data?_text (levels : Nat) (content : Option String) :
    (Document.text content).data? levels = content.map .text := by
  cases levels <;> rfl

mutual

theorem Tree.Shows.data {tree : Tree} {document : Document} (shows : tree.Shows document)
    (levels : Nat) : (tree.data levels).toOption = document.data? levels := by
  cases shows with
  | null => cases levels <;> rfl
  | bool => cases levels <;> rfl
  | number same => cases levels <;> simp only [Tree.data, Document.data?_number, toOption_map, same]
  | text same => cases levels <;> simp only [Tree.data, Document.data?_text, toOption_map, same]
  | array items =>
      cases levels with
      | zero => rfl
      | succ levels => simp only [Tree.data, Document.data?, toOption_map, items.data]
  | object members =>
      cases levels with
      | zero => rfl
      | succ levels => simp only [Tree.data, Document.data?, toOption_map, members.data]

theorem Items.Shows.data {items : Items} {elements : List Document} (shows : items.Shows elements)
    (levels : Nat) : (items.data levels).toOption = elementsData? levels elements := by
  cases shows with
  | close => cases levels <;> rfl
  | item value remaining =>
      have first := value.data levels
      have others := remaining.data levels
      rw [elementsData?, ← first, ← others]
      simp only [Items.data]
      split
      next problem failed =>
        rw [failed]
        rfl
      next element read =>
        rw [read]
        split
        next problem failed =>
          rw [failed]
          rfl
        next rest readOthers =>
          rw [readOthers]
          rfl

theorem Members.Shows.data {shown : Members} {members : List (Option String × Document)}
    (shows : shown.Shows members) (levels : Nat) (found : List (String × Json)) :
    (shown.data levels found).toOption = membersData? levels found members := by
  cases shows with
  | close => cases levels <;> rfl
  | @member name _ _ _ _ _ _ same value remaining =>
      subst same
      have first := value.data levels
      rw [membersData?, ← first]
      simp only [Members.data]
      cases name with
      | error problem => rfl
      | ok name =>
          dsimp only
          split
          next problem failed =>
            rw [failed]
            rfl
          next element read =>
            rw [read]
            exact remaining.data levels _

end

mutual

/-- Passing over data that nobody asks for never fails. -/
theorem Tree.Shows.skip {tree : Tree} {document : Document} (shows : tree.Shows document) :
    tree.skip = .ok () := by
  cases shows with
  | null => rfl
  | bool => rfl
  | number _ => rfl
  | text _ => rfl
  | array items => exact items.skip
  | object members => exact members.skip

theorem Items.Shows.skip {items : Items} {elements : List Document}
    (shows : items.Shows elements) : items.skip = .ok () := by
  cases shows with
  | close => rfl
  | item value remaining => simp only [Items.skip, value.skip, remaining.skip]

theorem Members.Shows.skip {shown : Members} {members : List (Option String × Document)}
    (shows : shown.Shows members) : shown.skip = .ok () := by
  cases shows with
  | close => rfl
  | member _ value remaining => simp only [Members.skip, value.skip, remaining.skip]

end

/-! ## Documents of one layout -/

/-- Two documents that one tree shows. They differ only in how their numbers are written. -/
def Document.ShownAlike (document other : Document) : Prop :=
  ∃ tree : Tree, tree.Shows document ∧ tree.Shows other

/-- Members of the same names, with values that are shown alike. -/
def MembersAlike (members others : List (Option String × Document)) : Prop :=
  List.Forall₂ (fun member other => member.1 = other.1 ∧ member.2.ShownAlike other.2)
    members others

theorem MembersAlike.names {members others : List (Option String × Document)}
    (alike : MembersAlike members others) : members.map Prod.fst = others.map Prod.fst := by
  induction alike with
  | nil => rfl
  | cons first _ ih => rw [List.map_cons, List.map_cons, first.1, ih]

theorem Items.Shows.alike {items : Items} {elements elements' : List Document}
    (shows : items.Shows elements) (shows' : items.Shows elements') :
    List.Forall₂ Document.ShownAlike elements elements' := by
  induction elements generalizing items elements' with
  | nil =>
      cases shows with
      | close =>
          cases shows' with
          | close => exact .nil
  | cons element elements ih =>
      cases shows with
      | item value remaining =>
          cases shows' with
          | item value' remaining' => exact .cons ⟨_, value, value'⟩ (ih remaining remaining')

theorem Members.Shows.alike {shown : Members} {members members' : List (Option String × Document)}
    (shows : shown.Shows members) (shows' : shown.Shows members') :
    MembersAlike members members' := by
  induction members generalizing shown members' with
  | nil =>
      cases shows with
      | close =>
          cases shows' with
          | close => exact .nil
  | cons member members ih =>
      cases shows with
      | member same value remaining =>
          cases shows' with
          | member same' value' remaining' =>
              exact .cons ⟨same.symm.trans same', _, value, value'⟩ (ih remaining remaining')

namespace Document

theorem ShownAlike.data? {document other : Document} (alike : document.ShownAlike other)
    (levels : Nat) : document.data? levels = other.data? levels := by
  obtain ⟨tree, shows, shows'⟩ := alike
  rw [← shows.data, ← shows'.data]

theorem ShownAlike.text {document : Document} {content : Option String}
    (alike : document.ShownAlike (.text content)) : document = .text content := by
  obtain ⟨tree, shows, shows'⟩ := alike
  cases shows' with
  | text same =>
      cases shows with
      | text same' => rw [← same, ← same']

theorem ShownAlike.array {document : Document} {elements : List Document}
    (alike : document.ShownAlike (.array elements)) :
    ∃ elements', document = .array elements' ∧
      List.Forall₂ ShownAlike elements' elements := by
  obtain ⟨tree, shows, shows'⟩ := alike
  cases shows' with
  | array items =>
      cases shows with
      | array items' => exact ⟨_, rfl, items'.alike items⟩

theorem ShownAlike.object {document : Document} {members : List (Option String × Document)}
    (alike : document.ShownAlike (.object members)) :
    ∃ members', document = .object members' ∧ MembersAlike members' members := by
  obtain ⟨tree, shows, shows'⟩ := alike
  cases shows' with
  | object inside =>
      cases shows with
      | object inside' => exact ⟨_, rfl, inside'.alike inside⟩

/-- Documents of one text are shown by its layout. -/
theorem IsWrittenAs.alike {text : String} {document other : Document}
    (written : document.IsWrittenAs text) (written' : other.IsWrittenAs text) :
    document.ShownAlike other :=
  ⟨_, (written.layout Tree.data).1, (written'.layout Tree.data).1⟩

end Document

/-! ## Readers -/

/-- The meanings of documents; the number is of the arrays and objects that may still be
opened. -/
abbrev Reader (α : Type) := Nat → Document → α → Prop

/-- On trees that show a document the decoder gives what the reader says. -/
def Decoder.Agrees {α : Type} (decode : Decoder α) (reader : Reader α) : Prop :=
  ∀ ⦃levels : Nat⦄ ⦃tree : Tree⦄ ⦃document : Document⦄ ⦃value : α⦄, tree.Shows document →
    (decode levels tree = .ok value ↔ reader levels document value)

theorem Decoder.Agrees.decodeDocument {α : Type} {decode : Decoder α} {reader : Reader α}
    (agrees : Decoder.Agrees decode reader) {document : Document} {text : String}
    (written : document.IsWrittenAs text) {value : α} :
    Json.decodeDocument decode text = .ok value ↔ reader nestingBound document value := by
  obtain ⟨shows, same⟩ := written.layout decode
  rw [same]
  exact agrees shows

theorem Decoder.Agrees.reader_iff {α : Type} {decode : Decoder α} {reader : Reader α}
    (agrees : Decoder.Agrees decode reader) {document other : Document}
    (alike : document.ShownAlike other) (levels : Nat) (value : α) :
    reader levels document value ↔ reader levels other value := by
  obtain ⟨tree, shows, shows'⟩ := alike
  exact (agrees shows).symm.trans (agrees shows')

def Reader.text : Reader String :=
  fun _ document value => document = .text (some value)

def Reader.bool : Reader Bool :=
  fun _ document value => document = .bool value

section

variable {α : Type} (reader : Reader α)

def Reader.orNull : Reader (Option α) :=
  fun levels document value =>
    document = .null ∧ value = none ∨
      document ≠ .null ∧ ∃ content, reader levels document content ∧ value = some content

def Reader.list : Reader (List α)
  | levels + 1, .array elements, values => List.Forall₂ (reader levels) elements values
  | _, _, _ => False

theorem Reader.list_cases {levels : Nat} {document : Document} {values : List α}
    (read : Reader.list reader levels document values) :
    ∃ inner elements, levels = inner + 1 ∧ document = .array elements ∧
      List.Forall₂ (reader inner) elements values := by
  unfold Reader.list at read
  split at read
  next inner elements => exact ⟨_, _, rfl, rfl, read⟩
  next => exact read.elim

end

theorem toOption_eq_some {ε α : Type} {outcome : Except ε α} {value : α} :
    outcome.toOption = some value ↔ outcome = .ok value := by
  cases outcome with
  | error problem => simp [Except.toOption]
  | ok read => simp [Except.toOption]

theorem decodeText_agrees : Decoder.Agrees decodeText Reader.text := by
  intro levels tree document value shows
  cases shows with
  | text same => simp only [decodeText, Reader.text, ← same, Document.text.injEq, toOption_eq_some]
  | null => simp [decodeText, Reader.text]
  | bool => simp [decodeText, Reader.text]
  | number _ => simp [decodeText, Reader.text]
  | array _ => simp [decodeText, Reader.text]
  | object _ => simp [decodeText, Reader.text]

theorem decodeBool_agrees : Decoder.Agrees decodeBool Reader.bool := by
  intro levels tree document value shows
  cases shows with
  | bool => simp [decodeBool, Reader.bool]
  | text _ => simp [decodeBool, Reader.bool]
  | null => simp [decodeBool, Reader.bool]
  | number _ => simp [decodeBool, Reader.bool]
  | array _ => simp [decodeBool, Reader.bool]
  | object _ => simp [decodeBool, Reader.bool]

section

variable {α : Type} {decode : Decoder α} {reader : Reader α} (agrees : decode.Agrees reader)

include agrees

theorem decodeOption_agrees : Decoder.Agrees (decodeOption decode) reader.orNull := by
  intro levels tree document value shows
  have present (notNull : document ≠ .null)
      (same : decodeOption decode levels tree = (decode levels tree).map some) :
      decodeOption decode levels tree = .ok value ↔ reader.orNull levels document value := by
    rw [same, map_eq_ok]
    simp only [Reader.orNull, notNull, false_and, false_or, ne_eq, not_false_eq_true, true_and,
      agrees shows, eq_comm]
  cases shows with
  | null => simp [decodeOption, Reader.orNull, eq_comm]
  | bool => exact present (by simp) rfl
  | number _ => exact present (by simp) rfl
  | text _ => exact present (by simp) rfl
  | array _ => exact present (by simp) rfl
  | object _ => exact present (by simp) rfl

theorem Items.Shows.decode_iff {items : Items} {elements : List Document}
    (shows : items.Shows elements) {levels : Nat} {values : List α} :
    items.decode decode levels = .ok values ↔ List.Forall₂ (reader levels) elements values := by
  induction elements generalizing items values with
  | nil =>
      cases shows with
      | close => simp [Items.decode, eq_comm]
  | cons element elements ih =>
      cases shows with
      | item value remaining =>
          rw [Items.decode, bind_eq_ok, List.forall₂_cons_left_iff]
          constructor
          · rintro ⟨first, read, rest⟩
            obtain ⟨others, readOthers, same⟩ := bind_eq_ok.mp rest
            cases same
            exact ⟨first, others, (agrees value).mp read, (ih remaining).mp readOthers, rfl⟩
          · rintro ⟨first, others, read, readOthers, rfl⟩
            exact ⟨first, (agrees value).mpr read,
              bind_eq_ok.mpr ⟨others, (ih remaining).mpr readOthers, rfl⟩⟩

theorem decodeArray_agrees : Decoder.Agrees (decodeArray decode) reader.list := by
  intro levels tree document value shows
  cases shows with
  | array items =>
      cases levels with
      | zero => simp [decodeArray, Reader.list]
      | succ levels => exact items.decode_iff agrees
  | text _ => simp [decodeArray, Reader.list]
  | null => simp [decodeArray, Reader.list]
  | bool => simp [decodeArray, Reader.list]
  | number _ => simp [decodeArray, Reader.list]
  | object _ => simp [decodeArray, Reader.list]

end

end GranuleRecall.Json
