import Mathlib.Data.String.Basic
import GranuleRecall.Proofs.Documents.Requests

/-! # The order of members

Members of distinct names may stand in any order: the data of a document is the same, and so is
what a record takes from it. -/

set_option autoImplicit false

namespace GranuleRecall.Json

/-- No object in the document has a name twice. Names that no text says are not compared. -/
inductive Document.HasDistinctNames : Document → Prop
  | null : HasDistinctNames .null
  | bool {value : Bool} : HasDistinctNames (.bool value)
  | number {literal : NumberLiteral} : HasDistinctNames (.number literal)
  | text {content : Option String} : HasDistinctNames (.text content)
  | array {elements : List Document} :
      (∀ element ∈ elements, element.HasDistinctNames) → HasDistinctNames (.array elements)
  | object {members : List (Option String × Document)} :
      (members.filterMap Prod.fst).Nodup → (∀ member ∈ members, member.2.HasDistinctNames) →
      HasDistinctNames (.object members)

/-- What the condition on a whole document says of a part of an object's members. -/
def DistinctMembers (members : List (Option String × Document)) : Prop :=
  (members.filterMap Prod.fst).Nodup ∧ ∀ member ∈ members, member.2.HasDistinctNames

/-- One document comes from the other when the members of one object, anywhere in it, are put in
another order. -/
inductive Document.Reordered : Document → Document → Prop
  | members {members members' : List (Option String × Document)} :
      members.Perm members' → Reordered (.object members) (.object members')
  | element {before after : List Document} {element element' : Document} :
      element.Reordered element' →
      Reordered (.array (before ++ element :: after)) (.array (before ++ element' :: after))
  | member {before after : List (Option String × Document)} {name : Option String}
      {value value' : Document} :
      value.Reordered value' →
      Reordered (.object (before ++ (name, value) :: after))
        (.object (before ++ (name, value') :: after))

theorem Document.Reordered.symm {document reordered : Document}
    (same : document.Reordered reordered) : reordered.Reordered document := by
  induction same with
  | members perm => exact .members perm.symm
  | element _ ih => exact .element ih
  | member _ ih => exact .member ih

theorem Document.Reordered.hasDistinctNames {document reordered : Document}
    (same : document.Reordered reordered) (distinct : document.HasDistinctNames) :
    reordered.HasDistinctNames := by
  induction same with
  | members perm =>
      cases distinct with
      | object names values =>
          constructor
          · exact (perm.filterMap Prod.fst).nodup_iff.mp names
          · intro member among
            exact values member (perm.mem_iff.mpr among)
  | @element before after element element' _ ih =>
      cases distinct with
      | array elements =>
          rw [List.forall_mem_append, List.forall_mem_cons] at elements
          constructor
          rw [List.forall_mem_append, List.forall_mem_cons]
          exact ⟨elements.1, ih elements.2.1, elements.2.2⟩
  | @member before after name value value' _ ih =>
      cases distinct with
      | object names values =>
          rw [List.forall_mem_append, List.forall_mem_cons] at values
          constructor
          · rw [List.filterMap_append, List.filterMap_cons] at names ⊢
            exact names
          · rw [List.forall_mem_append, List.forall_mem_cons]
            exact ⟨values.1, ih values.2.1, values.2.2⟩

/-! ## Data -/

theorem insertMember_comm_of_lt {name other : String} (before : name < other)
    (value otherValue : Json) (members : List (String × Json)) :
    insertMember name value (insertMember other otherValue members) =
      insertMember other otherValue (insertMember name value members) := by
  have different : name ≠ other := before.ne
  induction members with
  | nil => simp [insertMember, different, different.symm, before, before.asymm]
  | cons entry remaining ih =>
      obtain ⟨first, firstValue⟩ := entry
      rcases lt_trichotomy other first with otherFirst | rfl | otherLater
      · have nameFirst := before.trans otherFirst
        simp [insertMember, different, different.symm, before, before.asymm, otherFirst,
          otherFirst.ne, nameFirst, nameFirst.ne]
      · simp [insertMember, different, different.symm, before, before.asymm]
      · rcases lt_trichotomy name first with nameFirst | rfl | nameLater
        · simp [insertMember, different.symm, before.asymm, otherLater.ne', otherLater.asymm,
            nameFirst, nameFirst.ne]
        · simp [insertMember, different.symm, before.asymm]
        · simp [insertMember, otherLater.ne', otherLater.asymm, nameLater.ne', nameLater.asymm, ih]

theorem insertMember_comm {name other : String} (different : name ≠ other)
    (value otherValue : Json) (members : List (String × Json)) :
    insertMember name value (insertMember other otherValue members) =
      insertMember other otherValue (insertMember name value members) := by
  rcases lt_or_gt_of_ne different with before | after
  · exact insertMember_comm_of_lt before value otherValue members
  · exact (insertMember_comm_of_lt after otherValue value members).symm

theorem membersData?_of_perm {members members' : List (Option String × Document)}
    (perm : members.Perm members') (distinct : (members.filterMap Prod.fst).Nodup) (levels : Nat)
    (found : List (String × Json)) :
    membersData? levels found members = membersData? levels found members' := by
  induction perm generalizing found with
  | nil => rfl
  | @cons member members members' _ ih =>
      obtain ⟨name, value⟩ := member
      cases name with
      | none => rfl
      | some name =>
          simp only [membersData?]
          have others : (members.filterMap Prod.fst).Nodup := (List.nodup_cons.mp distinct).2
          simp only [ih others]
  | @swap first second members =>
      obtain ⟨name, value⟩ := first
      obtain ⟨other, otherValue⟩ := second
      cases name with
      | none => cases other <;> simp [membersData?]
      | some name =>
          cases other with
          | none => simp [membersData?]
          | some other =>
              have different : name ≠ other := by
                rintro rfl
                simp at distinct
              simp only [membersData?, Option.bind_eq_bind, Option.bind_some]
              cases value.data? levels with
              | none => cases otherValue.data? levels <;> rfl
              | some element =>
                  cases otherValue.data? levels with
                  | none => rfl
                  | some otherElement =>
                      simp only [Option.bind_some, insertMember_comm different]
  | trans first _ ih ih' =>
      rw [ih distinct, ih' ((first.filterMap Prod.fst).nodup_iff.mp distinct)]

section

variable {levels : Nat} {value value' : Document} (same : value'.data? levels = value.data? levels)

include same

theorem elementsData?_replace (before after : List Document) :
    elementsData? levels (before ++ value' :: after) =
      elementsData? levels (before ++ value :: after) := by
  induction before with
  | nil => simp only [List.nil_append, elementsData?, same]
  | cons first before ih => simp only [List.cons_append, elementsData?, ih]

theorem membersData?_replace (name : Option String) (before after : List (Option String × Document))
    (found : List (String × Json)) :
    membersData? levels found (before ++ (name, value') :: after) =
      membersData? levels found (before ++ (name, value) :: after) := by
  induction before generalizing found with
  | nil => simp only [List.nil_append, membersData?, same]
  | cons first before ih =>
      obtain ⟨firstName, firstValue⟩ := first
      simp only [List.cons_append, membersData?, ih]

end

/-- The order of members of distinct names does not matter to the data of a document. -/
theorem Document.Reordered.data? {document reordered : Document}
    (same : document.Reordered reordered) (distinct : document.HasDistinctNames) (levels : Nat) :
    reordered.data? levels = document.data? levels := by
  induction same generalizing levels with
  | members perm =>
      cases distinct with
      | object names _ =>
          cases levels with
          | zero => rfl
          | succ levels => simp only [Document.data?, membersData?_of_perm perm names]
  | @element before after element element' _ ih =>
      cases distinct with
      | array elements =>
          have distinctElement : element.HasDistinctNames := elements element (by simp)
          cases levels with
          | zero => rfl
          | succ levels =>
              simp only [Document.data?, elementsData?_replace (ih distinctElement levels)]
  | @member before after name value value' _ ih =>
      cases distinct with
      | object _ values =>
          have distinctValue : value.HasDistinctNames := values (name, value) (by simp)
          cases levels with
          | zero => rfl
          | succ levels =>
              simp only [Document.data?, membersData?_replace (ih distinctValue levels)]

end GranuleRecall.Json
