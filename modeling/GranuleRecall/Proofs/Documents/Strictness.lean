import GranuleRecall.Proofs.Documents.Reordering
import GranuleRecall.Proofs.Documents.Slots

/-! # Stricter readers

A condition on documents that holds of all the parts of a document may be asked of what a granule
keeps: on the documents that it holds of, nothing is read differently. -/

set_option autoImplicit false

namespace GranuleRecall

open Json

namespace Json

/-- A property that the elements and the members of a document have with it. -/
structure PassedOn (property : Document → Prop) : Prop where
  element : ∀ {elements : List Document}, property (.array elements) →
    ∀ element ∈ elements, property element
  member : ∀ {members : List (Option String × Document)}, property (.object members) →
    ∀ member ∈ members, property member.2

theorem Document.HasDistinctNames.passedOn : PassedOn Document.HasDistinctNames := by
  constructor
  · rintro elements (_ | _ | _ | _ | ⟨each⟩ | _)
    exact each
  · rintro members (_ | _ | _ | _ | _ | ⟨_, each⟩)
    exact each

/-- On documents of a property, what one reader says the other one says too. -/
def Reader.GivesOn {α : Type} (property : Document → Prop) (reader stricter : Reader α) : Prop :=
  ∀ ⦃levels : Nat⦄ ⦃document : Document⦄ ⦃value : α⦄, property document →
    reader levels document value → stricter levels document value

theorem Reader.GivesOn.refl {α : Type} (property : Document → Prop) (reader : Reader α) :
    reader.GivesOn property reader := by
  intro levels document value _ read
  exact read

namespace Record

theorem SlotRead.imp {α : Type} {reads stricter : Document → α → Prop} {before after : Option α}
    {values : List Document}
    (gives : ∀ value ∈ values, ∀ content, reads value content → stricter value content)
    (read : SlotRead reads before values after) : SlotRead stricter before values after := by
  cases read with
  | missing => exact .missing
  | once reads => exact .once (gives _ List.mem_cons_self _ reads)

end Record

section

variable {property : Document → Prop} (passedOn : PassedOn property)

include passedOn

theorem Reader.GivesOn.list {α : Type} {reader stricter : Reader α}
    (gives : reader.GivesOn property stricter) : reader.list.GivesOn property stricter.list := by
  intro levels document values holds read
  obtain ⟨inner, elements, rfl, rfl, read⟩ := Reader.list_cases reader read
  obtain ⟨lengths, reads⟩ := List.forall₂_iff_zip.mp read
  apply List.forall₂_iff_zip.mpr
  refine ⟨lengths, ?_⟩
  intro element value among
  exact gives (passedOn.element holds element (List.of_mem_zip among).1) (reads among)

namespace Record

variable {record : Record} {readers stricter : record.Readers}
  (gives : ∀ slot, (readers slot).GivesOn property (stricter slot)) {α : Type}

include gives

theorem objectReader_givesOn {sound sounder : List (Option String × Document) → Prop}
    {policy : Others} {build : record.Filled → List (String × Json) → Except record.Slot α}
    (keeps : ∀ members, property (.object members) → sound (record.withoutSlot members) →
      sounder (record.withoutSlot members)) :
    (objectReader readers sound policy build).GivesOn property
      (objectReader stricter sounder policy build) := by
  intro levels document value holds read
  obtain ⟨inner, members, rfl, rfl, named, holdsSound, filled, kept, fits, keepsAll, built⟩ :=
    objectReader_cases read
  refine ⟨named, keeps members holds holdsSound, filled, kept, ?_, keepsAll, built⟩
  intro slot
  refine SlotRead.imp ?_ (fits slot)
  intro given among content
  obtain ⟨member, inside, rfl⟩ := mem_given among
  exact gives slot (passedOn.member holds member inside)

theorem eitherReader_givesOn {build : record.Filled → Except record.Slot α} :
    (eitherReader readers build).GivesOn property (eitherReader stricter build) := by
  intro levels document value holds read
  by_cases isArray : ∃ elements, document = .array elements
  · obtain ⟨elements, rfl⟩ := isArray
    cases levels with
    | zero => exact (eitherReader_zero read).elim
    | succ levels =>
        obtain ⟨room, filled, fits, built⟩ := read
        refine ⟨room, filled, ?_, built⟩
        intro slot
        refine SlotRead.imp ?_ (fits slot)
        intro given among content
        exact gives slot (passedOn.element holds given (mem_elementFor among))
  · have notArray := not_exists.mp isArray
    rw [eitherReader_of_ne_array notArray] at read ⊢
    exact objectReader_givesOn passedOn gives (fun _ _ holds => holds) holds read

end Record

end

end Json

/-! ## Events -/

section

variable {property : Document → Prop} (passedOn : PassedOn property)
  {sound sounder : KeptCondition}
  (keeps : ∀ members, property (.object members) → sound (Granule.record.withoutSlot members) →
    sounder (Granule.record.withoutSlot members))

include passedOn keeps

theorem Granule.reader_givesOn : (Granule.reader sound).GivesOn property (Granule.reader sounder) :=
  Record.objectReader_givesOn passedOn (fun _ => .refl property _) keeps

theorem Request.inputReader_givesOn :
    (inputReader sound).GivesOn property (inputReader sounder) := by
  refine Record.eitherReader_givesOn passedOn fun slot => ?_
  cases slot with
  | granules => exact (Granule.reader_givesOn passedOn keeps).list passedOn
  | jobId => exact .refl property _

theorem Request.reader_givesOn :
    (Request.reader sound).GivesOn property (Request.reader sounder) := by
  refine Record.eitherReader_givesOn passedOn fun slot => ?_
  cases slot with
  | configuration => exact .refl property _
  | input => exact Request.inputReader_givesOn passedOn keeps

end

/-- Where no object has a name twice, what a granule keeps may be held to that. -/
theorem Request.reader_distinct :
    (Request.reader .none).GivesOn Document.HasDistinctNames (Request.reader DistinctMembers) := by
  apply Request.reader_givesOn Document.HasDistinctNames.passedOn
  rintro members (_ | _ | _ | _ | _ | ⟨names, values⟩) _
  constructor
  · exact names.sublist (List.filter_sublist.filterMap Prod.fst)
  · intro member among
    exact values member (List.mem_of_mem_filter among)

theorem Request.reader_of_sound (sound : KeptCondition) :
    (Request.reader sound).GivesOn (fun _ => True) (Request.reader .none) := by
  refine Request.reader_givesOn ⟨fun _ _ _ => trivial, fun _ _ _ => trivial⟩ ?_
  intro members _ _
  exact trivial

end GranuleRecall
