import GranuleRecall.Proofs.Documents.Reordering
import GranuleRecall.Proofs.Documents.Slots

/-! # Edits that a record does not notice

Members may be put in another order, those that are passed over may come and go, a name may give
way to another one of its slot, and a member may be left out that says what its absence says. What
a record takes from an object is the same before and after. -/

set_option autoImplicit false

namespace GranuleRecall.Json

/-- Where this many arrays and objects may still be opened, related documents mean the same. -/
def Reader.Respects {α : Type} (reader : Reader α) (least : Nat)
    (related : Document → Document → Prop) : Prop :=
  ∀ ⦃levels : Nat⦄, least ≤ levels → ∀ ⦃document other : Document⦄, related document other →
    ∀ value, reader levels document value ↔ reader levels other value

/-- A relation between the elements of arrays, of which one differs. -/
inductive Document.InElement (related : Document → Document → Prop) : Document → Document → Prop
  | element {before after : List Document} {element element' : Document} :
      related element element' →
      InElement related (.array (before ++ element :: after)) (.array (before ++ element' :: after))

theorem forall₂_replace {α : Type} {reads : Document → α → Prop} {element element' : Document}
    (same : ∀ value, reads element value ↔ reads element' value) (before after : List Document)
    (values : List α) :
    List.Forall₂ reads (before ++ element :: after) values ↔
      List.Forall₂ reads (before ++ element' :: after) values := by
  induction before generalizing values with
  | nil => simp only [List.nil_append, List.forall₂_cons_left_iff, same]
  | cons first before ih => simp only [List.cons_append, List.forall₂_cons_left_iff, ih]

theorem Reader.Respects.list {α : Type} {reader : Reader α} {least : Nat}
    {related : Document → Document → Prop} (respects : reader.Respects least related) :
    reader.list.Respects (least + 1) (Document.InElement related) := by
  intro levels room document other edited values
  obtain ⟨inner, rfl⟩ := Nat.exists_eq_succ_of_ne_zero (Nat.ne_of_gt (Nat.zero_lt_of_lt room))
  cases edited with
  | element inside =>
      exact forall₂_replace (respects (Nat.le_of_succ_le_succ room) inside) _ _ values

namespace Record

section

variable {α : Type} {reads : Document → α → Prop} {before after : Option α}

theorem SlotRead.perm {values values' : List Document} (perm : values.Perm values')
    (read : SlotRead reads before values after) : SlotRead reads before values' after := by
  cases read with
  | missing =>
      rw [perm.nil_eq.symm]
      exact .missing
  | once reads =>
      rw [← List.singleton_perm.mp perm]
      exact .once reads

theorem slotRead_perm {values values' : List Document} (perm : values.Perm values') :
    SlotRead reads before values after ↔ SlotRead reads before values' after :=
  ⟨.perm perm, .perm perm.symm⟩

theorem slotRead_replace {value value' : Document}
    (same : ∀ content, reads value content ↔ reads value' content) (earlier later : List Document) :
    SlotRead reads before (earlier ++ value :: later) after ↔
      SlotRead reads before (earlier ++ value' :: later) after := by
  cases earlier with
  | nil => simp only [List.nil_append, slotRead_cons, same]
  | cons first earlier => simp [slotRead_cons]

end

variable {record : Record}

section

variable {readers : record.Readers} {α : Type}
  {sound : List (Option String × Document) → Prop} {policy : Others}
  {build : record.Filled → List (String × Json) → Except record.Slot α}

theorem objectReader_congr {levels : Nat} {members members' : List (Option String × Document)}
    (named : (∀ member ∈ members, member.1.isSome) ↔ ∀ member ∈ members', member.1.isSome)
    (soundIff : sound (record.withoutSlot members) ↔ sound (record.withoutSlot members'))
    (slots : ∀ slot before after, SlotRead (readers slot levels) before (record.given slot members)
      after ↔ SlotRead (readers slot levels) before (record.given slot members') after)
    (keeps : sound (record.withoutSlot members) → ∀ kept,
      record.Kept policy levels [] members kept ↔ record.Kept policy levels [] members' kept)
    (value : α) :
    objectReader readers sound policy build (levels + 1) (.object members) value ↔
      objectReader readers sound policy build (levels + 1) (.object members') value := by
  simp only [objectReader, Fits, slots, named, soundIff]
  apply and_congr_right
  intro _
  apply and_congr_right
  intro holds
  simp only [keeps (soundIff.mpr holds)]

theorem objectReader_zero {document : Document} {value : α} :
    ¬ objectReader readers sound policy build 0 document value := by
  cases document <;> exact id

theorem objectReader_array {levels : Nat} {elements : List Document} {value : α} :
    ¬ objectReader readers sound policy build levels (.array elements) value := by
  cases levels <;> exact id

/-- A member of a slot may give way to another one of the slot that means the same to it. -/
theorem objectReader_exchange {levels : Nat} {before after : List (Option String × Document)}
    {name name' : Option String} {value value' : Document} {slot : record.Slot}
    (goes : record.slotOf? name = some slot) (goes' : record.slotOf? name' = some slot)
    (same : ∀ content, readers slot levels value content ↔ readers slot levels value' content)
    (result : α) :
    objectReader readers sound policy build (levels + 1)
        (.object (before ++ (name, value) :: after)) result ↔
      objectReader readers sound policy build (levels + 1)
        (.object (before ++ (name', value') :: after)) result := by
  have without : record.withoutSlot (before ++ (name, value) :: after) =
      record.withoutSlot (before ++ (name', value') :: after) := by
    rw [withoutSlot_between_of_some goes, withoutSlot_between_of_some goes']
  apply objectReader_congr
  · simp only [List.forall_mem_append, List.forall_mem_cons, isSome_of_slotOf? goes,
      isSome_of_slotOf? goes']
  · rw [without]
  · intro other held result
    by_cases here : other = slot
    · subst here
      rw [given_between_self goes, given_between_self goes']
      exact slotRead_replace same _ _
    · rw [given_between_elsewhere goes here, given_between_elsewhere goes' here]
  · intro _ kept
    unfold Kept
    rw [without]

/-- A value that has no slot may give way to one that is as sound and as good to keep. -/
theorem objectReader_replace_of_none {levels : Nat}
    {before after : List (Option String × Document)} {name : Option String}
    {value value' : Document} (goesNowhere : record.slotOf? name = none)
    (soundIff : ∀ earlier later,
      sound (earlier ++ (name, value) :: later) ↔ sound (earlier ++ (name, value') :: later))
    (keeps : policy = .keep → (∃ earlier later, sound (earlier ++ (name, value) :: later)) →
      value'.data? levels = value.data? levels) (result : α) :
    objectReader readers sound policy build (levels + 1)
        (.object (before ++ (name, value) :: after)) result ↔
      objectReader readers sound policy build (levels + 1)
        (.object (before ++ (name, value') :: after)) result := by
  apply objectReader_congr
  · simp only [List.forall_mem_append, List.forall_mem_cons]
  · rw [withoutSlot_between_of_none goesNowhere, withoutSlot_between_of_none goesNowhere]
    exact soundIff _ _
  · intro slot held result
    rw [given_between_of_none goesNowhere, given_between_of_none goesNowhere]
  · intro holds kept
    rw [withoutSlot_between_of_none goesNowhere] at holds
    cases policy with
    | skip => exact Iff.rfl
    | keep =>
        have same := keeps rfl ⟨_, _, holds⟩
        simp only [Kept, withoutSlot_between_of_none goesNowhere, membersData?_replace same]

/-! ## Reordering -/

/-- What is asked of the members without a slot, so that their order does not matter. -/
inductive OrderFree : (List (Option String × Document) → Prop) → Others → Prop
  | skip : OrderFree (fun _ => True) .skip
  | keep : OrderFree DistinctMembers .keep

theorem distinctMembers_replace {before after : List (Option String × Document)}
    {name : Option String} {value value' : Document} (same : value.Reordered value')
    (distinct : DistinctMembers (before ++ (name, value) :: after)) :
    DistinctMembers (before ++ (name, value') :: after) := by
  obtain ⟨names, values⟩ := distinct
  rw [List.forall_mem_append, List.forall_mem_cons] at values
  constructor
  · rw [List.filterMap_append, List.filterMap_cons] at names ⊢
    exact names
  · rw [List.forall_mem_append, List.forall_mem_cons]
    exact ⟨values.1, same.hasDistinctNames values.2.1, values.2.2⟩

theorem distinctMembers_perm {members members' : List (Option String × Document)}
    (perm : members.Perm members') (distinct : DistinctMembers members) :
    DistinctMembers members' := by
  constructor
  · exact (perm.filterMap Prod.fst).nodup_iff.mp distinct.1
  · intro member among
    exact distinct.2 member (perm.mem_iff.mpr among)

theorem objectReader_reordered (fields : ∀ slot, (readers slot).Respects 0 Document.Reordered)
    (free : OrderFree sound policy) :
    (objectReader readers sound policy build).Respects 0 Document.Reordered := by
  intro levels _ document reordered same result
  cases levels with
  | zero => exact iff_of_false objectReader_zero objectReader_zero
  | succ levels =>
      cases same with
      | element _ => exact iff_of_false objectReader_array objectReader_array
      | @members members members' perm =>
          have without : (record.withoutSlot members).Perm (record.withoutSlot members') :=
            perm.filter _
          apply objectReader_congr
          · simp only [perm.mem_iff]
          · cases free with
            | skip => exact Iff.rfl
            | keep => exact ⟨distinctMembers_perm without, distinctMembers_perm without.symm⟩
          · intro slot before after
            exact slotRead_perm ((perm.filter _).map _)
          · intro holds kept
            cases free with
            | skip => exact Iff.rfl
            | keep =>
                unfold Kept
                rw [membersData?_of_perm without holds.1]
      | @member before after name value value' same =>
          cases goes : record.slotOf? name with
          | some slot => exact objectReader_exchange goes goes (fields slot (Nat.zero_le _) same) _
          | none =>
              apply objectReader_replace_of_none goes
              · intro earlier later
                cases free with
                | skip => exact Iff.rfl
                | keep => exact ⟨distinctMembers_replace same, distinctMembers_replace same.symm⟩
              · rintro rfl ⟨earlier, later, holds⟩
                cases free with
                | keep => exact same.data? (holds.2 (name, value) (by simp)) levels

/-! ## Arrays of fields -/

theorem getElem?_replaced (before after : List Document) (value : Document) :
    (before ++ value :: after)[before.length]? = some value := by
  simp

theorem getElem?_replace_of_ne (before after : List Document) (value value' : Document)
    {index : Nat} (elsewhere : index ≠ before.length) :
    (before ++ value :: after)[index]? = (before ++ value' :: after)[index]? := by
  grind

theorem slotRead_elementFor_replace {levels : Nat} {slots : List record.Slot}
    {before after : List Document} {value value' : Document}
    (room : (before ++ value :: after).length ≤ slots.length)
    (same : ∀ slot, slots[before.length]? = some slot →
      ∀ content, readers slot levels value content ↔ readers slot levels value' content)
    (slot : record.Slot) (held result : Option (record.Content slot)) :
    SlotRead (readers slot levels) held (elementFor slots (before ++ value :: after) slot) result ↔
      SlotRead (readers slot levels) held (elementFor slots (before ++ value' :: after) slot)
        result := by
  unfold elementFor
  by_cases here : slots.idxOf slot = before.length
  · have inside : slots.idxOf slot < slots.length := by
      rw [List.length_append, List.length_cons] at room
      omega
    have found : slots[before.length]? = some slot := by
      rw [← here]
      exact List.getElem?_idxOf (List.idxOf_lt_length_iff.mp inside)
    rw [here, getElem?_replaced, getElem?_replaced]
    exact slotRead_replace (same slot found) [] []
  · rw [getElem?_replace_of_ne before after value value' here]

theorem eitherReader_replace {build : record.Filled → Except record.Slot α} {levels : Nat}
    {before after : List Document} {value value' : Document}
    (same : ∀ slot, record.slots[before.length]? = some slot →
      ∀ content, readers slot levels value content ↔ readers slot levels value' content)
    (result : α) :
    eitherReader readers build (levels + 1) (.array (before ++ value :: after)) result ↔
      eitherReader readers build (levels + 1) (.array (before ++ value' :: after)) result := by
  have lengths : (before ++ value' :: after).length = (before ++ value :: after).length := by simp
  simp only [eitherReader, lengths]
  apply and_congr_right
  intro room
  simp only [Fits, slotRead_elementFor_replace room same]

theorem eitherReader_reordered (fields : ∀ slot, (readers slot).Respects 0 Document.Reordered)
    (build : record.Filled → Except record.Slot α) :
    (eitherReader readers build).Respects 0 Document.Reordered := by
  intro levels _ document reordered same result
  have asObject : (objectReader readers (fun _ => True) .skip fun filled _ =>
      build filled).Respects 0 Document.Reordered :=
    objectReader_reordered fields .skip
  cases levels with
  | zero => exact iff_of_false eitherReader_zero eitherReader_zero
  | succ levels =>
      cases same with
      | element same =>
          apply eitherReader_replace
          intro slot _ content
          exact fields slot (Nat.zero_le _) same content
      | members perm =>
          rw [eitherReader_object, eitherReader_object]
          exact asObject (Nat.zero_le _) (.members perm) result
      | member same =>
          rw [eitherReader_object, eitherReader_object]
          exact asObject (Nat.zero_le _) (.member same) result

/-! ## Edits -/

variable (record policy) in
/-- An edit of a record that is not noticed: of a value inside, of a member that is passed over,
of a name of the same slot, or of a member that says what its absence says. -/
inductive Edited (inside : record.Slot → Document → Document → Prop)
    (isDefault : record.Slot → Document → Prop) : Document → Document → Prop
  | inside {before after : List (Option String × Document)} {name : Option String}
      {slot : record.Slot} {value value' : Document} :
      record.slotOf? name = some slot → inside slot value value' →
      Edited inside isDefault (.object (before ++ (name, value) :: after))
        (.object (before ++ (name, value') :: after))
  | field {before after : List Document} {slot : record.Slot} {value value' : Document} :
      record.slots[before.length]? = some slot → inside slot value value' →
      Edited inside isDefault (.array (before ++ value :: after))
        (.array (before ++ value' :: after))
  | passedOver {before after : List (Option String × Document)} {name : String}
      {value : Document} :
      policy = .skip → record.slot? name = none →
      Edited inside isDefault (.object (before ++ after))
        (.object (before ++ (some name, value) :: after))
  | renamed {before after : List (Option String × Document)} {name name' : String}
      {slot : record.Slot} {value : Document} :
      record.slot? name = some slot → record.slot? name' = some slot →
      Edited inside isDefault (.object (before ++ (some name, value) :: after))
        (.object (before ++ (some name', value) :: after))
  | default {before after : List (Option String × Document)} {name : String}
      {slot : record.Slot} {value : Document} :
      record.slot? name = some slot → record.given slot (before ++ after) = [] →
      isDefault slot value →
      Edited inside isDefault (.object (before ++ after))
        (.object (before ++ (some name, value) :: after))

/-- The value is read for the slot, and with it a record is built as without it. -/
def SaysDefault (readers : record.Readers)
    (build : record.Filled → List (String × Json) → Except record.Slot α) (levels : Nat)
    (slot : record.Slot) (value : Document) : Prop :=
  ∃ content, (∀ read, readers slot levels value read ↔ read = content) ∧
    ∀ filled kept, filled slot = none → build (fill filled slot content) kept = build filled kept

theorem objectReader_passedOver {levels : Nat} {before after : List (Option String × Document)}
    {name : String} (goesNowhere : record.slot? name = none) (value : Document)
    (trivial : ∀ members, sound members) (result : α) :
    objectReader readers sound .skip build (levels + 1) (.object (before ++ after)) result ↔
      objectReader readers sound .skip build (levels + 1)
        (.object (before ++ (some name, value) :: after)) result := by
  have slotOf : record.slotOf? (some name) = none := goesNowhere
  apply objectReader_congr
  · simp only [List.forall_mem_append, List.forall_mem_cons, Option.isSome_some, true_and]
  · exact iff_of_true (trivial _) (trivial _)
  · intro slot held result
    rw [given_between_of_none slotOf]
  · intro _ kept
    exact Iff.rfl

/-- The slot emptied again. -/
def emptied (filled : record.Filled) (slot : record.Slot) : record.Filled :=
  fun other => if other = slot then none else filled other

theorem fill_emptied {filled : record.Filled} {slot : record.Slot} {content : record.Content slot}
    (held : filled slot = some content) : fill (emptied filled slot) slot content = filled := by
  funext other
  by_cases same : other = slot
  · subst same
    rw [fill_self, held]
  · rw [fill_of_ne _ content same]
    exact if_neg same

theorem objectReader_default {levels : Nat} {before after : List (Option String × Document)}
    {name : String} {slot : record.Slot} {value : Document}
    (goes : record.slot? name = some slot) (absent : record.given slot (before ++ after) = [])
    (stated : SaysDefault readers build levels slot value) (result : α) :
    objectReader readers sound policy build (levels + 1) (.object (before ++ after)) result ↔
      objectReader readers sound policy build (levels + 1)
        (.object (before ++ (some name, value) :: after)) result := by
  obtain ⟨content, reads, builds⟩ := stated
  have slotOf : record.slotOf? (some name) = some slot := goes
  have here : record.given slot (before ++ (some name, value) :: after) = [value] := by
    rw [given_append, List.append_eq_nil_iff] at absent
    rw [given_between_self slotOf, absent.1, absent.2, List.nil_append]
  simp only [objectReader, Kept, withoutSlot_between_of_some slotOf, List.forall_mem_append,
    List.forall_mem_cons, Option.isSome_some, true_and]
  apply and_congr_right
  intro _
  apply and_congr_right
  intro _
  constructor
  · rintro ⟨filled, kept, fits, keeps, built⟩
    have empty : filled slot = none := by
      have read : SlotRead (readers slot levels) none (record.given slot (before ++ after))
        (filled slot) := fits slot
      rw [absent] at read
      exact slotRead_nil.mp read
    refine ⟨fill filled slot content, kept, ?_, keeps, (builds filled kept empty).trans built⟩
    intro other
    change SlotRead (readers other levels) none (record.given other _) _
    by_cases same : other = slot
    · subst same
      rw [here, fill_self]
      exact .once ((reads content).mpr rfl)
    · rw [given_between_elsewhere slotOf same, fill_of_ne filled content same]
      exact fits other
  · rintro ⟨filled, kept, fits, keeps, built⟩
    have held : filled slot = some content := by
      have read : SlotRead (readers slot levels) none
        (record.given slot (before ++ (some name, value) :: after)) (filled slot) := fits slot
      rw [here, slotRead_cons] at read
      obtain ⟨_, _, content', reads', held⟩ := read
      rw [held, (reads content').mp reads']
    have empty : emptied filled slot slot = none := if_pos rfl
    refine ⟨emptied filled slot, kept, ?_, keeps, ?_⟩
    · intro other
      change SlotRead (readers other levels) none (record.given other _) _
      by_cases same : other = slot
      · subst same
        rw [absent]
        exact slotRead_nil.mpr empty
      · have fitsOther := fits other
        dsimp only at fitsOther
        rw [given_between_elsewhere slotOf same] at fitsOther
        rw [show emptied filled slot other = filled other from if_neg same]
        exact fitsOther
    · rw [← builds _ kept empty, fill_emptied held]
      exact built

/-- What a record takes from an object is the same before and after an edit. -/
theorem objectReader_edited {least : Nat} {inside : record.Slot → Document → Document → Prop}
    {isDefault : record.Slot → Document → Prop}
    (fields : ∀ slot, (readers slot).Respects least (inside slot))
    (defaults : ∀ levels, least ≤ levels → ∀ slot value, isDefault slot value →
      SaysDefault readers build levels slot value)
    (trivial : policy = .skip → ∀ members, sound members) :
    (objectReader readers sound policy build).Respects (least + 1)
      (Edited record policy inside isDefault) := by
  intro levels room document edited edit result
  obtain ⟨levels, rfl⟩ := Nat.exists_eq_succ_of_ne_zero (Nat.ne_of_gt (Nat.zero_lt_of_lt room))
  have enough : least ≤ levels := Nat.le_of_succ_le_succ room
  cases edit with
  | inside goes related => exact objectReader_exchange goes goes (fields _ enough related) result
  | field _ _ => exact iff_of_false objectReader_array objectReader_array
  | passedOver isSkip goesNowhere =>
      subst isSkip
      exact objectReader_passedOver goesNowhere _ (trivial rfl) result
  | @renamed _ _ name name' slot _ goes goes' =>
      have slotOf : record.slotOf? (some name) = some slot := goes
      have slotOf' : record.slotOf? (some name') = some slot := goes'
      exact objectReader_exchange slotOf slotOf' (fun _ => Iff.rfl) result
  | default goes absent stated =>
      exact objectReader_default goes absent (defaults levels enough _ _ stated) result

theorem eitherReader_edited {build : record.Filled → Except record.Slot α} {least : Nat}
    {inside : record.Slot → Document → Document → Prop}
    {isDefault : record.Slot → Document → Prop}
    (fields : ∀ slot, (readers slot).Respects least (inside slot))
    (defaults : ∀ levels, least ≤ levels → ∀ slot value, isDefault slot value →
      SaysDefault readers (fun filled _ => build filled) levels slot value) :
    (eitherReader readers build).Respects (least + 1) (Edited record .skip inside isDefault) := by
  intro levels room document edited edit result
  have asObject : (objectReader readers (fun _ => True) .skip fun filled _ =>
      build filled).Respects (least + 1) (Edited record .skip inside isDefault) :=
    objectReader_edited fields defaults fun _ _ => trivial
  obtain ⟨levels, rfl⟩ := Nat.exists_eq_succ_of_ne_zero (Nat.ne_of_gt (Nat.zero_lt_of_lt room))
  have same := asObject room edit result
  cases edit with
  | field goes related =>
      apply eitherReader_replace
      intro slot goes' content
      rw [goes] at goes'
      cases goes'
      exact fields _ (Nat.le_of_succ_le_succ room) related content
  | inside _ _ => rwa [eitherReader_object, eitherReader_object]
  | passedOver _ _ => rwa [eitherReader_object, eitherReader_object]
  | renamed _ _ => rwa [eitherReader_object, eitherReader_object]
  | default _ _ _ => rwa [eitherReader_object, eitherReader_object]

end

end Record

end GranuleRecall.Json
