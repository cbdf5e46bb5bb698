import GranuleRecall.Proofs.Documents.Records

/-! # What slots are filled with

What a record is read from fills its slots, and each slot is filled by what the document gives to
it: the member of one of the slot's names, or the element at the slot's place. -/

set_option autoImplicit false

namespace GranuleRecall.Json.Record

section

variable {record : Record}

theorem given_append (slot : record.Slot) (members others : List (Option String × Document)) :
    record.given slot (members ++ others) =
      record.given slot members ++ record.given slot others := by
  simp [given]

theorem withoutSlot_append (members others : List (Option String × Document)) :
    record.withoutSlot (members ++ others) =
      record.withoutSlot members ++ record.withoutSlot others := by
  simp [withoutSlot]

theorem isSome_of_slotOf? {name : Option String} {slot : record.Slot}
    (goes : record.slotOf? name = some slot) : name.isSome := by
  cases name with
  | none => cases goes
  | some said => rfl

/-! ## A member between others -/

section

variable {name : Option String} {value : Document} {before after : List (Option String × Document)}

theorem given_between_self {slot : record.Slot} (goes : record.slotOf? name = some slot) :
    record.given slot (before ++ (name, value) :: after) =
      record.given slot before ++ value :: record.given slot after := by
  rw [given_append, record.given_cons_self goes]

theorem given_between_elsewhere {slot other : record.Slot}
    (goes : record.slotOf? name = some slot) (different : other ≠ slot) :
    record.given other (before ++ (name, value) :: after) =
      record.given other (before ++ after) := by
  rw [given_append, given_append, record.given_cons_elsewhere goes different]

theorem given_between_of_none (goesNowhere : record.slotOf? name = none) (slot : record.Slot) :
    record.given slot (before ++ (name, value) :: after) =
      record.given slot (before ++ after) := by
  rw [given_append, given_append]
  exact congrArg _ (congrFun (record.given_cons_of_none goesNowhere) slot)

theorem withoutSlot_between_of_some {slot : record.Slot}
    (goes : record.slotOf? name = some slot) :
    record.withoutSlot (before ++ (name, value) :: after) =
      record.withoutSlot (before ++ after) := by
  rw [withoutSlot_append, withoutSlot_append, record.withoutSlot_cons_of_some goes]

theorem withoutSlot_between_of_none (goesNowhere : record.slotOf? name = none) :
    record.withoutSlot (before ++ (name, value) :: after) =
      record.withoutSlot before ++ (name, value) :: record.withoutSlot after := by
  rw [withoutSlot_append, record.withoutSlot_cons_of_none goesNowhere]

end

/-! ## Members that are read -/

theorem mem_given {slot : record.Slot} {members : List (Option String × Document)}
    {value : Document} (among : value ∈ record.given slot members) :
    ∃ member ∈ members, member.2 = value := by
  obtain ⟨member, found, same⟩ := List.mem_map.mp among
  exact ⟨member, List.mem_of_mem_filter found, same⟩

theorem mem_given_of_mem {slot : record.Slot} {members : List (Option String × Document)}
    {name : Option String} {value : Document} (among : (name, value) ∈ members)
    (goes : record.slotOf? name = some slot) : value ∈ record.given slot members := by
  apply List.mem_map.mpr
  exact ⟨(name, value), List.mem_filter.mpr ⟨among, decide_eq_true goes⟩, rfl⟩

theorem SlotRead.read_of_mem {α : Type} {reads : Document → α → Prop} {before after : Option α}
    {values : List Document} (read : SlotRead reads before values after) {value : Document}
    (among : value ∈ values) : ∃ content, reads value content ∧ after = some content := by
  cases read with
  | missing => cases among
  | once reads =>
      rw [List.mem_singleton.mp among]
      exact ⟨_, reads, rfl⟩

/-- Two members that a slot is read from are the same one. -/
theorem SlotRead.eq_of_mem {slot : record.Slot} {levels : Nat} {readers : record.Readers}
    {before after : Option (record.Content slot)} {members : List (Option String × Document)}
    (read : SlotRead (readers slot levels) before (record.given slot members) after)
    {member other : Option String × Document} (among : member ∈ members)
    (amongToo : other ∈ members) (goes : record.slotOf? member.1 = some slot)
    (goesToo : record.slotOf? other.1 = some slot) : member = other := by
  have inside : member ∈ members.filter fun member => record.slotOf? member.1 = some slot :=
    List.mem_filter.mpr ⟨among, decide_eq_true goes⟩
  have insideToo : other ∈ members.filter fun member => record.slotOf? member.1 = some slot :=
    List.mem_filter.mpr ⟨amongToo, decide_eq_true goesToo⟩
  unfold given at read
  cases found : members.filter fun member => record.slotOf? member.1 = some slot with
  | nil =>
      rw [found] at inside
      cases inside
  | cons first others =>
      rw [found, List.map_cons, slotRead_cons] at read
      rw [found, List.map_eq_nil_iff.mp read.2.1] at inside insideToo
      exact (List.mem_singleton.mp inside).trans (List.mem_singleton.mp insideToo).symm

theorem mem_elementFor {slots : List record.Slot} {elements : List Document} {slot : record.Slot}
    {value : Document} (among : value ∈ elementFor slots elements slot) : value ∈ elements :=
  List.mem_of_getElem? (Option.mem_toList.mp among)

end

section

variable {record : Record} {readers : record.Readers} {α : Type}

theorem eitherReader_zero {build : record.Filled → Except record.Slot α} {document : Document}
    {value : α} : ¬ eitherReader readers build 0 document value := by
  cases document <;> exact id

theorem eitherReader_object {build : record.Filled → Except record.Slot α} {levels : Nat}
    {members : List (Option String × Document)} {value : α} :
    eitherReader readers build levels (.object members) value ↔
      objectReader readers (fun _ => True) .skip (fun filled _ => build filled) levels
        (.object members) value := by
  apply eitherReader_of_ne_array
  intro elements equal
  cases equal

end

section

variable {record : Record} {readers : record.Readers} {levels : Nat}
  {name : Option String} {before after : List (Option String × Document)}
  {value value' : Document} {filled : record.Filled}

theorem SlotRead.put {α : Type} {reads : Document → α → Prop} {old held : Option α}
    {earlier later : List Document} {value value' : Document} {content : α}
    (read : SlotRead reads old (earlier ++ value :: later) held) (reads' : reads value' content) :
    SlotRead reads old (earlier ++ value' :: later) (some content) := by
  cases earlier with
  | nil =>
      obtain ⟨rfl, rfl, _⟩ := slotRead_cons.mp read
      exact .once reads'
  | cons first earlier =>
      obtain ⟨_, noMore, _⟩ := slotRead_cons.mp read
      cases List.append_ne_nil_of_right_ne_nil earlier (List.cons_ne_nil value later) noMore

theorem SlotRead.exists_read {α : Type} {reads : Document → α → Prop} {values : List Document}
    {content : α} (read : SlotRead reads none values (some content)) :
    ∃ value, reads value content := by
  cases read with
  | once reads => exact ⟨_, reads⟩

/-- Another value in the place of the one that a slot is read from. -/
theorem Fits.put {slot : record.Slot} {content : record.Content slot} {old : record.Filled}
    (goes : record.slotOf? name = some slot)
    (fits : record.Fits readers levels old (record.given · (before ++ (name, value) :: after))
      filled)
    (reads : readers slot levels value' content) :
    record.Fits readers levels old (record.given · (before ++ (name, value') :: after))
      (fill filled slot content) := by
  intro other
  have fitsOther := fits other
  dsimp only at fitsOther ⊢
  by_cases same : other = slot
  · subst same
    rw [given_between_self goes] at fitsOther ⊢
    rw [fill_self]
    exact SlotRead.put fitsOther reads
  · rw [given_between_elsewhere goes same] at fitsOther ⊢
    rw [fill_of_ne filled content same]
    exact fitsOther

/-- A document gives a value to a slot: as a member of a name of the slot, or as the element at the
slot's place. -/
inductive Gives (record : Record) (slot : record.Slot) : Document → Document → Prop
  | member {members : List (Option String × Document)} {name : Option String} {value : Document} :
      (name, value) ∈ members → record.slotOf? name = some slot →
      Gives record slot (.object members) value
  | element {elements : List Document} {value : Document} :
      elements[record.slots.idxOf slot]? = some value →
      Gives record slot (.array elements) value

/-- What a document fills slots with is read one level further in, and whatever it gives to a slot
fills it. -/
theorem eitherReader_cases {α : Type} {build : record.Filled → Except record.Slot α}
    {document : Document} {value : α} (read : eitherReader readers build levels document value) :
    ∃ inner filled, levels = inner + 1 ∧ build filled = .ok value ∧
      (∀ slot content, filled slot = some content →
        ∃ within, readers slot inner within content) ∧
      ∀ slot within, record.Gives slot document within →
        ∃ content, filled slot = some content ∧ readers slot inner within content := by
  have reads {inner : Nat} {filled : record.Filled} {values : record.Slot → List Document}
      (fits : record.Fits readers inner record.nothing values filled) (slot : record.Slot)
      (content : record.Content slot) (held : filled slot = some content) :
      ∃ within, readers slot inner within content := by
    have fitsSlot := fits slot
    rw [held] at fitsSlot
    exact SlotRead.exists_read fitsSlot
  by_cases isArray : ∃ elements, document = .array elements
  · obtain ⟨elements, rfl⟩ := isArray
    cases levels with
    | zero => exact (eitherReader_zero read).elim
    | succ inner =>
        obtain ⟨_, filled, fits, built⟩ := read
        refine ⟨inner, filled, rfl, built, reads fits, ?_⟩
        intro slot within given
        cases given with
        | element listed =>
            obtain ⟨content, reads, held⟩ := (fits slot).read_of_mem (Option.mem_toList.mpr listed)
            exact ⟨content, held, reads⟩
  · rw [eitherReader_of_ne_array (not_exists.mp isArray)] at read
    obtain ⟨inner, _, rfl, same, _, _, filled, _, fits, _, built⟩ := objectReader_cases read
    refine ⟨inner, filled, rfl, built, reads fits, ?_⟩
    intro slot within given
    cases given with
    | element _ => cases same
    | member among goes =>
        cases same
        obtain ⟨content, reads, held⟩ := (fits slot).read_of_mem (mem_given_of_mem among goes)
        exact ⟨content, held, reads⟩

end

end GranuleRecall.Json.Record
