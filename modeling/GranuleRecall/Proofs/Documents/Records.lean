import GranuleRecall.Proofs.Documents.Readers

/-! # What records take from documents

An object fits a record when each slot has at most one member, which is read, whatever the order
of the members is. An array fits when each of its elements is read for the slot at its place. -/

set_option autoImplicit false

namespace GranuleRecall.Json.Record

instance (record : Record) : DecidableEq record.Slot :=
  record.slotsEq

/-- What a slot holds after the values given for it, of which there is at most one. -/
inductive SlotRead {α : Type} (reads : Document → α → Prop) :
    Option α → List Document → Option α → Prop
  | missing {before : Option α} : SlotRead reads before [] before
  | once {document : Document} {content : α} :
      reads document content → SlotRead reads none [document] (some content)

section

variable {α : Type} {reads : Document → α → Prop} {before after : Option α}

theorem slotRead_nil : SlotRead reads before [] after ↔ after = before := by
  constructor
  · intro read
    cases read with
    | missing => rfl
  · rintro rfl
    exact .missing

theorem slotRead_cons {value : Document} {others : List Document} :
    SlotRead reads before (value :: others) after ↔
      before = none ∧ others = [] ∧ ∃ content, reads value content ∧ after = some content := by
  constructor
  · intro read
    cases read with
    | once reads => exact ⟨rfl, rfl, _, reads, rfl⟩
  · rintro ⟨rfl, rfl, content, reads, rfl⟩
    exact .once reads

theorem slotRead_some {values : List Document} {content : α} :
    SlotRead reads (some content) values after ↔ values = [] ∧ after = some content := by
  cases values with
  | nil => simp [slotRead_nil]
  | cons value others => simp [slotRead_cons]

end

variable (record : Record)

/-- The slot that members of a name go to. -/
def slotOf? (name : Option String) : Option record.Slot :=
  name.bind record.slot?

/-- The values of the members that go to a slot. -/
def given (slot : record.Slot) (members : List (Option String × Document)) : List Document :=
  (members.filter fun member => record.slotOf? member.1 = some slot).map Prod.snd

def withoutSlot (members : List (Option String × Document)) : List (Option String × Document) :=
  members.filter fun member => (record.slotOf? member.1).isNone

abbrev Readers : Type :=
  (slot : record.Slot) → Reader (record.Content slot)

/-- Each slot that is filled before keeps what it has, and no value is given for it; the others
take what is given for them. -/
def Fits (readers : record.Readers) (levels : Nat) (before : record.Filled)
    (values : record.Slot → List Document) (after : record.Filled) : Prop :=
  ∀ slot, SlotRead (readers slot levels) (before slot) (values slot) (after slot)

def Kept (policy : Others) (levels : Nat) (found : List (String × Json))
    (members : List (Option String × Document)) (kept : List (String × Json)) : Prop :=
  match policy with
  | .skip => kept = found
  | .keep => membersData? levels found (record.withoutSlot members) = some kept

theorem fill_self {record : Record} (filled : record.Filled) (slot : record.Slot)
    (content : record.Content slot) : fill filled slot content slot = some content := by
  unfold fill
  split
  next same _ => rfl
  next different _ => exact absurd rfl different

theorem fill_of_ne {record : Record} (filled : record.Filled) {slot other : record.Slot}
    (content : record.Content slot) (different : other ≠ slot) :
    fill filled slot content other = filled other := by
  unfold fill
  split
  next same _ => exact absurd same different
  next => rfl

section

variable {record} {readers : record.Readers} {levels : Nat} {before after : record.Filled}

theorem fits_nil : record.Fits readers levels before (fun _ => []) after ↔ after = before := by
  simp only [Fits, slotRead_nil]
  exact funext_iff.symm

/-- A value for an empty slot is read before the others. -/
theorem fits_cons {slot : record.Slot} {value : Document}
    {values others : record.Slot → List Document} (first : values slot = value :: others slot)
    (rest : ∀ other, other ≠ slot → values other = others other) :
    record.Fits readers levels before values after ↔
      before slot = none ∧ ∃ content, readers slot levels value content ∧
        record.Fits readers levels (fill before slot content) others after := by
  constructor
  · intro fits
    have read := fits slot
    rw [first, slotRead_cons] at read
    obtain ⟨empty, noMore, content, reads, filled⟩ := read
    refine ⟨empty, content, reads, fun other => ?_⟩
    by_cases same : other = slot
    · subst same
      rw [fill_self, slotRead_some]
      exact ⟨noMore, filled⟩
    · rw [fill_of_ne before content same, ← rest other same]
      exact fits other
  · rintro ⟨empty, content, reads, fits⟩ other
    by_cases same : other = slot
    · subst same
      have read := fits other
      rw [fill_self, slotRead_some] at read
      rw [first, slotRead_cons]
      exact ⟨empty, read.1, content, reads, read.2⟩
    · have read := fits other
      rw [fill_of_ne before content same] at read
      rw [rest other same]
      exact read

end

/-! ## Objects -/

section

variable {name : Option String} {value : Document} {members : List (Option String × Document)}

theorem given_cons_self {slot : record.Slot} (goes : record.slotOf? name = some slot) :
    record.given slot ((name, value) :: members) = value :: record.given slot members := by
  simp [given, goes]

theorem given_cons_of_ne {slot : record.Slot} (goesNot : record.slotOf? name ≠ some slot) :
    record.given slot ((name, value) :: members) = record.given slot members := by
  simp [given, goesNot]

theorem given_cons_elsewhere {slot other : record.Slot} (goes : record.slotOf? name = some slot)
    (different : other ≠ slot) :
    record.given other ((name, value) :: members) = record.given other members := by
  apply record.given_cons_of_ne
  rw [goes]
  exact fun same => different (Option.some.inj same).symm

theorem withoutSlot_cons_of_some {slot : record.Slot} (goes : record.slotOf? name = some slot) :
    record.withoutSlot ((name, value) :: members) = record.withoutSlot members := by
  simp [withoutSlot, goes]

theorem withoutSlot_cons_of_none (goesNowhere : record.slotOf? name = none) :
    record.withoutSlot ((name, value) :: members) =
      (name, value) :: record.withoutSlot members := by
  simp [withoutSlot, goesNowhere]

theorem given_cons_of_none (goesNowhere : record.slotOf? name = none) :
    (record.given · ((name, value) :: members)) = (record.given · members) := by
  funext slot
  exact record.given_cons_of_ne (by rw [goesNowhere]; exact Option.some_ne_none slot ∘ Eq.symm)

end

section

variable {record} {readers : record.Readers} {levels : Nat} {before after : record.Filled}
  {name : Option String} {value : Document} {members : List (Option String × Document)}
  {policy : Others} {found kept : List (String × Json)}

theorem fits_given_cons {slot : record.Slot} (goes : record.slotOf? name = some slot) :
    record.Fits readers levels before (record.given · ((name, value) :: members)) after ↔
      before slot = none ∧ ∃ content, readers slot levels value content ∧
        record.Fits readers levels (fill before slot content) (record.given · members) after := by
  apply fits_cons (record.given_cons_self goes)
  intro other different
  exact record.given_cons_elsewhere goes different

theorem kept_nil : record.Kept policy levels found [] kept ↔ kept = found := by
  cases policy with
  | skip => exact Iff.rfl
  | keep => exact Option.some_inj.trans eq_comm

theorem kept_cons_of_some {slot : record.Slot} (goes : record.slotOf? name = some slot) :
    record.Kept policy levels found ((name, value) :: members) kept ↔
      record.Kept policy levels found members kept := by
  cases policy with
  | skip => exact Iff.rfl
  | keep => simp only [Kept, record.withoutSlot_cons_of_some goes]

theorem kept_keep_cons {said : String} (goesNowhere : record.slotOf? (some said) = none) :
    record.Kept .keep levels found ((some said, value) :: members) kept ↔
      ∃ element, value.data? levels = some element ∧
        record.Kept .keep levels (insertMember said element found) members kept := by
  simp only [Kept, record.withoutSlot_cons_of_none goesNowhere, membersData?,
    Option.bind_eq_bind, Option.bind_some, Option.bind_eq_some_iff]

end

/-! ## One member -/

section

variable {record} {policy : Others} {levels : Nat} {before : record.Filled}
  {found : List (String × Json)} {name : String} {named : Position} {value : Tree}
  {remaining : Members} {result : record.Found}

theorem takeMembers_of_slot {slot : record.Slot} (goes : record.slot? name = some slot) :
    record.takeMembers policy levels before found (.member (.ok name) named value remaining) =
        .ok result ↔
      before slot = none ∧ ∃ content, record.decode slot levels value = .ok content ∧
        record.takeMembers policy levels (fill before slot content) found remaining =
          .ok result := by
  simp only [takeMembers, goes]
  by_cases empty : before slot = none
  · simp only [empty, Option.isSome_none, Bool.false_eq_true, if_false, true_and]
    cases record.decode slot levels value with
    | error problem => simp
    | ok content => simp
  · simp [empty, Option.isSome_iff_ne_none.mpr empty]

theorem takeMembers_skip (goesNowhere : record.slot? name = none) (skipped : value.skip = .ok ()) :
    record.takeMembers .skip levels before found (.member (.ok name) named value remaining) =
      record.takeMembers .skip levels before found remaining := by
  simp only [takeMembers, goesNowhere, skipped]

theorem takeMembers_keep (goesNowhere : record.slot? name = none) :
    record.takeMembers .keep levels before found (.member (.ok name) named value remaining) =
        .ok result ↔
      ∃ element, (value.data levels).toOption = some element ∧
        record.takeMembers .keep levels before (insertMember name element found) remaining =
          .ok result := by
  simp only [takeMembers, goesNowhere]
  cases value.data levels with
  | error problem => simp [Except.toOption]
  | ok element => simp [Except.toOption]

end

/-! ## All members -/

section

variable {record} {readers : record.Readers}
  (agrees : ∀ slot, (record.decode slot).Agrees (readers slot))

include agrees

theorem takeMembers_iff {policy : Others} {levels : Nat} {shown : Members}
    {members : List (Option String × Document)} (shows : shown.Shows members)
    {before after : record.Filled} {found kept : List (String × Json)} :
    (∃ ending, record.takeMembers policy levels before found shown = .ok ⟨after, kept, ending⟩) ↔
      (∀ member ∈ members, member.1.isSome) ∧
        record.Fits readers levels before (record.given · members) after ∧
          record.Kept policy levels found members kept := by
  induction members generalizing shown before found with
  | nil =>
      cases shows with
      | close =>
          have empty : (record.given · []) = fun _ => [] := rfl
          rw [empty, fits_nil, kept_nil]
          constructor
          · rintro ⟨ending, taken⟩
            cases taken
            exact ⟨List.forall_mem_nil _, rfl, rfl⟩
          · rintro ⟨_, rfl, rfl⟩
            exact ⟨_, rfl⟩
  | cons member members ih =>
      cases shows with
      | @member read name _ _ value remaining _ same showsValue shows =>
          subst same
          cases read with
          | error problem => simp [takeMembers, Except.toOption]
          | ok name =>
              have slotOf : record.slotOf? (some name) = record.slot? name := rfl
              have named : (∀ member ∈ (some name, value) :: members, member.1.isSome) ↔
                  ∀ member ∈ members, member.1.isSome :=
                List.forall_mem_cons.trans (and_iff_right rfl)
              have said : (Except.ok name : Except Problem String).toOption = some name := rfl
              rw [said, named]
              cases goes : record.slot? name with
              | some slot =>
                  rw [goes] at slotOf
                  rw [fits_given_cons slotOf, kept_cons_of_some slotOf]
                  simp only [takeMembers_of_slot goes]
                  constructor
                  · rintro ⟨ending, empty, content, read, taken⟩
                    obtain ⟨named, fits, keeps⟩ := (ih shows).mp ⟨ending, taken⟩
                    exact ⟨named, ⟨empty, content, (agrees slot showsValue).mp read, fits⟩, keeps⟩
                  · rintro ⟨named, ⟨empty, content, reads, fits⟩, keeps⟩
                    obtain ⟨ending, taken⟩ := (ih shows).mpr ⟨named, fits, keeps⟩
                    exact ⟨ending, empty, content, (agrees slot showsValue).mpr reads, taken⟩
              | none =>
                  rw [goes] at slotOf
                  rw [record.given_cons_of_none slotOf]
                  cases policy with
                  | skip =>
                      simp only [takeMembers_skip goes showsValue.skip]
                      exact ih shows
                  | keep =>
                      rw [kept_keep_cons slotOf, ← showsValue.data levels]
                      simp only [takeMembers_keep goes]
                      constructor
                      · rintro ⟨ending, element, read, taken⟩
                        obtain ⟨named, fits, keeps⟩ := (ih shows).mp ⟨ending, taken⟩
                        exact ⟨named, fits, element, read, keeps⟩
                      · rintro ⟨named, fits, element, read, keeps⟩
                        obtain ⟨ending, taken⟩ := (ih shows).mpr ⟨named, fits, keeps⟩
                        exact ⟨ending, element, read, taken⟩

end

section

variable {record}

/-- What an object means: its members fill the slots, and those without a slot are sound. -/
def objectReader {α : Type} (readers : record.Readers)
    (sound : List (Option String × Document) → Prop) (policy : Others)
    (build : record.Filled → List (String × Json) → Except record.Slot α) : Reader α
  | levels + 1, .object members, value =>
    (∀ member ∈ members, member.1.isSome) ∧ sound (record.withoutSlot members) ∧
      ∃ filled kept, record.Fits readers levels record.nothing (record.given · members) filled ∧
        record.Kept policy levels [] members kept ∧ build filled kept = .ok value
  | _, _, _ => False

theorem objectReader_cases {α : Type} {readers : record.Readers}
    {sound : List (Option String × Document) → Prop} {policy : Others}
    {build : record.Filled → List (String × Json) → Except record.Slot α} {levels : Nat}
    {document : Document} {value : α}
    (read : objectReader readers sound policy build levels document value) :
    ∃ inner members, levels = inner + 1 ∧ document = .object members ∧
      (∀ member ∈ members, member.1.isSome) ∧ sound (record.withoutSlot members) ∧
        ∃ filled kept, record.Fits readers inner record.nothing (record.given · members) filled ∧
          record.Kept policy inner [] members kept ∧ build filled kept = .ok value := by
  unfold objectReader at read
  split at read
  next inner members value => exact ⟨_, _, rfl, rfl, read⟩
  next => exact read.elim

/-- The elements that come for a slot when the given slots are taken in order. -/
def elementFor (slots : List record.Slot) (elements : List Document) (slot : record.Slot) :
    List Document :=
  elements[slots.idxOf slot]?.toList

/-- What an object, or an array of the fields in the order of declaration, means. -/
def eitherReader {α : Type} (readers : record.Readers)
    (build : record.Filled → Except record.Slot α) : Reader α
  | levels + 1, .array elements, value =>
    elements.length ≤ record.slots.length ∧
      ∃ filled, record.Fits readers levels record.nothing (elementFor record.slots elements)
        filled ∧ build filled = .ok value
  | levels, document, value =>
    objectReader readers (fun _ => True) .skip (fun filled _ => build filled) levels document value

theorem mapError_eq_ok {ε φ α : Type} {outcome : Except ε α} {change : ε → φ} {value : α} :
    outcome.mapError change = .ok value ↔ outcome = .ok value := by
  cases outcome with
  | error problem => simp [Except.mapError]
  | ok read => simp [Except.mapError]

variable {readers : record.Readers} (agrees : ∀ slot, (record.decode slot).Agrees (readers slot))

include agrees

theorem decodeObject_agrees {α : Type} (policy : Others)
    (build : record.Filled → List (String × Json) → Except record.Slot α) :
    (record.decodeObject policy build).Agrees
      (objectReader readers (fun _ => True) policy build) := by
  intro levels tree document value shows
  cases shows with
  | object members =>
      cases levels with
      | zero => simp [decodeObject, objectReader]
      | succ levels =>
          simp only [decodeObject, objectReader, true_and, bind_eq_ok, mapError_eq_ok]
          constructor
          · rintro ⟨⟨filled, kept, ending⟩, taken, built⟩
            obtain ⟨named, fits, keeps⟩ := (takeMembers_iff agrees members).mp ⟨ending, taken⟩
            exact ⟨named, filled, kept, fits, keeps, built⟩
          · rintro ⟨named, filled, kept, fits, keeps, built⟩
            obtain ⟨ending, taken⟩ := (takeMembers_iff agrees members).mpr ⟨named, fits, keeps⟩
            exact ⟨_, taken, built⟩
  | null => simp [decodeObject, objectReader]
  | bool => simp [decodeObject, objectReader]
  | number _ => simp [decodeObject, objectReader]
  | text _ => simp [decodeObject, objectReader]
  | array _ => simp [decodeObject, objectReader]

/-! ## Arrays of fields -/

omit agrees in
theorem elementFor_nil (slots : List record.Slot) : elementFor slots [] = fun _ => [] := by
  funext slot
  simp [elementFor]

omit agrees in
theorem elementFor_of_notMem {slots : List record.Slot} {elements : List Document}
    (room : elements.length ≤ slots.length) {slot : record.Slot} (missing : slot ∉ slots) :
    elementFor slots elements slot = [] := by
  rw [elementFor, List.idxOf_eq_length missing, List.getElem?_eq_none room]
  rfl

omit agrees in
theorem fits_elementFor_cons {slot : record.Slot} {slots : List record.Slot}
    (distinct : (slot :: slots).Nodup) {value : Document} {elements : List Document}
    (room : elements.length ≤ slots.length) {levels : Nat} {before after : record.Filled} :
    record.Fits readers levels before (elementFor (slot :: slots) (value :: elements)) after ↔
      before slot = none ∧ ∃ content, readers slot levels value content ∧
        record.Fits readers levels (fill before slot content) (elementFor slots elements)
          after := by
  have missing : slot ∉ slots := (List.nodup_cons.mp distinct).1
  refine fits_cons ?_ fun other different => ?_
  · rw [elementFor_of_notMem room missing]
    simp [elementFor]
  · simp only [elementFor, List.idxOf_cons_ne _ different.symm, Nat.succ_eq_add_one,
      List.getElem?_cons_succ]

theorem takeItems_iff {slots : List record.Slot} (distinct : slots.Nodup) {levels : Nat}
    {items : Items} {elements : List Document} (shows : items.Shows elements)
    {before after : record.Filled} (empty : ∀ slot ∈ slots, before slot = none) :
    (∃ ending, record.takeItems levels before slots items = .ok (after, ending)) ↔
      elements.length ≤ slots.length ∧
        record.Fits readers levels before (elementFor slots elements) after := by
  induction slots generalizing items elements before with
  | nil =>
      cases shows with
      | close =>
          rw [elementFor_nil, fits_nil]
          constructor
          · rintro ⟨ending, taken⟩
            cases taken
            exact ⟨Nat.le_refl _, rfl⟩
          · rintro ⟨_, rfl⟩
            exact ⟨_, rfl⟩
      | item _ _ => simp [takeItems, endOfFields, Except.map]
  | cons slot slots ih =>
      cases shows with
      | close =>
          rw [elementFor_nil, fits_nil]
          constructor
          · rintro ⟨ending, taken⟩
            cases taken
            exact ⟨Nat.zero_le _, rfl⟩
          · rintro ⟨_, rfl⟩
            exact ⟨_, rfl⟩
      | item value remaining =>
          have distinctRest := (List.nodup_cons.mp distinct).2
          have emptyRest (content : record.Content slot) (other : record.Slot)
              (among : other ∈ slots) : fill before slot content other = none := by
            rw [fill_of_ne before content fun same =>
              (List.nodup_cons.mp distinct).1 (same ▸ among)]
            exact empty other (List.mem_cons_of_mem slot among)
          simp only [takeItems, List.length_cons, Nat.add_le_add_iff_right]
          constructor
          · rintro ⟨ending, taken⟩
            split at taken
            next => cases taken
            next content read =>
              obtain ⟨room, fits⟩ :=
                (ih distinctRest remaining (emptyRest content)).mp ⟨ending, taken⟩
              refine ⟨room, (fits_elementFor_cons distinct room).mpr ?_⟩
              exact ⟨empty slot List.mem_cons_self, content, (agrees slot value).mp read, fits⟩
          · rintro ⟨room, fits⟩
            obtain ⟨_, content, reads, fits⟩ := (fits_elementFor_cons distinct room).mp fits
            rw [(agrees slot value).mpr reads]
            exact (ih distinctRest remaining (emptyRest content)).mpr ⟨room, fits⟩

omit agrees in
theorem eitherReader_of_ne_array {α : Type} {build : record.Filled → Except record.Slot α}
    {levels : Nat} {document : Document} (notArray : ∀ elements, document ≠ .array elements)
    {value : α} :
    eitherReader readers build levels document value ↔
      objectReader readers (fun _ => True) .skip (fun filled _ => build filled) levels document
        value := by
  cases document with
  | array elements => exact absurd rfl (notArray elements)
  | object _ => cases levels <;> exact Iff.rfl
  | null => cases levels <;> exact Iff.rfl
  | bool _ => cases levels <;> exact Iff.rfl
  | number _ => cases levels <;> exact Iff.rfl
  | text _ => cases levels <;> exact Iff.rfl

omit agrees in
theorem decodeEither_of_ne_array {α : Type} {build : record.Filled → Except record.Slot α}
    {levels : Nat} {tree : Tree} (notArray : ∀ opening items, tree ≠ .array opening items) :
    record.decodeEither build levels tree =
      record.decodeObject .skip (fun filled _ => build filled) levels tree := by
  cases tree with
  | array opening items => exact absurd rfl (notArray opening items)
  | object _ _ => cases levels <;> rfl
  | null _ => cases levels <;> rfl
  | bool _ _ => cases levels <;> rfl
  | number _ _ => cases levels <;> rfl
  | text _ _ => cases levels <;> rfl
  | broken _ => cases levels <;> rfl

theorem decodeEither_agrees {α : Type} (distinct : record.slots.Nodup)
    (build : record.Filled → Except record.Slot α) :
    (record.decodeEither build).Agrees (eitherReader readers build) := by
  intro levels tree document value shows
  by_cases isArray : ∃ elements, document = .array elements
  · obtain ⟨elements, rfl⟩ := isArray
    cases shows with
    | array items =>
        cases levels with
        | zero => simp [decodeEither, eitherReader, objectReader]
        | succ levels =>
            have taken_iff (filled : record.Filled) :
                (∃ ending, record.takeItems levels record.nothing record.slots _ =
                    .ok (filled, ending)) ↔ _ :=
              takeItems_iff agrees distinct items fun _ _ => rfl
            simp only [decodeEither, eitherReader, bind_eq_ok, mapError_eq_ok]
            constructor
            · rintro ⟨⟨filled, ending⟩, taken, built⟩
              obtain ⟨room, fits⟩ := (taken_iff filled).mp ⟨ending, taken⟩
              exact ⟨room, filled, fits, built⟩
            · rintro ⟨room, filled, fits, built⟩
              obtain ⟨ending, taken⟩ := (taken_iff filled).mpr ⟨room, fits⟩
              exact ⟨_, taken, built⟩
  · have notArray := not_exists.mp isArray
    rw [eitherReader_of_ne_array notArray, decodeEither_of_ne_array]
    · exact decodeObject_agrees agrees .skip _ shows
    · rintro opening items rfl
      cases shows with
      | array _ => exact notArray _ rfl

end

end GranuleRecall.Json.Record
