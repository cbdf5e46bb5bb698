import GranuleRecall.Proofs.Documents.Edits

/-! # Edits of events

The edits that the records of an event do not notice, down to the files of its granules. -/

set_option autoImplicit false

namespace GranuleRecall

open Json

theorem Json.Reader.Respects.mono {α : Type} {reader : Reader α} {least more : Nat}
    {related : Document → Document → Prop} (respects : reader.Respects least related)
    (enough : least ≤ more) : reader.Respects more related := by
  intro levels room
  exact respects (enough.trans room)

theorem Json.Reader.respects_false {α : Type} (reader : Reader α) (least : Nat) :
    reader.Respects least fun _ _ => False := by
  intro levels room document other impossible
  exact impossible.elim

theorem Json.Reader.text_iff (levels : Nat) {content read : String} :
    Reader.text levels (.text (some content)) read ↔ read = content := by
  rw [Reader.text, Document.text.injEq, Option.some.injEq, eq_comm]

theorem Json.Reader.bool_iff (levels : Nat) {value read : Bool} :
    Reader.bool levels (.bool value) read ↔ read = value := by
  rw [Reader.bool, Document.bool.injEq, eq_comm]

theorem Json.Reader.orNull_iff {α : Type} (reader : Reader α) (levels : Nat) {read : Option α} :
    reader.orNull levels .null read ↔ read = none := by
  simp [Reader.orNull]

theorem Json.Reader.list_iff {α : Type} (reader : Reader α) {levels : Nat} {read : List α}
    (room : 0 < levels) : reader.list levels (.array []) read ↔ read = [] := by
  obtain ⟨levels, rfl⟩ := Nat.exists_eq_succ_of_ne_zero (Nat.ne_of_gt room)
  exact List.forall₂_nil_left_iff

/-- Two slots hold the same where the default is taken for what is missing. -/
def SameOrDefault {α : Type} (default : α) (held other : Option α) : Prop :=
  held = other ∨ held = some default ∧ other = none

theorem SameOrDefault.getD_eq {α : Type} {default : α} {held other : Option α}
    (same : SameOrDefault default held other) : held.getD default = other.getD default := by
  rcases same with rfl | ⟨rfl, rfl⟩
  · rfl
  · rfl

/-! ## Reordering -/

section

variable {α : Type}

theorem Json.Reader.text_reordered : Reader.text.Respects 0 Document.Reordered := by
  intro levels room document reordered same value
  cases same with
  | members _ => simp [Reader.text]
  | element _ => simp [Reader.text]
  | member _ => simp [Reader.text]

theorem Json.Reader.bool_reordered : Reader.bool.Respects 0 Document.Reordered := by
  intro levels room document reordered same value
  cases same with
  | members _ => simp [Reader.bool]
  | element _ => simp [Reader.bool]
  | member _ => simp [Reader.bool]

variable {reader : Reader α} (respects : reader.Respects 0 Document.Reordered)

include respects

theorem Json.Reader.orNull_reordered : reader.orNull.Respects 0 Document.Reordered := by
  intro levels room document reordered same value
  have inside := respects room same
  cases same with
  | members _ => simp [Reader.orNull, inside]
  | element _ => simp [Reader.orNull, inside]
  | member _ => simp [Reader.orNull, inside]

theorem Json.Reader.list_reordered : reader.list.Respects 0 Document.Reordered := by
  intro levels room document reordered same values
  cases levels with
  | zero => exact iff_of_false id id
  | succ levels =>
      cases same with
      | members _ => exact Iff.rfl
      | member _ => exact Iff.rfl
      | element same => exact forall₂_replace (respects (Nat.zero_le _) same) _ _ values

end

namespace RequestedFile

theorem reader_reordered : reader.Respects 0 Document.Reordered :=
  Record.eitherReader_reordered (fun _ => Reader.text_reordered) build

def Edited : Document → Document → Prop :=
  Record.Edited record .skip (fun _ _ _ => False) fun _ _ => False

theorem reader_edited : reader.Respects 1 Edited := by
  apply Record.eitherReader_edited
  · intro slot
    exact Reader.respects_false _ 0
  · intro levels room slot value impossible
    exact impossible.elim

end RequestedFile

namespace FileResult

theorem reader_reordered : reader.Respects 0 Document.Reordered := by
  apply Record.eitherReader_reordered
  intro slot
  cases slot with
  | key => exact Reader.text_reordered
  | destination => exact Reader.text_reordered
  | accepted => exact Reader.bool_reordered
  | rejection => exact Reader.text_reordered

inductive IsDefault : Slot → Document → Prop
  | accepted : IsDefault .accepted (.bool false)
  | rejection : IsDefault .rejection (.text (some ""))

def Edited : Document → Document → Prop :=
  Record.Edited record .skip (fun _ _ _ => False) IsDefault

theorem build_congr {filled filled' : record.Filled} (key : filled .key = filled' .key)
    (destination : filled .destination = filled' .destination)
    (accepted : SameOrDefault false (filled .accepted) (filled' .accepted))
    (rejection : SameOrDefault "" (filled .rejection) (filled' .rejection)) :
    build filled = build filled' := by
  unfold build Record.required
  rw [key, destination]
  cases filled' .key with
  | none => rfl
  | some key =>
      cases filled' .destination with
      | none => rfl
      | some destination =>
          let built (accepted : Bool) (rejection : String) : Except record.Slot FileResult :=
            .ok ⟨key, destination, accepted, rejection⟩
          exact congrArg₂ built accepted.getD_eq rejection.getD_eq

theorem reader_edited : reader.Respects 1 Edited := by
  apply Record.eitherReader_edited
  · intro slot
    exact Reader.respects_false _ 0
  · intro levels _ slot value isDefault
    cases isDefault with
    | accepted =>
        refine ⟨false, fun _ => Reader.bool_iff levels, ?_⟩
        intro filled _ empty
        apply build_congr
        · exact Record.fill_of_ne filled _ nofun
        · exact Record.fill_of_ne filled _ nofun
        · exact .inr ⟨Record.fill_self filled _ _, empty⟩
        · exact .inl (Record.fill_of_ne filled _ nofun)
    | rejection =>
        refine ⟨"", fun _ => Reader.text_iff levels, ?_⟩
        intro filled _ empty
        apply build_congr
        · exact Record.fill_of_ne filled _ nofun
        · exact Record.fill_of_ne filled _ nofun
        · exact .inl (Record.fill_of_ne filled _ nofun)
        · exact .inr ⟨Record.fill_self filled _ _, empty⟩

end FileResult

namespace Granule

theorem reader_reordered : (reader DistinctMembers).Respects 0 Document.Reordered := by
  refine Record.objectReader_reordered (fun slot => ?_) .keep
  cases slot with
  | id => exact Reader.text_reordered
  | requested => exact Reader.list_reordered RequestedFile.reader_reordered
  | results => exact Reader.list_reordered FileResult.reader_reordered

def EditedInside : Slot → Document → Document → Prop
  | .id => fun _ _ => False
  | .requested => Document.InElement RequestedFile.Edited
  | .results => Document.InElement FileResult.Edited

inductive IsDefault : Slot → Document → Prop
  | requested : IsDefault .requested (.array [])
  | results : IsDefault .results (.array [])

/-- A granule keeps the members that it has no slot for, so none of these may come or go. -/
def Edited : Document → Document → Prop :=
  Record.Edited record .keep EditedInside IsDefault

theorem build_congr {filled filled' : record.Filled} {kept : List (String × Json)}
    (id : filled .id = filled' .id)
    (requested : SameOrDefault [] (filled .requested) (filled' .requested))
    (results : SameOrDefault [] (filled .results) (filled' .results)) :
    build filled kept = build filled' kept := by
  unfold build Record.required
  rw [id]
  cases filled' .id with
  | none => rfl
  | some id =>
      let built (requested : List RequestedFile) (results : List FileResult) :
          Except record.Slot Granule := .ok ⟨id, requested, results, kept⟩
      exact congrArg₂ built requested.getD_eq results.getD_eq

theorem reader_edited (sound : KeptCondition) : (reader sound).Respects 3 Edited := by
  apply Record.objectReader_edited
  · intro slot
    cases slot with
    | id => exact Reader.respects_false _ 2
    | requested => exact RequestedFile.reader_edited.list
    | results => exact FileResult.reader_edited.list
  · intro levels room slot value isDefault
    cases isDefault with
    | requested =>
        refine ⟨[], fun _ => Reader.list_iff _ (Nat.zero_lt_of_lt room), ?_⟩
        intro filled kept empty
        apply build_congr
        · exact Record.fill_of_ne filled _ nofun
        · exact .inr ⟨Record.fill_self filled _ _, empty⟩
        · exact .inl (Record.fill_of_ne filled _ nofun)
    | results =>
        refine ⟨[], fun _ => Reader.list_iff _ (Nat.zero_lt_of_lt room), ?_⟩
        intro filled kept empty
        apply build_congr
        · exact Record.fill_of_ne filled _ nofun
        · exact .inl (Record.fill_of_ne filled _ nofun)
        · exact .inr ⟨Record.fill_self filled _ _, empty⟩
  · intro isSkip
    cases isSkip

end Granule

namespace Request

/-! ## The configuration of an event -/

theorem bucketReader_reordered : bucketReader.Respects 0 Document.Reordered :=
  Record.eitherReader_reordered (fun _ => Reader.orNull_reordered Reader.text_reordered) buildBucket

inductive IsDefaultBucket : BucketSlot → Document → Prop
  | bucket : IsDefaultBucket .bucket .null

def BucketEdited : Document → Document → Prop :=
  Record.Edited bucketRecord .skip (fun _ _ _ => False) IsDefaultBucket

theorem bucketReader_edited : bucketReader.Respects 1 BucketEdited := by
  apply Record.eitherReader_edited
  · intro slot
    exact Reader.respects_false _ 0
  · intro levels _ slot value isDefault
    cases isDefault with
    | bucket =>
        refine ⟨none, fun _ => Reader.orNull_iff _ levels, ?_⟩
        intro filled _ empty
        have same : SameOrDefault none (Record.fill filled .bucket none .bucket)
            (filled .bucket) := .inr ⟨Record.fill_self filled _ _, empty⟩
        exact congrArg Except.ok same.getD_eq

/-! ## The input of an event -/

theorem inputReader_reordered :
    (inputReader DistinctMembers).Respects 0 Document.Reordered := by
  refine Record.eitherReader_reordered (fun slot => ?_) buildInput
  cases slot with
  | granules => exact Reader.list_reordered Granule.reader_reordered
  | jobId => exact Reader.orNull_reordered Reader.text_reordered

def InputEditedInside : InputSlot → Document → Document → Prop
  | .granules => Document.InElement Granule.Edited
  | .jobId => fun _ _ => False

inductive IsDefaultInput : InputSlot → Document → Prop
  | granules : IsDefaultInput .granules (.array [])
  | jobId : IsDefaultInput .jobId .null

def InputEdited : Document → Document → Prop :=
  Record.Edited inputRecord .skip InputEditedInside IsDefaultInput

theorem buildInput_congr {filled filled' : inputRecord.Filled}
    (granules : SameOrDefault [] (filled .granules) (filled' .granules))
    (jobId : SameOrDefault none (filled .jobId) (filled' .jobId)) :
    buildInput filled = buildInput filled' := by
  let built (granules : List Granule) (jobId : Option String) :
      Except inputRecord.Slot (List Granule × Option String) := .ok (granules, jobId)
  exact congrArg₂ built granules.getD_eq jobId.getD_eq

theorem inputReader_edited (sound : KeptCondition) :
    (inputReader sound).Respects 5 InputEdited := by
  apply Record.eitherReader_edited
  · intro slot
    cases slot with
    | granules => exact (Granule.reader_edited sound).list
    | jobId => exact Reader.respects_false _ 4
  · intro levels room slot value isDefault
    cases isDefault with
    | granules =>
        refine ⟨[], fun _ => Reader.list_iff _ (Nat.zero_lt_of_lt room), ?_⟩
        intro filled _ empty
        apply buildInput_congr
        · exact .inr ⟨Record.fill_self filled _ _, empty⟩
        · exact .inl (Record.fill_of_ne filled _ nofun)
    | jobId =>
        refine ⟨none, fun _ => Reader.orNull_iff _ levels, ?_⟩
        intro filled _ empty
        apply buildInput_congr
        · exact .inl (Record.fill_of_ne filled _ nofun)
        · exact .inr ⟨Record.fill_self filled _ _, empty⟩

/-! ## Events -/

theorem reader_reordered : (reader DistinctMembers).Respects 0 Document.Reordered := by
  refine Record.eitherReader_reordered (fun slot => ?_) build
  cases slot with
  | configuration => exact bucketReader_reordered
  | input => exact inputReader_reordered

def EditedInside : Slot → Document → Document → Prop
  | .configuration => BucketEdited
  | .input => InputEdited

def Edited : Document → Document → Prop :=
  Record.Edited record .skip EditedInside fun _ _ => False

theorem reader_edited (sound : KeptCondition) : (reader sound).Respects 6 Edited := by
  apply Record.eitherReader_edited
  · intro slot
    cases slot with
    | configuration => exact bucketReader_edited.mono (by decide)
    | input => exact inputReader_edited sound
  · intro levels room slot value impossible
    exact impossible.elim

end Request

end GranuleRecall
