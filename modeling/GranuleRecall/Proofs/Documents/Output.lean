import GranuleRecall.Proofs.Documents.Requests
import GranuleRecall.Proofs.Documents.Reread
import GranuleRecall.Proofs.Documents.Slots

/-! # Granules are read as they are written

What the document of a printed granule means. A granule that was read keeps no member that it has a
slot for, so nothing is given to a slot twice when it is read again. -/

set_option autoImplicit false

namespace GranuleRecall

open Json

/-! ## Records -/

namespace Json.Record

variable {record : Record} {readers : record.Readers} {levels : Nat} {filled : record.Filled}

/-- Members that have no slot. -/
def HasNoSlots (record : Record) (members : List (String × Json)) : Prop :=
  ∀ member ∈ members, record.slotOf? (some member.1) = none

theorem given_memberDocuments {members : List (String × Json)}
    (noSlots : record.HasNoSlots members) :
    (record.given · (memberDocuments members)) = fun _ => [] := by
  induction members with
  | nil => rfl
  | cons member remaining ih =>
      obtain ⟨goesNowhere, others⟩ := List.forall_mem_cons.mp noSlots
      rw [memberDocuments, record.given_cons_of_none goesNowhere, ih others]

theorem withoutSlot_memberDocuments {members : List (String × Json)}
    (noSlots : record.HasNoSlots members) :
    record.withoutSlot (memberDocuments members) = memberDocuments members := by
  induction members with
  | nil => rfl
  | cons member remaining ih =>
      obtain ⟨goesNowhere, others⟩ := List.forall_mem_cons.mp noSlots
      rw [memberDocuments, record.withoutSlot_cons_of_none goesNowhere, ih others]

theorem hasNoSlots_of_membersData? {members : List (Option String × Document)}
    {found kept : List (String × Json)} (noSlots : record.HasNoSlots found)
    (read : membersData? levels found (record.withoutSlot members) = some kept) :
    record.HasNoSlots kept := by
  induction members generalizing found with
  | nil =>
      cases read
      exact noSlots
  | cons member remaining ih =>
      obtain ⟨name, value⟩ := member
      cases goes : record.slotOf? name with
      | some slot =>
          rw [record.withoutSlot_cons_of_some goes] at read
          exact ih noSlots read
      | none =>
          rw [record.withoutSlot_cons_of_none goes] at read
          obtain ⟨said, same, rest⟩ := Option.bind_eq_some_iff.mp read
          obtain ⟨element, _, readOthers⟩ := Option.bind_eq_some_iff.mp rest
          cases same
          refine ih ?_ readOthers
          intro member among
          rcases mem_insertMember among with rfl | old
          · exact goes
          · exact noSlots member old

/-- The readers of a record read printed members by what fits its slots. -/
theorem eitherReader_of_fits {α : Type} {build : record.Filled → Except record.Slot α}
    {members : List (String × Json)} {value : α}
    (fits : record.Fits readers levels record.nothing
      (record.given · (memberDocuments members)) filled)
    (built : build filled = .ok value) :
    eitherReader readers build (levels + 1) (Json.object members).document value :=
  eitherReader_object.mpr ⟨named_memberDocuments members, trivial, filled, _, fits, rfl, built⟩

end Json.Record

theorem Json.Reader.list_document {α : Type} {reader : Reader α} {levels : Nat} {write : α → Json}
    (reads : ∀ value, reader levels (write value).document value) (values : List α) :
    reader.list (levels + 1) (Json.array (values.map write)).document values := by
  have each : List.Forall₂ (reader levels) (elementDocuments (values.map write)) values := by
    induction values with
    | nil => exact .nil
    | cons value values ih => exact .cons (reads value) ih
  exact each

theorem Json.exists_of_forall₂ {α : Type} {reads : Document → α → Prop}
    {elements : List Document} {values : List α} (each : List.Forall₂ reads elements values)
    {value : α} (listed : value ∈ values) : ∃ element, reads element value := by
  induction each with
  | nil => cases listed
  | @cons element _ _ _ first _ ih =>
      rcases List.mem_cons.mp listed with rfl | later
      · exact ⟨element, first⟩
      · exact ih later

/-! ## Files -/

theorem RequestedFile.reader_toJson (levels : Nat) (file : RequestedFile) :
    reader (levels + 1) file.toJson.document file := by
  have fits : record.Fits readers levels record.nothing
      (record.given · (memberDocuments
        [("key", .text file.key), ("dest_bucket", .text file.destination)])) _ :=
    (Record.fits_given_cons rfl).mpr ⟨rfl, file.key, rfl,
      (Record.fits_given_cons rfl).mpr ⟨rfl, file.destination, rfl, Record.fits_nil.mpr rfl⟩⟩
  exact Record.eitherReader_of_fits fits rfl

theorem FileResult.reader_toJson (levels : Nat) (result : FileResult) :
    reader (levels + 1) result.toJson.document result := by
  have key : record.slotOf? (some "key") = some Slot.key := rfl
  have destination : record.slotOf? (some "dest_bucket") = some Slot.destination := rfl
  have accepted : record.slotOf? (some "success") = some Slot.accepted := rfl
  have rejection : record.slotOf? (some "err_msg") = some Slot.rejection := rfl
  have fits : record.Fits readers levels record.nothing
      (record.given · (memberDocuments
        [("key", .text result.key), ("dest_bucket", .text result.destination),
          ("success", .bool result.accepted), ("err_msg", .text result.rejection)])) _ :=
    (Record.fits_given_cons key).mpr ⟨rfl, result.key, rfl,
      (Record.fits_given_cons destination).mpr ⟨rfl, result.destination, rfl,
        (Record.fits_given_cons accepted).mpr ⟨rfl, result.accepted, rfl,
          (Record.fits_given_cons rejection).mpr ⟨rfl, result.rejection, rfl,
            Record.fits_nil.mpr rfl⟩⟩⟩⟩
  exact Record.eitherReader_of_fits fits rfl

/-! ## Granules -/

namespace Granule

/-- The members that are kept have no numbers but integers. -/
def HasWholeNumbers (granule : Granule) : Prop :=
  ∀ member ∈ granule.extra, member.2.HasWholeNumbers

/-- What holds of the members that a granule keeps when it is read where so many arrays and objects
may be opened inside of it. -/
structure IsReadable (granule : Granule) (levels : Nat) : Prop where
  kept : ReadableMembers levels granule.extra
  noSlots : record.HasNoSlots granule.extra

theorem extra_of_build {filled : record.Filled} {kept : List (String × Json)} {granule : Granule}
    (built : build filled kept = .ok granule) : granule.extra = kept := by
  obtain ⟨id, _, rest⟩ := bind_eq_ok.mp built
  cases rest
  rfl

theorem isReadable_of_reader {sound : KeptCondition} {levels : Nat} {document : Document}
    {granule : Granule} (read : reader sound (levels + 1) document granule) :
    granule.IsReadable levels := by
  obtain ⟨inner, members, same, rfl, _, _, filled, kept, _, keeps, built⟩ :=
    Record.objectReader_cases read
  cases same
  have none : record.HasNoSlots [] := List.forall_mem_nil _
  constructor
  · rw [extra_of_build built]
    exact readable_of_membersData? _ levels (ReadableMembers.nil levels) keeps
  · rw [extra_of_build built]
    exact Record.hasNoSlots_of_membersData? none keeps

def writtenMembers (granule : Granule) : List (String × Json) :=
  ("granuleId", .text granule.id) ::
    ("keys", .array (granule.requested.map RequestedFile.toJson)) ::
    ("recover_files", .array (granule.results.map FileResult.toJson)) :: granule.extra

theorem IsReadable.reader_toJson {granule : Granule} {levels : Nat}
    (readable : granule.IsReadable (levels + 2)) (whole : granule.HasWholeNumbers) :
    reader .none (levels + 3) granule.toJson.document granule := by
  have id : record.slotOf? (some "granuleId") = some Slot.id := rfl
  have requested : record.slotOf? (some "keys") = some Slot.requested := rfl
  have results : record.slotOf? (some "recover_files") = some Slot.results := rfl
  have fits : record.Fits readers (levels + 2) record.nothing
      (record.given · (memberDocuments granule.writtenMembers)) _ :=
    (Record.fits_given_cons id).mpr ⟨rfl, granule.id, rfl,
      (Record.fits_given_cons requested).mpr ⟨rfl, granule.requested,
        Reader.list_document (RequestedFile.reader_toJson levels) granule.requested,
        (Record.fits_given_cons results).mpr ⟨rfl, granule.results,
          Reader.list_document (FileResult.reader_toJson levels) granule.results, by
            rw [Record.given_memberDocuments readable.noSlots]
            exact Record.fits_nil.mpr rfl⟩⟩⟩
  have keeps : record.Kept .keep (levels + 2) [] (memberDocuments granule.extra) granule.extra := by
    have sorted : SortedByName ([] ++ granule.extra) := readable.kept.sorted
    unfold Record.Kept
    rw [Record.withoutSlot_memberDocuments readable.noSlots]
    exact membersData?_documents sorted fun member among =>
      (readable.kept.values member among).data?_document (whole member among)
  refine ⟨named_memberDocuments granule.writtenMembers, trivial, _, granule.extra, fits, ?_, rfl⟩
  exact (Record.kept_cons_of_some id).mpr ((Record.kept_cons_of_some requested).mpr
    ((Record.kept_cons_of_some results).mpr keeps))

theorem hasLiterals {granule : Granule} (extra : MembersHaveLiterals granule.extra) :
    granule.toJson.HasLiterals := by
  have files : ElementsHaveLiterals (granule.requested.map RequestedFile.toJson) := by
    refine elementsHaveLiterals (List.forall_mem_map.mpr fun file _ => ?_)
    exact ⟨trivial, trivial, trivial⟩
  have results : ElementsHaveLiterals (granule.results.map FileResult.toJson) := by
    refine elementsHaveLiterals (List.forall_mem_map.mpr fun result _ => ?_)
    exact ⟨trivial, trivial, trivial, trivial, trivial⟩
  exact ⟨trivial, files, results, extra⟩

theorem HasWholeNumbers.hasLiterals {granule : Granule} (whole : granule.HasWholeNumbers) :
    granule.toJson.HasLiterals :=
  Granule.hasLiterals (membersHaveLiterals fun member among => (whole member among).hasLiterals)

theorem IsReadable.hasLiterals {granule : Granule} {levels : Nat}
    (readable : granule.IsReadable levels) : granule.toJson.HasLiterals :=
  Granule.hasLiterals
    (membersHaveLiterals fun member among => (readable.kept.values member among).hasLiterals)

end Granule

/-! ## Requests -/

namespace Request

theorem input_of_build {filled : record.Filled} {request : Request}
    (built : build filled = .ok request) :
    filled .input = some (request.granules, request.jobId) := by
  obtain ⟨⟨granules, jobId⟩, held, rest⟩ := bind_eq_ok.mp built
  cases rest
  unfold Record.required at held
  split at held
  next content filledInput =>
    cases held
    exact filledInput
  next => cases held

theorem isReadable_of_inputReader {sound : KeptCondition} {levels : Nat} {document : Document}
    {input : List Granule × Option String}
    (read : inputReader sound (levels + 3) document input) {granule : Granule}
    (listed : granule ∈ input.1) : granule.IsReadable levels := by
  obtain ⟨inner, filled, same, built, reads, _⟩ := Record.eitherReader_cases read
  cases same
  cases built
  cases held : filled .granules with
  | none =>
      rw [held] at listed
      cases listed
  | some granules =>
      rw [held] at listed
      obtain ⟨within, readGranules⟩ := reads .granules granules held
      obtain ⟨_, elements, same, _, each⟩ := Reader.list_cases _ readGranules
      cases same
      obtain ⟨element, readElement⟩ := exists_of_forall₂ each listed
      exact Granule.isReadable_of_reader readElement

/-- The granules of a request are read in the fourth of the arrays and objects of an event. -/
theorem isReadable_of_reader {sound : KeptCondition} {levels : Nat} {document : Document}
    {request : Request} (read : reader sound (levels + 4) document request) {granule : Granule}
    (listed : granule ∈ request.granules) : granule.IsReadable levels := by
  obtain ⟨inner, filled, same, built, reads, _⟩ := Record.eitherReader_cases read
  cases same
  obtain ⟨within, readInput⟩ := reads .input _ (input_of_build built)
  exact isReadable_of_inputReader readInput listed

/-- An event with another input in the place of its own. -/
theorem reader_putInput {sound : KeptCondition} {levels : Nat}
    {before after : List (Option String × Document)} {input input' : Document} {request : Request}
    (read : reader sound (levels + 1) (.object (before ++ (some "input", input) :: after)) request)
    {granules : List Granule} {jobId : Option String}
    (readInput : inputReader sound levels input' (granules, jobId)) :
    reader sound (levels + 1) (.object (before ++ (some "input", input') :: after))
      ⟨request.bucket, granules, jobId⟩ := by
  have goes : record.slotOf? (some "input") = some Slot.input := rfl
  obtain ⟨inner, members, same, sameMembers, named, _, filled, kept, fits, keeps, built⟩ :=
    Record.objectReader_cases (Record.eitherReader_object.mp read)
  cases same
  cases sameMembers
  refine Record.eitherReader_object.mpr ⟨?_, trivial, _, kept,
    Record.Fits.put goes fits readInput, keeps, ?_⟩
  · rw [List.forall_mem_append, List.forall_mem_cons] at named ⊢
    exact named
  · obtain ⟨_, _, rest⟩ := bind_eq_ok.mp built
    cases rest
    rfl

end Request

end GranuleRecall
