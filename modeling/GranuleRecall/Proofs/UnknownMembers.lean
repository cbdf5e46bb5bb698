import GranuleRecall.Proofs.Documents.Meaning
import GranuleRecall.Proofs.Documents.Reports

/-! # Members without a meaning are written back

Whatever a granule has besides its own members is in the report of its run again: one member of
each name, with the data that the last of that name is read as. A number that is no integer of 64
bits is rounded when it is read, so the text of the report says what the event said where there are
no such numbers. -/

set_option autoImplicit false

namespace GranuleRecall

open Json

/-! ## The granule in an event -/

namespace Request

/-- An event with one granule. -/
def HasGranule (event granule : Document) : Prop :=
  ∃ input, record.Gives .input event input ∧ inputRecord.Gives .granules input (.array [granule])

theorem granule_of_reader {sound : KeptCondition} {levels : Nat} {event document : Document}
    {request : Request} (read : reader sound (levels + 4) event request)
    (given : HasGranule event document) :
    ∃ granule, request.granules = [granule] ∧
      Granule.reader sound (levels + 1) document granule := by
  obtain ⟨input, givesInput, givesGranules⟩ := given
  obtain ⟨_, filled, same, built, _, fills⟩ := Record.eitherReader_cases read
  cases same
  obtain ⟨content, held, readInput⟩ := fills .input input givesInput
  cases (input_of_build built).symm.trans held
  obtain ⟨_, filledInput, same, builtInput, _, fillsInput⟩ := Record.eitherReader_cases readInput
  cases same
  obtain ⟨granules, heldGranules, readGranules⟩ := fillsInput .granules _ givesGranules
  have each : List.Forall₂ (Granule.reader sound (levels + 1)) [document] granules := readGranules
  have listed : (filledInput .granules).getD [] = request.granules :=
    congrArg Prod.fst (Except.ok.inj builtInput)
  cases each with
  | @cons _ granule _ _ readGranule others =>
      cases others
      rw [heldGranules] at listed
      exact ⟨granule, listed.symm, readGranule⟩

end Request

/-! ## Members with a name of their own -/

namespace Json

theorem MembersAlike.valuesOf {members others : List (Option String × Document)}
    (alike : MembersAlike members others) (name : String) :
    List.Forall₂ Document.ShownAlike (valuesOf name members) (valuesOf name others) := by
  induction alike with
  | nil => exact .nil
  | @cons member other _ _ first _ ih =>
      obtain ⟨said, value⟩ := member
      obtain ⟨said', value'⟩ := other
      obtain ⟨sameName, sameValue⟩ := first
      cases sameName
      by_cases named : said = some name
      · subst named
        rw [valuesOf_cons_self, valuesOf_cons_self]
        exact .cons sameValue ih
      · rw [valuesOf_cons_of_ne named, valuesOf_cons_of_ne named]
        exact ih

end Json

namespace Granule

/-- The names of the members that mean something to a granule. -/
def ownNames : List String :=
  ["granuleId", "keys", "recover_files"]

theorem slotOf?_eq_none {name : String} (unknown : name ∉ ownNames) :
    record.slotOf? (some name) = none := by
  simp only [ownNames, List.mem_cons, List.not_mem_nil, or_false, not_or] at unknown
  simp [Record.slotOf?, record, unknown]

theorem valuesOf_withoutSlot {name : String} (unknown : name ∉ ownNames)
    (members : List (Option String × Document)) :
    valuesOf name (record.withoutSlot members) = valuesOf name members := by
  have goesNowhere := slotOf?_eq_none unknown
  induction members with
  | nil => rfl
  | cons member remaining ih =>
      obtain ⟨said, value⟩ := member
      by_cases named : said = some name
      · subst named
        rw [record.withoutSlot_cons_of_none goesNowhere, valuesOf_cons_self, valuesOf_cons_self, ih]
      · rw [valuesOf_cons_of_ne named, ← ih]
        cases goes : record.slotOf? said with
        | none => rw [record.withoutSlot_cons_of_none goes, valuesOf_cons_of_ne named]
        | some slot => rw [record.withoutSlot_cons_of_some goes]

theorem dataOf_writtenMembers {name : String} (unknown : name ∉ ownNames)
    (granule : Granule) : dataOf name granule.writtenMembers = dataOf name granule.extra := by
  simp only [ownNames, List.mem_cons, List.not_mem_nil, or_false, not_or] at unknown
  obtain ⟨notId, notRequested, notResults⟩ := unknown
  exact (dataOf_cons_of_ne (Ne.symm notId)).trans
    ((dataOf_cons_of_ne (Ne.symm notRequested)).trans
      (dataOf_cons_of_ne (Ne.symm notResults)))

/-- A written granule keeps the unknown members of one that was read when it has one entry of each
name, with the data that the last member of that name is read as, and no further entries. -/
structure KeepsUnknown (levels : Nat) (members : List (Option String × Document))
    (entries : List (String × Json)) : Prop where
  values : ∀ name, name ∉ ownNames →
    (dataOf name entries).map some =
      (valuesOf name members).getLast?.toList.map (Document.data? levels)
  names : ∀ entry ∈ entries, entry.1 ∈ ownNames ∨ some entry.1 ∈ members.map Prod.fst

/-- It writes them back when they say what the members said that were read. -/
structure WritesBack (members written : List (Option String × Document)) : Prop where
  values : ∀ name, name ∉ ownNames →
    (valuesOf name written).map Document.meaning =
      (valuesOf name members).getLast?.toList.map Document.meaning
  names : ∀ member ∈ written,
    ∃ name, member.1 = some name ∧ (name ∈ ownNames ∨ some name ∈ members.map Prod.fst)

theorem valuesOf_eq_nil_iff {name : String} {members : List (Option String × Document)} :
    valuesOf name members = [] ↔ some name ∉ members.map Prod.fst := by
  rw [valuesOf, List.map_eq_nil_iff, List.filter_eq_nil_iff, List.mem_map]
  simp only [decide_eq_true_eq, not_exists, not_and]

section

variable {sound : KeptCondition} {levels : Nat} {members : List (Option String × Document)}
  {granule : Granule} (read : reader sound (levels + 1) (.object members) granule)
  {final : Granule} (kept : final.extra = granule.extra)

include read kept

theorem dataOf_final {name : String} (unknown : name ∉ ownNames) :
    (dataOf name final.writtenMembers).map some =
      (valuesOf name members).getLast?.toList.map (Document.data? levels) := by
  have readable := isReadable_of_reader read
  obtain ⟨_, _, same, sameMembers, _, _, _, _, _, keeps, built⟩ := Record.objectReader_cases read
  cases same
  cases sameMembers
  cases extra_of_build built
  rw [dataOf_writtenMembers unknown, kept, dataOf_of_sorted readable.kept.sorted,
    ← valuesOf_withoutSlot unknown members]
  cases last : (valuesOf name (record.withoutSlot members)).getLast? with
  | none =>
      rw [member?_of_valuesOf_eq_nil (List.getLast?_eq_none_iff.mp last) keeps]
      rfl
  | some value =>
      obtain ⟨element, readValue, found⟩ := member?_of_last last keeps
      rw [found]
      exact congrArg (fun read => [read]) readValue.symm

theorem keepsUnknown : KeepsUnknown levels members final.writtenMembers where
  values _ unknown := dataOf_final read kept unknown
  names := by
    intro entry among
    by_cases known : entry.1 ∈ ownNames
    · exact .inl known
    · right
      by_contra missing
      have none := dataOf_final read kept known
      rw [valuesOf_eq_nil_iff.mpr missing] at none
      have empty : dataOf entry.1 final.writtenMembers = [] := List.map_eq_nil_iff.mp none
      have inside : entry.2 ∈ dataOf entry.1 final.writtenMembers :=
        mem_dataOf_of_mem among
      rw [empty] at inside
      cases inside

variable (whole : granule.HasWholeNumbers) {written : List (Option String × Document)}
  (alike : MembersAlike written (memberDocuments final.writtenMembers))

include whole alike

theorem meanings_of_written {name : String} (unknown : name ∉ ownNames) :
    (valuesOf name written).map Document.meaning =
      (valuesOf name members).getLast?.toList.map Document.meaning := by
  have entries := dataOf_final read kept unknown
  have shown := alike.valuesOf name
  rw [valuesOf_memberDocuments] at shown
  cases last : (valuesOf name members).getLast? with
  | none =>
      rw [last] at entries
      rw [List.map_eq_nil_iff.mp entries] at shown
      rw [List.forall₂_nil_right_iff.mp shown]
      rfl
  | some value =>
      rw [last] at entries
      obtain ⟨element, single, readValue⟩ := List.map_eq_singleton_iff.mp entries
      have among : (name, element) ∈ granule.extra := by
        apply mem_of_mem_dataOf
        rw [← kept, ← dataOf_writtenMembers unknown final, single]
        exact List.mem_singleton_self element
      have wholeElement := whole (name, element) among
      have readAgain := ((isReadable_of_reader read).kept.values (name, element)
        among).data?_document wholeElement
      rw [single] at shown
      obtain ⟨value', _, alikeValue, others, same⟩ := List.forall₂_cons_right_iff.mp shown
      cases List.forall₂_nil_right_iff.mp others
      have readWritten := (alikeValue.data? levels).trans readAgain
      have sameMeaning : value'.meaning = value.meaning :=
        (meaning_of_data? value' levels readWritten wholeElement).trans
          (meaning_of_data? value levels readValue.symm wholeElement).symm
      rw [same]
      exact congrArg (fun meaning => [meaning]) sameMeaning

theorem writesBack : WritesBack members written where
  values _ unknown := meanings_of_written read kept whole alike unknown
  names := by
    intro member among
    have named : member.1 ∈ written.map Prod.fst := List.mem_map_of_mem among
    rw [alike.names, names_memberDocuments, List.map_map] at named
    obtain ⟨entry, listed, same⟩ := List.mem_map.mp named
    exact ⟨entry.1, same.symm, (keepsUnknown read kept).names entry listed⟩

end

end Granule

/-! ## Reports -/

namespace Report

/-- The document of a report has the members of its granule, and the job id. -/
theorem document_of_written {report : Report} (whole : report.granule.HasWholeNumbers)
    {output : Document} (written : output.IsWrittenAs report.render) :
    ∃ members, output = .object [(some "granules", .array [.object members]),
        (some "job_id", .text (some report.jobId))] ∧
      MembersAlike members (memberDocuments report.granule.writtenMembers) := by
  obtain ⟨fields, rfl, alike⟩ := (written.alike (isWrittenAs_render (hasLiterals whole))).object
  obtain ⟨⟨_, granules⟩, _, ⟨sameGranules, alikeGranules⟩, alikeOthers, rfl⟩ :=
    List.forall₂_cons_right_iff.mp alike
  obtain ⟨⟨_, jobId⟩, _, ⟨sameJobId, alikeJobId⟩, noMore, rfl⟩ :=
    List.forall₂_cons_right_iff.mp alikeOthers
  cases List.forall₂_nil_right_iff.mp noMore
  cases sameGranules
  cases sameJobId
  obtain ⟨elements, rfl, each⟩ := Document.ShownAlike.array alikeGranules
  obtain ⟨granule, _, alikeGranule, noMore, rfl⟩ := List.forall₂_cons_right_iff.mp each
  cases List.forall₂_nil_right_iff.mp noMore
  obtain ⟨members, rfl, alikeMembers⟩ := Document.ShownAlike.object alikeGranule
  cases Document.ShownAlike.text alikeJobId
  exact ⟨members, rfl, alikeMembers⟩

/-- The granule of a run's report has what the granule in the event had: for each unknown name one
member, with the data that the last member of that name is read as, and no others. When these have
no numbers but integers of 64 bits, it says the same in the text of the report. -/
theorem writes_unknown_members_back {text : String} {event : Document} {request : Request}
    (written : event.IsWrittenAs text) (read : Request.parse text = .ok request)
    {members : List (Option String × Document)}
    (given : Request.HasGranule event (.object members)) {services : Services}
    {settings : Settings} {freshId : String} {past : Trace} {report : Report}
    (reported :
      Report.ofOutcome? (Task.run services settings freshId request past).1 = some report) :
    (∃ entries, report.toJson = .object [("granules", .array [.object entries]),
        ("job_id", .text report.jobId)] ∧ Granule.KeepsUnknown 123 members entries) ∧
      ((∀ granule ∈ request.granules, granule.HasWholeNumbers) →
        ∀ output : Document, output.IsWrittenAs report.render →
          ∃ members', output = .object [(some "granules", .array [.object members']),
              (some "job_id", .text (some report.jobId))] ∧
            Granule.WritesBack members members') := by
  obtain ⟨granule, listed, readGranule⟩ :=
    Request.granule_of_reader ((Request.parse_iff written).mp read) given
  obtain ⟨other, results, listedToo, final⟩ := Task.run_report reported
  cases List.singleton_injective (listed.symm.trans listedToo)
  have kept : report.granule.extra = granule.extra := by rw [final]
  constructor
  · exact ⟨_, rfl, Granule.keepsUnknown readGranule kept⟩
  · intro whole output writtenOutput
    have wholeGranule := whole granule (listed ▸ List.mem_singleton_self granule)
    have wholeReport : report.granule.HasWholeNumbers := by
      rw [Granule.HasWholeNumbers, kept]
      exact wholeGranule
    obtain ⟨members', rfl, alike⟩ := document_of_written wholeReport writtenOutput
    exact ⟨members', rfl, Granule.writesBack readGranule kept wholeGranule alike⟩

theorem sizedEvent_hasGranule :
    Request.HasGranule (sizedReport.event "archive").document
      (.object (memberDocuments sizedGranule.writtenMembers)) :=
  ⟨sizedReport.toJson.document, .member (List.mem_cons_of_mem _ List.mem_cons_self) rfl,
    .member List.mem_cons_self rfl⟩

/-- The busy archive's granule keeps its sizes. -/
theorem busyReport_writes_sizes_back :
    ∃ members', busyReport.toJson.document = .object
        [(some "granules", .array [.object members']), (some "job_id", .text (some "job"))] ∧
      Granule.WritesBack (memberDocuments sizedGranule.writtenMembers) members' := by
  have whole := sizedGranule_hasWholeNumbers
  have wholeToo : busyReport.granule.HasWholeNumbers := whole
  have read : Request.parse (sizedReport.event "archive").render =
      .ok ⟨some "archive", [sizedGranule], some "job"⟩ :=
    parse_event (sizedGranule_isReadable (by decide)) whole "archive"
  have back := writes_unknown_members_back
    (isWrittenAs_render (event_hasLiterals whole "archive")) read sizedEvent_hasGranule
    busyArchive_reports
  exact back.2 (List.forall_mem_singleton.mpr whole) _
    (isWrittenAs_render (hasLiterals wholeToo))

end Report

end GranuleRecall
