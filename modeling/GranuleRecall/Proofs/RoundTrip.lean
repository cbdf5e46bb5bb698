import GranuleRecall.Proofs.Documents.Reports

/-! # What is written is read back

A granule that is read and written again is read as the same granule, and the report of a run can
stand in the place of an event's input. This is so for granules that keep no numbers but integers:
the written form of any other number need not be the one it was read from. -/

set_option autoImplicit false

namespace GranuleRecall

open Json

namespace Json

theorem SortedByName.nodup {members : List (String × Json)} (sorted : SortedByName members) :
    (members.map Prod.fst).Nodup :=
  List.pairwise_map.mpr (sorted.imp ne_of_lt)

end Json

namespace Granule

theorem isReadable_of_parse {text : String} {granule : Granule} (read : parse text = .ok granule) :
    granule.IsReadable 126 := by
  obtain ⟨document, written⟩ := isWrittenAs_of_decodeDocument read
  exact isReadable_of_reader ((parse_iff written).mp read)

/-- No member that is kept has a name of the granule's own members. -/
theorem IsReadable.nodup_names {granule : Granule} {levels : Nat}
    (readable : granule.IsReadable levels) :
    ("granuleId" :: "keys" :: "recover_files" :: granule.extra.map Prod.fst).Nodup := by
  have other {name : String} {slot : record.Slot} (own : record.slotOf? (some name) = some slot) :
      name ∉ granule.extra.map Prod.fst := by
    intro among
    obtain ⟨member, kept, rfl⟩ := List.mem_map.mp among
    cases own.symm.trans (readable.noSlots member kept)
  have id : record.slotOf? (some "granuleId") = some Slot.id := rfl
  have requested : record.slotOf? (some "keys") = some Slot.requested := rfl
  have results : record.slotOf? (some "recover_files") = some Slot.results := rfl
  simp [other id, other requested, other results, readable.kept.sorted.nodup]

section

variable {granule : Granule} (readable : granule.IsReadable 126) (whole : granule.HasWholeNumbers)

include readable whole

theorem IsReadable.parse_render : parse granule.render = .ok granule :=
  (parse_iff (isWrittenAs_render whole.hasLiterals)).mpr (readable.reader_toJson whole)

/-- The members of a written granule have distinct names. -/
theorem IsReadable.render_names {document : Document}
    (written : document.IsWrittenAs granule.render) :
    ∃ members, document = .object members ∧ (members.map Prod.fst).Nodup := by
  obtain ⟨members, rfl, alike⟩ :=
    (written.alike (isWrittenAs_render whole.hasLiterals)).object
  refine ⟨members, rfl, ?_⟩
  rw [alike.names, names_memberDocuments]
  exact List.pairwise_map.mpr
    (readable.nodup_names.imp fun different same => different (Option.some.inj same))

end

end Granule

/-! ## Reports as inputs -/

namespace Request

/-- An event with another input in the place of its own. -/
inductive WithInput (input : Document) : Document → Document → Prop
  | member {before after : List (Option String × Document)} {old : Document} :
      WithInput input (.object (before ++ (some "input", old) :: after))
        (.object (before ++ (some "input", input) :: after))

theorem parse_withInput {text text' : String} {event event' input : Document} {request : Request}
    {granules : List Granule} {jobId : Option String} (written : event.IsWrittenAs text)
    (read : parse text = .ok request) (put : WithInput input event event')
    (readInput : inputReader .none 126 input (granules, jobId))
    (written' : event'.IsWrittenAs text') :
    parse text' = .ok ⟨request.bucket, granules, jobId⟩ := by
  have meant := (parse_iff written).mp read
  cases put with
  | member => exact (parse_iff written').mpr (reader_putInput meant readInput)

end Request

/-! ## Round trips -/

/-- A granule that goes through its written form unchanged. -/
structure Granule.GoesRound (granule : Granule) : Prop where
  parsed : parse granule.render = .ok granule
  rendered : ∀ again, parse granule.render = .ok again → again.render = granule.render
  names : ∀ document : Document, document.IsWrittenAs granule.render →
    ∃ members, document = .object members ∧ (members.map Prod.fst).Nodup

/-- A report whose written form can stand in the place of the input of any event. Such an event asks
for the granule of the report, under its job id. -/
structure Report.StandsForInput (report : Report) : Prop where
  parsed : ∀ {event event' input : Document} {text text' : String} {request : Request},
    event.IsWrittenAs text → Request.parse text = .ok request →
    input.IsWrittenAs report.render → Request.WithInput input event event' →
    event'.IsWrittenAs text' →
      Request.parse text' = .ok ⟨request.bucket, [report.granule], some report.jobId⟩

/-- Whatever granules are read, and whatever is reported on them, is read as it is written, unless
they keep numbers that are no integers. -/
theorem render_parses_back :
    (∀ {text : String} {granule : Granule}, Granule.parse text = .ok granule →
      granule.HasWholeNumbers → granule.GoesRound) ∧
    ∀ {text : String} {request : Request}, Request.parse text = .ok request →
      (∀ granule ∈ request.granules, granule.HasWholeNumbers) →
        ∀ {services : Services} {settings : Settings} {freshId : String} {past : Trace}
          {report : Report},
          Report.ofOutcome? (Task.run services settings freshId request past).1 = some report →
            report.StandsForInput := by
  constructor
  · intro text granule read whole
    have readable := Granule.isReadable_of_parse read
    have readAgain := readable.parse_render whole
    refine ⟨readAgain, ?_, fun document written => readable.render_names whole written⟩
    intro again readToo
    cases readAgain.symm.trans readToo
    rfl
  · intro text request read whole services settings freshId past report reported
    have readable := Report.isReadable_of_run read reported
    obtain ⟨granule, results, listed, same⟩ := Task.run_report reported
    have wholeReport : report.granule.HasWholeNumbers := by
      rw [same]
      exact whole granule (listed ▸ List.mem_singleton_self granule)
    have readInput := Report.reader_toJson readable wholeReport
    constructor
    intro event event' input eventText eventText' other written readEvent writtenInput put written'
    have alike := writtenInput.alike (isWrittenAs_render (Report.hasLiterals wholeReport))
    have readWritten := (Request.decodeInput_agrees.reader_iff alike 126 _).mpr readInput
    exact Request.parse_withInput written readEvent put readWritten written'

/-- The report of a busy archive stands in the place of the input that it was asked with. -/
theorem busyReport_parses_back :
    sizedGranule.GoesRound ∧
      Request.parse (busyReport.event "archive").render =
        .ok ⟨some "archive", [busyReport.granule], some "job"⟩ := by
  have whole := sizedGranule_hasWholeNumbers
  constructor
  · have read := (sizedGranule_isReadable (by decide)).parse_render whole
    exact render_parses_back.1 read whole
  · have read : Request.parse (sizedReport.event "archive").render =
        .ok ⟨some "archive", [sizedGranule], some "job"⟩ :=
      Report.parse_event (sizedGranule_isReadable (by decide)) whole "archive"
    have stands := render_parses_back.2 read (List.forall_mem_singleton.mpr whole)
      busyArchive_reports
    have put : Request.WithInput busyReport.toJson.document
        (sizedReport.event "archive").document (busyReport.event "archive").document :=
      @Request.WithInput.member _ [(some "config", _)] [] _
    have wholeToo : busyReport.granule.HasWholeNumbers := whole
    exact stands.parsed (isWrittenAs_render (Report.event_hasLiterals whole "archive")) read
      (isWrittenAs_render (Report.hasLiterals wholeToo)) put
      (isWrittenAs_render (Report.event_hasLiterals wholeToo "archive"))

end GranuleRecall
