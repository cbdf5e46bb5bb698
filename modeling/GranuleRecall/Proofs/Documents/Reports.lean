import GranuleRecall.Proofs.Course.Reports
import GranuleRecall.Proofs.Documents.Output

/-! # Reports as inputs

A report has the members of an input, so an event can ask for what was reported. -/

set_option autoImplicit false

namespace GranuleRecall

open Json

namespace Report

theorem reader_toJson {report : Report} {levels : Nat}
    (readable : report.granule.IsReadable (levels + 2)) (whole : report.granule.HasWholeNumbers) :
    Request.inputReader .none (levels + 5) report.toJson.document
      ([report.granule], some report.jobId) := by
  have granules : Request.inputRecord.slotOf? (some "granules") = some Request.InputSlot.granules :=
    rfl
  have jobId : Request.inputRecord.slotOf? (some "job_id") = some Request.InputSlot.jobId := rfl
  have readGranules : Reader.list (Granule.reader .none) (levels + 4)
      (Json.array [report.granule.toJson]).document [report.granule] :=
    List.Forall₂.cons (readable.reader_toJson whole) List.Forall₂.nil
  have readJobId : Reader.text.orNull (levels + 4) (Json.text report.jobId).document
      (some report.jobId) :=
    .inr ⟨nofun, report.jobId, rfl, rfl⟩
  have fits : Request.inputRecord.Fits (Request.inputReaders .none) (levels + 4)
      Request.inputRecord.nothing
      (Request.inputRecord.given · (memberDocuments
        [("granules", .array [report.granule.toJson]), ("job_id", .text report.jobId)])) _ :=
    (Record.fits_given_cons granules).mpr ⟨rfl, _, readGranules,
      (Record.fits_given_cons jobId).mpr ⟨rfl, _, readJobId, Record.fits_nil.mpr rfl⟩⟩
  exact Record.eitherReader_of_fits fits rfl

theorem hasLiterals_of_granule {report : Report}
    (written : report.granule.toJson.HasLiterals) : report.toJson.HasLiterals :=
  ⟨⟨written, trivial⟩, trivial, trivial⟩

theorem hasLiterals {report : Report} (whole : report.granule.HasWholeNumbers) :
    report.toJson.HasLiterals :=
  hasLiterals_of_granule whole.hasLiterals

/-- The event that asks for a granule in a bucket under a job id. -/
def event (report : Report) (bucket : String) : Json :=
  .object [("config", .object [("glacier-bucket", .text bucket)]), ("input", report.toJson)]

theorem event_hasLiterals {report : Report} (whole : report.granule.HasWholeNumbers)
    (bucket : String) : (report.event bucket).HasLiterals :=
  ⟨⟨trivial, trivial⟩, hasLiterals whole, trivial⟩

theorem parse_event {report : Report} (readable : report.granule.IsReadable 123)
    (whole : report.granule.HasWholeNumbers) (bucket : String) :
    Request.parse (report.event bucket).render =
      .ok ⟨some bucket, [report.granule], some report.jobId⟩ := by
  have named : Request.bucketRecord.slotOf? (some "glacier-bucket") =
      some Request.BucketSlot.bucket := rfl
  have configuration : Request.record.slotOf? (some "config") =
      some Request.Slot.configuration := rfl
  have input : Request.record.slotOf? (some "input") = some Request.Slot.input := rfl
  have readBucket : Reader.text.orNull 125 (Json.text bucket).document (some bucket) :=
    .inr ⟨nofun, bucket, rfl, rfl⟩
  have fitsBucket : Request.bucketRecord.Fits Request.bucketReaders 125
      Request.bucketRecord.nothing
      (Request.bucketRecord.given · (memberDocuments [("glacier-bucket", .text bucket)])) _ :=
    (Record.fits_given_cons named).mpr ⟨rfl, _, readBucket, Record.fits_nil.mpr rfl⟩
  have readConfiguration : Request.bucketReader 126
      (Json.object [("glacier-bucket", .text bucket)]).document (some bucket) :=
    Record.eitherReader_of_fits fitsBucket rfl
  have fits : Request.record.Fits (Request.readers .none) 126 Request.record.nothing
      (Request.record.given · (memberDocuments
        [("config", .object [("glacier-bucket", .text bucket)]), ("input", report.toJson)])) _ :=
    (Record.fits_given_cons configuration).mpr ⟨rfl, _, readConfiguration,
      (Record.fits_given_cons input).mpr ⟨rfl, _, reader_toJson readable whole,
        Record.fits_nil.mpr rfl⟩⟩
  refine (Request.parse_iff (isWrittenAs_render (event_hasLiterals whole bucket))).mpr ?_
  exact Record.eitherReader_of_fits fits rfl

/-- What a run reports on can be read again: it keeps what its request was read with. -/
theorem isReadable_of_run {text : String} {request : Request}
    (read : Request.parse text = .ok request) {services : Services} {settings : Settings}
    {freshId : String} {past : Trace} {report : Report}
    (reported :
      Report.ofOutcome? (Task.run services settings freshId request past).1 = some report) :
    report.granule.IsReadable 123 := by
  obtain ⟨granule, results, listed, same⟩ := Task.run_report reported
  obtain ⟨document, written⟩ := isWrittenAs_of_decodeDocument read
  have among : granule ∈ request.granules := listed ▸ List.mem_singleton_self granule
  have readable := Request.isReadable_of_reader ((Request.parse_iff written).mp read) among
  rw [same]
  exact ⟨readable.kept, readable.noSlots⟩

/-- What a run reports on can be written, whatever numbers its request keeps. -/
theorem isWrittenAs_of_run {text : String} {request : Request}
    (read : Request.parse text = .ok request) {services : Services} {settings : Settings}
    {freshId : String} {past : Trace} {report : Report}
    (reported :
      Report.ofOutcome? (Task.run services settings freshId request past).1 = some report) :
    report.toJson.document.IsWrittenAs report.render :=
  isWrittenAs_render (hasLiterals_of_granule (isReadable_of_run read reported).hasLiterals)

end Report

/-! A granule that keeps a member. -/

theorem sizedGranule_isReadable {levels : Nat} (room : 0 < levels) :
    sizedGranule.IsReadable levels := by
  obtain ⟨inner, rfl⟩ := Nat.exists_eq_succ_of_ne_zero (Nat.ne_of_gt room)
  refine ⟨⟨List.pairwise_singleton _ _, ?_⟩, ?_⟩
  · refine List.forall_mem_singleton.mpr (.array ?_)
    exact List.forall_mem_cons.mpr
      ⟨.integer (by decide), List.forall_mem_singleton.mpr .text⟩
  · exact List.forall_mem_singleton.mpr rfl

theorem sizedGranule_hasWholeNumbers : sizedGranule.HasWholeNumbers := by
  refine List.forall_mem_singleton.mpr (.array ?_)
  exact List.forall_mem_cons.mpr ⟨.integer, List.forall_mem_singleton.mpr .text⟩

def sizedReport : Report :=
  ⟨sizedGranule, "job"⟩

end GranuleRecall
