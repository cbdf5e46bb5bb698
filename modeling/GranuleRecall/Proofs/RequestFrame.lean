import GranuleRecall.Proofs.Course.Reports
import GranuleRecall.Proofs.GatedRestores

/-! # What a task keeps of its request

A task that reports gives the granule of its request back with results in place of those it came
with: one for each place of the list whose probe found the file. The results that a granule comes
with are not looked at. -/

set_option autoImplicit false

namespace GranuleRecall

namespace Probes

/-- The files whose probe replied that they are present. -/
def presentAmong (files : List RequestedFile) (replies : List ProbeReply) : List RequestedFile :=
  ((List.zip files replies).filter (·.2 = .present)).map Prod.fst

theorem requested_found (files : List RequestedFile) (replies : List ProbeReply) :
    (found files replies).map FileResult.requested = presentAmong files replies := by
  rw [found, presentAmong]
  induction List.zip files replies with
  | nil => rfl
  | cons entry later ih =>
      obtain ⟨file, reply⟩ := entry
      cases reply with
      | present => exact congrArg (List.cons file) ih
      | absent => exact ih
      | unknown message => exact ih

/-- When each place is probed, the replies can be read off the exchanges. -/
theorem map_snd_exchanges {bucket : String} {files : List RequestedFile}
    {replies : List ProbeReply} (sameLength : replies.length = files.length) :
    (exchanges bucket files replies).map Prod.snd = replies := by
  rw [exchanges, List.map_map]
  exact List.map_snd_zip (Nat.le_of_eq sameLength)

theorem map_fst_exchanges {bucket : String} {files : List RequestedFile}
    {replies : List ProbeReply} (sameLength : replies.length = files.length) :
    (exchanges bucket files replies).map Prod.fst = files.map fun file => (bucket, file.key) := by
  have probed : (List.zip files replies).map Prod.fst = files :=
    List.map_fst_zip (Nat.le_of_eq sameLength.symm)
  rw [exchanges, List.map_map]
  conv_rhs => rw [← probed, List.map_map]
  rfl

end Probes

/-- A granule after a task for it, against the trace of the task. Every place of the list was
probed, and there is a result for each at which the file is present, in order; the rest of the
granule is as it was. -/
structure KeepsGranule (services : Services) (bucket : String) (granule final : Granule)
    (past trace : Trace) : Prop where
  answered : services.Answered past trace
  probes : trace.probes.map Prod.fst = granule.requested.map fun file => (bucket, file.key)
  sameGranule : { final with results := granule.results } = granule
  results :
    final.results.map FileResult.requested =
      Probes.presentAmong granule.requested (trace.probes.map Prod.snd)

theorem Task.carryOut_keepsGranule {services : Services} {settings : Settings}
    {bucket jobId : String} {granule : Granule} {past : Trace} {report : Report}
    (reported : Report.ofOutcome?
      (carryOut services settings bucket granule jobId past).1 = some report) :
    KeepsGranule services bucket granule report.granule past
      (carryOut services settings bucket granule jobId past).2 := by
  have answered := carryOut_records services settings bucket granule jobId past
  have run := Probes.ofServices_run services bucket past granule.requested
  obtain ⟨fine, plan, course, final, happened⟩ := carryOut_course rfl rfl reported
  have sameLength := (run.complete fine).length
  have probes : (carryOut services settings bucket granule jobId past).2.probes =
      Probes.exchanges bucket granule.requested
        (Probes.ofServices services bucket past granule.requested) := by
    rw [happened, Trace.probes_append, Probes.probes_events, Course.probes_events, List.append_nil]
  refine ⟨answered, ?_, ?_, ?_⟩
  · rw [probes, Probes.map_fst_exchanges sameLength]
  · rw [final]
    rfl
  · rw [probes, Probes.map_snd_exchanges sameLength, final, Course.requested_final]
    exact Probes.requested_found ..

/-- A task for the one granule of its request keeps the granule in what it reports, and does not
look at the results that the granule comes with. -/
theorem Task.run_keepsGranule (services : Services) (settings : Settings) (freshId : String)
    (past : Trace) {request : Request} {bucket : String} {granule : Granule}
    (given : request.bucket = some bucket) (filled : Text.isBlank bucket = false)
    (listed : request.granules = [granule]) :
    (∀ report,
      Report.ofOutcome? (run services settings freshId request past).1 = some report →
        KeepsGranule services bucket granule report.granule past
          (run services settings freshId request past).2) ∧
      ∀ results,
        run services settings freshId
            { request with granules := [{ granule with results := results }] } past =
          run services settings freshId request past := by
  have begun (results : List FileResult) :
      run services settings freshId
          { request with granules := [{ granule with results := results }] } =
        carryOut services settings bucket granule (jobIdOf request freshId) := by
    simp only [run, bucketOf, given, filled, Bool.false_eq_true, ↓reduceIte]
    rfl
  have asGiven : run services settings freshId request =
      carryOut services settings bucket granule (jobIdOf request freshId) := by
    rw [← begun granule.results, ← listed]
  refine ⟨fun report reported => ?_, fun results => ?_⟩
  · rw [asGiven] at reported ⊢
    exact carryOut_keepsGranule reported
  · rw [begun results, asGiven]

/-! An archive that has all files but one and accepts one request, asked for a granule that names a
key twice and comes with a result from another run. -/

def sparseArchive : Services where
  probe _ _ key := if key = "b" then .absent else .present
  restore past _ := if past.restores.isEmpty then .accepted else .rejected "busy"
  send _ _ := .accepted
  clock _ := ⟨0, 0⟩

def staleGranule : Granule where
  id := "granule"
  requested := [⟨"a", "near"⟩, ⟨"b", "near"⟩, ⟨"a", "far"⟩]
  results := [⟨"a", "near", true, ""⟩]
  extra := [("version", .text "006")]

theorem sparseArchive_reports :
    Report.ofOutcome? (Task.run sparseArchive oneTry "fresh"
      ⟨some "archive", [staleGranule], some "job"⟩ []).1 =
        some ⟨{ staleGranule with
          results := [⟨"a", "near", true, ""⟩, ⟨"a", "far", false, "busy"⟩] }, "job"⟩ := by
  have carried := Task.carryOut_eq sparseArchive oneTry "archive" "job" staleGranule [] rfl
    (by decide)
  exact (congrArg (fun ran => Report.ofOutcome? ran.1) carried).trans rfl

theorem sparseArchive_keepsGranule :
    KeepsGranule sparseArchive "archive" staleGranule
        { staleGranule with
          results := [⟨"a", "near", true, ""⟩, ⟨"a", "far", false, "busy"⟩] } []
        (Task.run sparseArchive oneTry "fresh" ⟨some "archive", [staleGranule], some "job"⟩ []).2 ∧
      Task.run sparseArchive oneTry "fresh"
          ⟨some "archive", [{ staleGranule with results := [] }], some "job"⟩ [] =
        Task.run sparseArchive oneTry "fresh" ⟨some "archive", [staleGranule], some "job"⟩ [] := by
  have given : Request.bucket ⟨some "archive", [staleGranule], some "job"⟩ = some "archive" := rfl
  have kept := Task.run_keepsGranule sparseArchive oneTry "fresh" [] given (by decide) rfl
  exact ⟨kept.1 _ sparseArchive_reports, kept.2 []⟩

end GranuleRecall
