import GranuleRecall.Proofs.Course.Tasks
import GranuleRecall.Proofs.FirstFailure

/-! # What a task reports on

A task that reports has gone to its end with the one granule of its request. Of that granule it
changes the results and nothing else. -/

set_option autoImplicit false

namespace GranuleRecall

/-- The report of a task: its result, or what its failure keeps. -/
def Report.ofOutcome? : Except Failure Report → Option Report
  | .ok report => some report
  | .error failure => Report.ofFailure? failure

theorem Report.ofOutcome?_error_ne_some {failure : Failure} (bare : failure.partialResult = none)
    (report : Report) : ofOutcome? (.error failure) ≠ some report := by
  rw [ofOutcome?, ofFailure?, bare]
  exact nofun

/-- Of an outcome for a granule, the report on it. -/
theorem Report.ofOutcome?_map {outcome : Except Failure Granule} {jobId : String}
    {report : Report}
    (reported : ofOutcome? (outcome.map fun final => ⟨final, jobId⟩) = some report) :
    outcome = .ok report.granule ∨
      ∃ jobId, outcome = .error (.incomplete jobId report.granule) := by
  cases outcome with
  | ok final =>
      cases reported
      exact .inl rfl
  | error failure =>
      obtain ⟨kept, partially, rfl⟩ := Option.map_eq_some_iff.mp reported
      cases failure with
      | incomplete jobId final =>
          cases partially
          exact .inr ⟨jobId, rfl⟩
      | configuration _ => cases partially
      | unreadable _ => cases partially
      | malformed _ => cases partially
      | probe _ _ _ => cases partially
      | rejected _ _ _ => cases partially
      | undelivered _ _ _ => cases partially
      | invalidEvent _ => cases partially
      | passCountOverflow => cases partially

/-- A course without a failure is reported on, whether all files were accepted or not. -/
theorem Course.ofOutcome?_outcome (course : Course) (granule : Granule) :
    Report.ofOutcome? ((course.outcome granule).map fun final => ⟨final, course.job.id⟩) =
      if course.failure = none then some ⟨course.final granule, course.job.id⟩ else none := by
  unfold outcome Restores.verdict
  cases failed : course.failure with
  | some failure =>
      have bare := failure_partialResult failed
      rw [if_neg (Option.some_ne_none failure)]
      change Report.ofFailure? failure = none
      rw [Report.ofFailure?, bare]
      rfl
  | none =>
      rw [if_pos rfl]
      cases (course.final granule).isComplete with
      | true => rfl
      | false => rfl

theorem Probes.failure_partialResult {bucket : String} {files : List RequestedFile}
    {replies : List ProbeReply} {failed : Failure}
    (found : Probes.failure bucket files replies = some failed) : failed.partialResult = none := by
  rw [← Probes.failure_steps] at found
  exact Task.Steps.failure_partialResult found

namespace Task

variable {services : Services} {settings : Settings}

/-- A task that reports has learned something from each probe and has come to the end of a course
for the files that were found. -/
theorem carryOut_course {bucket jobId : String} {granule begun : Granule} {past : Trace}
    {replies : List ProbeReply} {report : Report}
    (made : replies = Probes.ofServices services bucket past granule.requested)
    (found : begun = { granule with results := Probes.found granule.requested replies })
    (reported : Report.ofOutcome?
      (carryOut services settings bucket granule jobId past).1 = some report) :
    Probes.failure bucket granule.requested replies = none ∧
      ∃ plan course, report.granule = Course.final course begun ∧
        (carryOut services settings bucket granule jobId past).2 =
          Probes.events bucket granule.requested replies ++
            Course.events settings.delivery plan course begun := by
  have probed := presentFiles_eq services bucket past granule.requested
  subst made found
  unfold carryOut at reported ⊢
  cases unprobed : Probes.failure bucket granule.requested
      (Probes.ofServices services bucket past granule.requested) with
  | some failure =>
      rw [unprobed] at probed
      rw [Procedure.bind_of_error probed] at reported
      have bare := Probes.failure_partialResult unprobed
      exact absurd reported (Report.ofOutcome?_error_ne_some bare report)
  | none =>
      rw [unprobed] at probed
      rw [Procedure.bind_of_ok probed] at reported ⊢
      dsimp only at reported ⊢
      have restored := requestRestores_eq services settings.delivery
        ⟨bucket, settings.expireDays, settings.tier, settings.passes⟩ jobId
        { granule with
          results := Probes.found granule.requested
            (Probes.ofServices services bucket past granule.requested) }
        (past ++ Probes.events bucket granule.requested
          (Probes.ofServices services bucket past granule.requested))
      rw [Procedure.bind_pure_eq_map restored] at reported ⊢
      obtain ⟨_, final⟩ := Course.ended_of_outcome (Report.ofOutcome?_map reported)
      exact ⟨rfl, _, _, final, rfl⟩

theorem run_report {freshId : String} {request : Request} {past : Trace} {report : Report}
    (reported :
      Report.ofOutcome? (run services settings freshId request past).1 = some report) :
    ∃ granule results, request.granules = [granule] ∧
      report.granule = { granule with results := results } := by
  have stages := run_stages services settings freshId request past
  generalize run services settings freshId request past = ran at stages reported
  cases stages with
  | unchecked wrong bare => exact absurd reported (Report.ofOutcome?_error_ne_some bare report)
  | unknown given filled listed replied failed =>
      have bare := Probes.failure_partialResult failed
      exact absurd reported (Report.ofOutcome?_error_ne_some bare report)
  | requested given filled listed replied fine planned found asked =>
      rw [requestRestores_eq] at reported
      obtain ⟨_, final⟩ := Course.ended_of_outcome (Report.ofOutcome?_map reported)
      rw [found] at final
      exact ⟨_, _, listed, final⟩

end Task

/-! An archive that rejects every request, asked once for the file of a granule that keeps a
member. -/

def busyArchive : Services where
  probe _ _ _ := .present
  restore _ _ := .rejected "busy"
  send _ _ := .accepted
  clock _ := ⟨0, 0⟩

def oneTry : Settings where
  expireDays := 5
  passes := ⟨0, .zero⟩
  tier := .standard
  queueUrl := "queue"
  delivery := .of 1 .zero
  endpointUrl := none
  region := none

def sizedGranule : Granule where
  id := "granule"
  requested := [⟨"a", "target"⟩]
  results := []
  extra := [("sizes", .array [.number (.integer 5), .text "large"])]

def busyReport : Report :=
  ⟨{ sizedGranule with results := [⟨"a", "target", false, "busy"⟩] }, "job"⟩

theorem busyArchive_reports :
    Report.ofOutcome? (Task.run busyArchive oneTry "fresh"
      ⟨some "archive", [sizedGranule], some "job"⟩ []).1 = some busyReport := by
  have carried := Task.carryOut_eq busyArchive oneTry "archive" "job" sizedGranule [] rfl
    (by decide)
  exact (congrArg (fun ran => Report.ofOutcome? ran.1) carried).trans rfl

end GranuleRecall
