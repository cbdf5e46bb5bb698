import GranuleRecall.Proofs.Course.Answered
import GranuleRecall.Proofs.Course.Steps

/-! # A task ends at its first failure

The steps of a task stand in one order, whatever the services answer. The first that fails ends
the task: nothing happens after it, and its failure is that of the task and keeps no result. When
no step fails, the files that were never accepted are reported, and the first failure to deliver
such a report is that of the task. -/

set_option autoImplicit false

namespace GranuleRecall

/-! ## The course of a task -/

/-- How a task goes. What a course has after its first failing step stands for nothing. -/
structure TaskCourse where
  replies : List ProbeReply
  time : Time.Instant
  announcement : Sending
  passes : List (List Turn)
  notices : List Notice
deriving DecidableEq, Repr

namespace TaskCourse

def plan (settings : Settings) (bucket : String) : RestorePlan :=
  ⟨bucket, settings.expireDays, settings.tier, settings.passes⟩

section

variable (course : TaskCourse) (settings : Settings) (jobId bucket : String)
  (granule : Granule)

def job : Job :=
  ⟨jobId, granule.id, course.time, bucket⟩

/-- The granule with an entry for each file that was found. -/
def begun : Granule :=
  { granule with results := Probes.found granule.requested course.replies }

/-- The granule after all passes. -/
def final : Granule :=
  { granule with
    results := Passes.after (Probes.found granule.requested course.replies) course.passes }

/-- The steps for a granule in a bucket after its probes. -/
def restoreSteps : List Task.Step :=
  .announce (course.job jobId bucket granule) course.announcement ::
    Passes.steps (plan settings bucket) (course.job jobId bucket granule) 1
      (course.begun granule).results course.passes

def granuleSteps : List Task.Step :=
  Probes.steps bucket granule.requested course.replies ++
    course.restoreSteps settings jobId bucket granule

end

/-- All steps for a request. -/
def steps (course : TaskCourse) (settings : Settings) (jobId : String) (request : Request) :
    List Task.Step :=
  .bucket request.bucket :: .granules request.granules.length ::
    match request.bucket, request.granules with
    | some bucket, [granule] => course.granuleSteps settings jobId bucket granule
    | _, _ => []

/-- The outcome of a task in which no step fails. -/
def outcome (course : TaskCourse) (jobId : String) (granule : Granule) :
    Except Failure Report :=
  match Notices.failure course.notices with
  | some failure => .error failure
  | none =>
    if (course.final granule).isComplete then .ok ⟨course.final granule, jobId⟩
    else .error (.incomplete jobId (course.final granule))

/-- What happens in it after all steps: the reports on failed files, and a record that some are
left. -/
def closing (course : TaskCourse) (settings : Settings) (jobId bucket : String)
    (granule : Granule) : Trace :=
  Notices.events settings.delivery (course.job jobId bucket granule)
      (course.final granule).unaccepted course.notices ++
    Restores.verdictEvents (plan settings bucket) (course.job jobId bucket granule)
      (Notices.failure course.notices) (course.final granule)

/-- A course covers a granule when it probes all files in order, makes all passes, and reports
all files that failed, each as far as the services let it. -/
structure Covers (settings : Settings) (granule : Granule) (course : TaskCourse) : Prop where
  probes : ProbesRun granule.requested course.replies
  passes :
    PassesRun settings.passes.totalAttempts 1 (course.begun granule).results course.passes
  notices : course.notices.length = (course.final granule).unaccepted.length

/-- The course that comes of the services' answers. -/
def ofServices (services : Services) (settings : Settings) (jobId bucket : String)
    (granule : Granule) (past : Trace) : TaskCourse :=
  let replies := Probes.ofServices services bucket past granule.requested
  let probed := past ++ Probes.events bucket granule.requested replies
  let job : Job := ⟨jobId, granule.id, services.clock probed, bucket⟩
  let announcement :=
    Sending.ofDelivery services settings.delivery (.ofJob (.started job)) probed
  let announced := probed ++ announcement.events settings.delivery (.ofJob (.started job)) 1
  let begun := Probes.found granule.requested replies
  let passes := Passes.ofServices services settings.delivery (plan settings bucket) job
    settings.passes.totalAttempts 1 announced begun
  let passed := announced ++
    Passes.events settings.delivery (plan settings bucket) job 1 begun passes
  let final : Granule := { granule with results := Passes.after begun passes }
  ⟨replies, services.clock probed, announcement, passes,
    Notices.ofServices services settings.delivery job passed final.unaccepted⟩

theorem ofServices_covers (services : Services) (settings : Settings) (jobId bucket : String)
    (granule : Granule) (past : Trace) :
    Covers settings granule (ofServices services settings jobId bucket granule past) where
  probes := Probes.ofServices_run services bucket past granule.requested
  passes := Passes.ofServices_run ..
  notices := Notices.length_ofServices ..

end TaskCourse

/-! ## A task follows its steps -/

section

variable (services : Services) (settings : Settings) (bucket jobId : String) (granule : Granule)
  (past : Trace) {course : TaskCourse}
  (made : course = TaskCourse.ofServices services settings jobId bucket granule past)

include made

theorem TaskCourse.presentFiles_eq :
    Task.presentFiles services bucket granule.requested past =
      (Procedure.endedBy (Probes.failure bucket granule.requested course.replies)
        (course.begun granule).results,
        Probes.events bucket granule.requested course.replies) := by
  subst made
  exact Task.presentFiles_eq services bucket past granule.requested

theorem TaskCourse.requestRestores_eq :
    requestRestores services settings.delivery (plan settings bucket) jobId
        (course.begun granule)
        (past ++ Probes.events bucket granule.requested course.replies) =
      match course.announcement.failure .job 1 with
      | some failure =>
          (.error failure,
            course.announcement.events settings.delivery
              (.ofJob (.started (course.job jobId bucket granule))) 1)
      | none =>
          match Passes.failure 1 course.passes with
          | some failure =>
              (.error failure,
                course.announcement.events settings.delivery
                    (.ofJob (.started (course.job jobId bucket granule))) 1 ++
                  Passes.events settings.delivery (plan settings bucket)
                    (course.job jobId bucket granule) 1 (course.begun granule).results
                    course.passes)
          | none =>
              (Restores.verdict (course.job jobId bucket granule) (Notices.failure course.notices)
                  (course.final granule),
                course.announcement.events settings.delivery
                    (.ofJob (.started (course.job jobId bucket granule))) 1 ++
                  Passes.events settings.delivery (plan settings bucket)
                    (course.job jobId bucket granule) 1 (course.begun granule).results
                    course.passes ++
                  course.closing settings jobId bucket granule) := by
  subst made
  exact requestRestores_eq_stages services settings.delivery (plan settings bucket) jobId _ _ rfl
    rfl rfl rfl rfl

omit made in
theorem TaskCourse.map_verdict (course : TaskCourse) :
    (Restores.verdict (course.job jobId bucket granule) (Notices.failure course.notices)
        (course.final granule)).map (fun final => ⟨final, jobId⟩) =
      course.outcome jobId granule := by
  unfold Restores.verdict outcome
  cases Notices.failure course.notices with
  | some failure => rfl
  | none =>
      cases (course.final granule).isComplete with
      | true => rfl
      | false => rfl

theorem TaskCourse.report_eq (counted : settings.passes.maxRetries.toNat ≤ passCountBound - 2) :
    (requestRestores services settings.delivery (plan settings bucket) jobId
          (course.begun granule) >>= fun final => pure (⟨final, jobId⟩ : Report))
        (past ++ Probes.events bucket granule.requested course.replies) =
      match Task.Steps.failure (course.restoreSteps settings jobId bucket granule) with
      | some failure =>
          (.error failure,
            Task.Steps.events settings.delivery
              (Task.Steps.untilFailure (course.restoreSteps settings jobId bucket granule)))
      | none =>
          (course.outcome jobId granule,
            Task.Steps.events settings.delivery
                (course.restoreSteps settings jobId bucket granule) ++
              course.closing settings jobId bucket granule) := by
  have staged := requestRestores_eq services settings bucket jobId granule past made
  have covers : course.Covers settings granule := by
    rw [made]
    exact ofServices_covers services settings jobId bucket granule past
  have counted := covers.passes.failure_eq (PassBudget.totalAttempts_counted counted)
  have failed := covers.passes.failure_steps (plan settings bucket)
    (course.job jobId bucket granule)
  have ends := covers.passes.endsAtFailure_steps (plan settings bucket)
    (course.job jobId bucket granule)
  rw [← counted] at failed
  rw [restoreSteps, Task.Steps.failure_cons, Task.Steps.untilFailure, failed]
  have announced : (Task.Step.announce (course.job jobId bucket granule)
      course.announcement).failure = course.announcement.failure .job 1 := rfl
  rw [announced]
  cases unannounced : course.announcement.failure .job 1 with
  | some failure =>
      rw [unannounced] at staged
      rw [Procedure.bind_of_error staged]
      simp [Task.Steps.events, Task.Step.events]
  | none =>
      rw [unannounced] at staged
      rw [Option.none_or]
      cases aborted : Passes.failure 1 course.passes with
      | some failure =>
          rw [aborted] at staged
          rw [Procedure.bind_of_error staged, ends]
          dsimp only
          rw [Task.Steps.events_cons, Passes.events_steps]
          rfl
      | none =>
          rw [aborted] at staged
          rw [Procedure.bind_pure_eq_map staged, map_verdict]
          dsimp only
          rw [Task.Steps.events_cons, Passes.events_steps]
          rfl

theorem Task.carryOut_eq (counted : settings.passes.maxRetries.toNat ≤ passCountBound - 2) :
    Task.carryOut services settings bucket granule jobId past =
      match Steps.failure (course.granuleSteps settings jobId bucket granule) with
      | some failure =>
          (.error failure,
            Steps.events settings.delivery
              (Steps.untilFailure (course.granuleSteps settings jobId bucket granule)))
      | none =>
          (course.outcome jobId granule,
            Steps.events settings.delivery (course.granuleSteps settings jobId bucket granule) ++
              course.closing settings jobId bucket granule) := by
  have probed := TaskCourse.presentFiles_eq services settings bucket jobId granule past made
  have probes : ProbesRun granule.requested course.replies := by
    rw [made]
    exact (TaskCourse.ofServices_covers services settings jobId bucket granule past).probes
  have reported := TaskCourse.report_eq services settings bucket jobId granule past made counted
  have failed := Probes.failure_steps bucket granule.requested course.replies
  rw [TaskCourse.granuleSteps, Steps.failure_append, failed]
  unfold Task.carryOut
  cases unprobed : Probes.failure bucket granule.requested course.replies with
  | some failure =>
      rw [unprobed] at probed failed
      rw [Procedure.bind_of_error probed, Steps.untilFailure_append_of_failed failed,
        probes.endsAtFailure bucket, Probes.events_steps]
      rfl
  | none =>
      rw [unprobed] at probed failed
      rw [Procedure.bind_of_ok probed, Steps.untilFailure_append_of_fine failed,
        Steps.events_append, Steps.events_append, Probes.events_steps, Option.none_or]
      refine (congrArg (fun ran => (ran.1, Probes.events bucket granule.requested
        course.replies ++ ran.2)) reported).trans ?_
      cases Steps.failure (course.restoreSteps settings jobId bucket granule) with
      | some failure => rfl
      | none => exact congrArg (Prod.mk _) (List.append_assoc ..).symm

end

/-! ## The first failure -/

/-- A task fails at the first step of a course that fails. Nothing happens after that step, and
the failure keeps no result. When no step fails, the task ends with the outcome of the course.
The answers that decide about the steps are those that the services give. -/
structure EndsAtFirstFailure (services : Services) (settings : Settings) (jobId : String)
    (request : Request) (past : Trace) (ran : Except Failure Report × Trace)
    (course : TaskCourse) : Prop where
  answered : services.Answered past ran.2
  covers : ∀ granule, request.granules = [granule] → course.Covers settings granule
  failed : ∀ failure,
    Task.Steps.failure (course.steps settings jobId request) = some failure →
      ran =
          (.error failure,
            Task.Steps.events settings.delivery
              (Task.Steps.untilFailure (course.steps settings jobId request))) ∧
        failure.partialResult = none
  finished :
    Task.Steps.failure (course.steps settings jobId request) = none →
      ∃ bucket granule, request.bucket = some bucket ∧ request.granules = [granule] ∧
        ran =
          (course.outcome jobId granule,
            Task.Steps.events settings.delivery (course.steps settings jobId request) ++
              course.closing settings jobId bucket granule)

theorem TaskCourse.exists_covers (services : Services) (settings : Settings) (jobId : String)
    (request : Request) (past : Trace) :
    ∃ course : TaskCourse,
      ∀ granule, request.granules = [granule] → course.Covers settings granule := by
  by_cases single : ∃ granule, request.granules = [granule]
  · obtain ⟨granule, listed⟩ := single
    refine ⟨ofServices services settings jobId "" granule past, fun other same => ?_⟩
    cases listed.symm.trans same
    exact ofServices_covers services settings jobId "" granule past
  · exact ⟨⟨[], services.clock past, .posted, [], []⟩,
      fun granule listed => absurd ⟨granule, listed⟩ single⟩

/-- A request that fails a check is not begun. -/
theorem TaskCourse.endsAtFirstFailure_of_check (services : Services) {settings : Settings}
    {jobId : String} {request : Request} (past : Trace) {course : TaskCourse} {failure : Failure}
    (covers : ∀ granule, request.granules = [granule] → course.Covers settings granule)
    (found : Task.Steps.failure (course.steps settings jobId request) = some failure)
    (unbegun : Task.Steps.events settings.delivery
      (Task.Steps.untilFailure (course.steps settings jobId request)) = []) :
    EndsAtFirstFailure services settings jobId request past (.error failure, []) course where
  answered := trivial
  covers := covers
  failed := by
    intro other same
    cases found.symm.trans same
    rw [unbegun]
    exact ⟨rfl, Task.Steps.failure_partialResult found⟩
  finished := by
    intro fine
    cases found.symm.trans fine

/-- A request that passes the checks is carried out, step by step. -/
theorem Task.carryOut_endsAtFirstFailure (services : Services) (settings : Settings)
    (jobId : String) {request : Request} {bucket : String} {granule : Granule} (past : Trace)
    {course : TaskCourse} (given : request.bucket = some bucket)
    (listed : request.granules = [granule])
    (filled : (Step.bucket request.bucket).failure = none)
    (made : course = TaskCourse.ofServices services settings jobId bucket granule past)
    (counted : settings.passes.maxRetries.toNat ≤ passCountBound - 2) :
    EndsAtFirstFailure services settings jobId request past
      (carryOut services settings bucket granule jobId past) course := by
  have answered := carryOut_records services settings bucket granule jobId past
  have checked : Steps.failure
      [.bucket request.bucket, .granules request.granules.length] = none := by
    rw [Steps.failure_cons, Steps.failure_cons, filled, listed]
    rfl
  have split : course.steps settings jobId request =
      [.bucket request.bucket, .granules request.granules.length] ++
        course.granuleSteps settings jobId bucket granule := by
    rw [TaskCourse.steps, given, listed]
    rfl
  rw [carryOut_eq services settings bucket jobId granule past made counted] at answered ⊢
  refine ⟨answered, ?_, ?_, ?_⟩
  · intro other same
    cases listed.symm.trans same
    rw [made]
    exact TaskCourse.ofServices_covers services settings jobId bucket granule past
  · intro failure found
    have kept := Steps.failure_partialResult found
    rw [split, Steps.failure_append, checked, Option.none_or] at found
    rw [found, split, Steps.untilFailure_append_of_fine checked, Steps.events_append]
    exact ⟨rfl, kept⟩
  · intro fine
    rw [split, Steps.failure_append, checked, Option.none_or] at fine
    rw [fine, split, Steps.events_append]
    exact ⟨bucket, granule, given, listed, rfl⟩

theorem Task.run_endsAtFirstFailure (services : Services) (settings : Settings)
    (freshId : String) (request : Request) (past : Trace)
    (counted : settings.passes.maxRetries.toNat ≤ passCountBound - 2) :
    ∃ course,
      EndsAtFirstFailure services settings (jobIdOf request freshId) request past
        (run services settings freshId request past) course := by
  obtain ⟨course, covers⟩ := TaskCourse.exists_covers services settings
    (jobIdOf request freshId) request past
  cases missing : (Step.bucket request.bucket).failure with
  | some failure =>
      have ran : run services settings freshId request past = (.error failure, []) := by
        rw [run, bucketOf_eq_error request missing]
        rfl
      rw [ran]
      refine ⟨course, TaskCourse.endsAtFirstFailure_of_check services past covers ?_ ?_⟩
      · rw [TaskCourse.steps, Steps.failure_cons, missing, Option.some_or]
      · rw [TaskCourse.steps, Steps.untilFailure, missing]
        rfl
  | none =>
      obtain ⟨bucket, given, bucketRead⟩ := bucketOf_eq_ok request missing
      cases wrong : (Step.granules request.granules.length).failure with
      | some failure =>
          have ran : run services settings freshId request past = (.error failure, []) := by
            rw [run, bucketRead, granuleOf_eq_error request wrong]
            rfl
          rw [ran]
          refine ⟨course, TaskCourse.endsAtFirstFailure_of_check services past covers ?_ ?_⟩
          · rw [TaskCourse.steps, Steps.failure_cons, Steps.failure_cons, missing, wrong]
            rfl
          · rw [TaskCourse.steps, Steps.untilFailure, missing, Steps.untilFailure, wrong]
            rfl
      | none =>
          obtain ⟨granule, listed, granuleRead⟩ := granuleOf_eq_ok request wrong
          have ran : run services settings freshId request past =
              carryOut services settings bucket granule (jobIdOf request freshId) past := by
            rw [run, bucketRead, granuleRead]
          rw [ran]
          exact ⟨_, carryOut_endsAtFirstFailure services settings _ past given listed missing rfl
            counted⟩

/-! An archive that accepts one request and cannot put the next one together. -/

def brokenArchive : Services where
  probe _ _ _ := .present
  restore past _ := if past.restores.isEmpty then .accepted else .unusable "no client"
  send _ _ := .accepted
  clock _ := ⟨0, 0⟩

def threeTimes : Settings where
  expireDays := 5
  passes := ⟨2, .zero⟩
  tier := .standard
  queueUrl := "queue"
  delivery := .of 1 .zero
  endpointUrl := none
  region := none

def twoFilesAsked : Request where
  bucket := some "archive"
  granules := [⟨"granule", [⟨"a", "target"⟩, ⟨"b", "target"⟩], [], []⟩]
  jobId := some "job"

theorem brokenArchive_endsAtFirstFailure :
    ∃ course,
      EndsAtFirstFailure brokenArchive threeTimes (Task.jobIdOf twoFilesAsked "fresh")
        twoFilesAsked [] (Task.run brokenArchive threeTimes "fresh" twoFilesAsked []) course :=
  Task.run_endsAtFirstFailure brokenArchive threeTimes "fresh" twoFilesAsked [] (by decide)

end GranuleRecall
