import GranuleRecall.Proofs.Course.Failures
import GranuleRecall.Proofs.Course.Probes

/-! # The steps of a task

Everything in a task that can fail, in the order in which it is done: the checks of the request,
the probes, the announcement of the job, and then, pass by pass and entry by entry, the requests
with the reports on acceptances. -/

set_option autoImplicit false

namespace GranuleRecall

namespace Task

inductive Step
  | bucket (given : Option String)
  | granules (count : Nat)
  | probe (archive : String) (file : RequestedFile) (reply : ProbeReply)
  | announce (job : Job) (sending : Sending)
  | restore (plan : RestorePlan) (job : Job) (attempt : Nat) (file : FileResult)
      (reply : RestoreReply)
  | report (job : Job) (file : FileResult) (notice : Notice)
  | pause (duration : Time.Duration)
deriving DecidableEq, Repr

namespace Step

/-- How a step fails, if it does. -/
def failure : Step → Option Failure
  | bucket given => if given.all Text.isBlank then some missingBucket else none
  | granules count => if count = 1 then none else some (wrongGranuleCount count)
  | probe _ _ .present => none
  | probe _ _ .absent => none
  | probe archive file (.unknown message) => some (.probe archive file.key message)
  | announce _ sending => sending.failure .job 1
  | restore _ _ _ _ .accepted => none
  | restore _ _ _ _ (.rejected _) => none
  | restore _ _ _ _ (.unusable message) => some (.configuration message)
  | report _ _ notice => notice.sending.failure .file 1
  | pause _ => none

/-- What happens in a step. -/
def events (delivery : DeliveryBudget) : Step → Trace
  | bucket _ => []
  | granules _ => []
  | probe archive file reply => Probes.replyEvents archive file reply
  | announce job sending => sending.events delivery (.ofJob (.started job)) 1
  | restore plan job attempt file .accepted =>
    [.restore (plan.callFor file) .accepted,
      .log (Restores.acceptedRecord plan job attempt file)]
  | restore plan job attempt file (.rejected message) =>
    [.restore (plan.callFor file) (.rejected message),
      .log (Restores.rejectedRecord job attempt file message)]
  | restore plan _ _ file (.unusable message) =>
    [.restore (plan.callFor file) (.unusable message)]
  | report job file notice =>
    notice.sending.events delivery (Restores.acceptedMessage job file notice.time) 1
  | pause duration => [.sleep duration]

theorem failure_partialResult {step : Step} {failed : Failure}
    (found : step.failure = some failed) : failed.partialResult = none := by
  cases step with
  | bucket given =>
      simp only [failure] at found
      split at found
      · cases found
        rfl
      · cases found
  | granules count =>
      simp only [failure] at found
      split at found
      · cases found
      · cases found
        rfl
  | probe archive file reply =>
      cases reply <;> cases found
      rfl
  | announce job sending => exact Sending.failure_partialResult found
  | restore plan job attempt file reply =>
      cases reply <;> cases found
      rfl
  | report job file notice => exact Sending.failure_partialResult found
  | pause duration => cases found

end Step

/-! ## Stopping at the first failure -/

namespace Steps

/-- The failure of the first step that fails. -/
def failure (steps : List Step) : Option Failure :=
  steps.findSome? Step.failure

/-- The steps up to the first that fails, together with it. -/
def untilFailure : List Step → List Step
  | [] => []
  | step :: later =>
    match step.failure with
    | some _ => [step]
    | none => step :: untilFailure later

def events (delivery : DeliveryBudget) (steps : List Step) : Trace :=
  steps.flatMap (Step.events delivery)

variable {steps later : List Step} {failed : Failure}

theorem failure_append (steps later : List Step) :
    failure (steps ++ later) = (failure steps).or (failure later) :=
  List.findSome?_append

theorem failure_cons (step : Step) (later : List Step) :
    failure (step :: later) = step.failure.or (failure later) := by
  rw [failure, List.findSome?_cons]
  cases step.failure with
  | some failed => rfl
  | none => rfl

theorem events_cons (delivery : DeliveryBudget) (step : Step) (later : List Step) :
    events delivery (step :: later) = step.events delivery ++ events delivery later :=
  List.flatMap_cons

theorem events_append (delivery : DeliveryBudget) (steps later : List Step) :
    events delivery (steps ++ later) = events delivery steps ++ events delivery later :=
  List.flatMap_append

theorem failure_partialResult (found : failure steps = some failed) :
    failed.partialResult = none := by
  obtain ⟨step, _, stepped⟩ := List.exists_of_findSome?_eq_some found
  exact Step.failure_partialResult stepped

theorem untilFailure_append_of_fine (fine : failure steps = none) (later : List Step) :
    untilFailure (steps ++ later) = steps ++ untilFailure later := by
  induction steps with
  | nil => rfl
  | cons step steps ih =>
      rw [failure, List.findSome?_cons] at fine
      rw [List.cons_append, untilFailure]
      cases stepped : step.failure with
      | some failure =>
          rw [stepped] at fine
          cases fine
      | none =>
          rw [stepped] at fine
          exact congrArg (List.cons step) (ih fine)

theorem untilFailure_append_of_failed (found : failure steps = some failed)
    (later : List Step) : untilFailure (steps ++ later) = untilFailure steps := by
  induction steps with
  | nil => cases found
  | cons step steps ih =>
      rw [List.cons_append, untilFailure, untilFailure]
      cases stepped : step.failure with
      | some failure => rfl
      | none =>
          rw [failure, List.findSome?_cons, stepped] at found
          exact congrArg (List.cons step) (ih found)

/-- Only the last of some steps may fail. -/
def EndsAtFailure (steps : List Step) : Prop :=
  untilFailure steps = steps

theorem endsAtFailure_singleton (step : Step) : EndsAtFailure [step] := by
  unfold EndsAtFailure untilFailure
  cases step.failure with
  | some failed => rfl
  | none => rfl

theorem EndsAtFailure.after (ends : EndsAtFailure later) (steps : List Step)
    (fine : failure steps = none) : EndsAtFailure (steps ++ later) := by
  rw [EndsAtFailure, untilFailure_append_of_fine fine, ends]

end Steps

end Task

/-! ## The checks of a request -/

namespace Task

theorem isBlank_of_failure {given : Option String} {failure : Failure}
    (missing : (Step.bucket given).failure = some failure) : given.all Text.isBlank = true := by
  simp only [Step.failure] at missing
  split at missing
  next blank => exact blank
  next => cases missing

theorem length_ne_one_of_failure {count : Nat} {failure : Failure}
    (wrong : (Step.granules count).failure = some failure) : count ≠ 1 := by
  simp only [Step.failure] at wrong
  split at wrong
  next => cases wrong
  next several => exact several

section

variable (request : Request) {failure : Failure}

theorem bucketOf_eq_error (missing : (Step.bucket request.bucket).failure = some failure) :
    bucketOf request = .error failure := by
  unfold bucketOf
  cases given : request.bucket with
  | none =>
      rw [given] at missing
      cases missing
      rfl
  | some bucket =>
      rw [given] at missing
      simp only [Step.failure, Option.all_some] at missing
      split at missing
      next blank =>
        cases missing
        exact if_pos blank
      next => cases missing

theorem bucketOf_eq_ok (fine : (Step.bucket request.bucket).failure = none) :
    ∃ bucket, request.bucket = some bucket ∧ bucketOf request = .ok bucket := by
  unfold bucketOf
  cases given : request.bucket with
  | none =>
      rw [given] at fine
      cases fine
  | some bucket =>
      rw [given] at fine
      simp only [Step.failure, Option.all_some] at fine
      split at fine
      next => cases fine
      next filled => exact ⟨bucket, rfl, if_neg filled⟩

theorem granuleOf_eq_error
    (wrong : (Step.granules request.granules.length).failure = some failure) :
    granuleOf request = .error failure := by
  unfold granuleOf
  split
  next granule listed =>
    rw [listed] at wrong
    cases wrong
  next =>
    simp only [Step.failure] at wrong
    split at wrong
    next => cases wrong
    next =>
      cases wrong
      rfl

theorem granuleOf_eq_ok (fine : (Step.granules request.granules.length).failure = none) :
    ∃ granule, request.granules = [granule] ∧ granuleOf request = .ok granule := by
  simp only [Step.failure] at fine
  split at fine
  next single =>
    obtain ⟨granule, listed⟩ := List.length_eq_one_iff.mp single
    exact ⟨granule, listed, by rw [granuleOf, listed]⟩
  next => cases fine

end

end Task

/-! ## The steps of probes -/

namespace Probes

variable (bucket : String)

def steps (files : List RequestedFile) (replies : List ProbeReply) : List Task.Step :=
  (List.zip files replies).map fun (file, reply) => .probe bucket file reply

theorem failure_step (file : RequestedFile) (reply : ProbeReply) :
    (Task.Step.probe bucket file reply).failure = replyFailure bucket file reply := by
  cases reply <;> rfl

theorem failure_steps (files : List RequestedFile) (replies : List ProbeReply) :
    Task.Steps.failure (steps bucket files replies) = failure bucket files replies := by
  rw [Task.Steps.failure, steps, List.findSome?_map, failure]
  congr 1
  funext entry
  exact failure_step bucket entry.1 entry.2

theorem events_steps (delivery : DeliveryBudget) (files : List RequestedFile)
    (replies : List ProbeReply) :
    Task.Steps.events delivery (steps bucket files replies) = events bucket files replies := by
  rw [Task.Steps.events, steps, List.flatMap_map]
  rfl

end Probes

theorem ProbesRun.endsAtFailure {files : List RequestedFile} {replies : List ProbeReply}
    (run : ProbesRun files replies) (bucket : String) :
    Task.Steps.EndsAtFailure (Probes.steps bucket files replies) := by
  induction run with
  | done => rfl
  | @present file _ _ _ ih => exact ih.after [.probe bucket file .present] rfl
  | @absent file _ _ _ ih => exact ih.after [.probe bucket file .absent] rfl
  | unknown =>
      rw [Probes.steps, List.zip_cons_cons, List.zip_nil_right]
      exact Task.Steps.endsAtFailure_singleton _

/-! ## The steps of a pass -/

namespace Turn

variable (plan : RestorePlan) (job : Job) (attempt : Nat) (file : FileResult)

def steps : Turn → List Task.Step
  | kept => []
  | accepted notice =>
    [.restore plan job attempt file .accepted, .report job file notice]
  | rejected message => [.restore plan job attempt file (.rejected message)]
  | unusable message => [.restore plan job attempt file (.unusable message)]

variable (turn : Turn)

theorem failure_steps : Task.Steps.failure (turn.steps plan job attempt file) = turn.failure := by
  cases turn with
  | accepted notice =>
      have reported : Task.Steps.failure [.report job file notice] =
          notice.sending.failure .file 1 := by
        simp [Task.Steps.failure, Task.Step.failure]
      exact reported
  | _ => rfl

theorem events_steps (delivery : DeliveryBudget) :
    Task.Steps.events delivery (turn.steps plan job attempt file) =
      turn.events delivery plan job attempt file := by
  cases turn with
  | accepted notice => simp [Task.Steps.events, steps, Task.Step.events, events]
  | _ => rfl

theorem endsAtFailure_steps :
    Task.Steps.EndsAtFailure (turn.steps plan job attempt file) := by
  cases turn with
  | accepted notice =>
      exact (Task.Steps.endsAtFailure_singleton (.report job file notice)).after
        [.restore plan job attempt file .accepted] rfl
  | _ => rfl

end Turn

namespace Pass

variable (plan : RestorePlan) (job : Job) (attempt : Nat)

def steps (files : List FileResult) (turns : List Turn) : List Task.Step :=
  (List.zipWith (Turn.steps plan job attempt) files turns).flatten

theorem events_steps (delivery : DeliveryBudget) (files : List FileResult)
    (turns : List Turn) :
    Task.Steps.events delivery (steps plan job attempt files turns) =
      events delivery plan job attempt files turns := by
  induction files generalizing turns with
  | nil => rfl
  | cons file others ih =>
      cases turns with
      | nil => rfl
      | cons turn turns =>
          rw [steps, List.zipWith_cons_cons, List.flatten_cons, Task.Steps.events_append,
            Turn.events_steps]
          exact congrArg (_ ++ ·) (ih turns)

theorem failure_steps {files : List FileResult} {turns : List Turn}
    (within : turns.length ≤ files.length) :
    Task.Steps.failure (steps plan job attempt files turns) = failure turns := by
  induction files generalizing turns with
  | nil =>
      rw [List.length_eq_zero_iff.mp (Nat.le_zero.mp within)]
      rfl
  | cons file others ih =>
      cases turns with
      | nil => rfl
      | cons turn turns =>
          have later := ih (Nat.le_of_succ_le_succ within)
          rw [steps] at later
          rw [steps, List.zipWith_cons_cons, List.flatten_cons, Task.Steps.failure_append,
            Turn.failure_steps, later, failure, failure, List.findSome?_cons]
          cases turn.failure <;> rfl

end Pass

theorem PassRuns.endsAtFailure_steps {files : List FileResult} {turns : List Turn}
    (run : PassRuns files turns) (plan : RestorePlan) (job : Job) (attempt : Nat) :
    Task.Steps.EndsAtFailure (Pass.steps plan job attempt files turns) := by
  induction run with
  | done => rfl
  | kept _ _ ih => exact ih
  | @accepted file _ notice _ _ posted _ ih =>
      refine ih.after (Turn.steps plan job attempt file (.accepted notice)) ?_
      rw [Turn.failure_steps]
      exact Sending.failure_eq_none_iff.mpr posted
  | @rejected file _ message _ _ _ ih =>
      refine ih.after (Turn.steps plan job attempt file (.rejected message)) ?_
      rw [Turn.failure_steps]
      rfl
  | undelivered _ _ =>
      rw [Pass.steps, List.zipWith_cons_cons, List.zipWith_nil_right, List.flatten_singleton]
      exact Turn.endsAtFailure_steps ..
  | unusable _ =>
      rw [Pass.steps, List.zipWith_cons_cons, List.zipWith_nil_right, List.flatten_singleton]
      exact Turn.endsAtFailure_steps ..

/-! ## The steps of all passes -/

def Passes.steps (plan : RestorePlan) (job : Job) :
    (attempt : Nat) → List FileResult → List (List Turn) → List Task.Step
  | _, _, [] => []
  | attempt, files, [turns] => Pass.steps plan job attempt files turns
  | attempt, files, turns :: next :: later =>
    Pass.steps plan job attempt files turns ++ .pause plan.passes.sleep ::
      steps plan job (attempt + 1) (Pass.after files turns) (next :: later)

section

variable (plan : RestorePlan) (job : Job) (attempt : Nat) (files : List FileResult)

theorem Passes.steps_cons (turns : List Turn) {later : List (List Turn)} (more : later ≠ []) :
    Passes.steps plan job attempt files (turns :: later) =
      Pass.steps plan job attempt files turns ++ .pause plan.passes.sleep ::
        Passes.steps plan job (attempt + 1) (Pass.after files turns) later := by
  cases later with
  | nil => exact absurd rfl more
  | cons next later => rfl

theorem Passes.events_steps (delivery : DeliveryBudget) (passes : List (List Turn)) :
    Task.Steps.events delivery (Passes.steps plan job attempt files passes) =
      Passes.events delivery plan job attempt files passes := by
  induction passes generalizing attempt files with
  | nil => rfl
  | cons turns later ih =>
      by_cases last : later = []
      · rw [last, Passes.steps, Pass.events_steps, Passes.events_singleton]
      · rw [Passes.steps_cons plan job attempt files turns last, Task.Steps.events_append,
          Pass.events_steps, Passes.events_cons delivery plan job attempt files turns last, ← ih]
        rfl

variable {attempt files} {passesLeft : Nat} {passes : List (List Turn)}
  (run : PassesRun passesLeft attempt files passes)

include run

theorem PassesRun.failure_steps :
    Task.Steps.failure (Passes.steps plan job attempt files passes) =
      passes.findSome? Pass.failure := by
  induction run with
  | spent => rfl
  | failed ran _ =>
      rw [Passes.steps, Pass.failure_steps _ _ _ ran.length_le, List.findSome?_singleton]
  | last ran _ _ =>
      rw [Passes.steps, Pass.failure_steps _ _ _ ran.length_le, List.findSome?_singleton]
  | repeated ran passed _ left _ rest ih =>
      rw [Passes.steps_cons _ _ _ _ _ (rest.ne_nil left), Task.Steps.failure_append,
        Pass.failure_steps _ _ _ ran.length_le, passed, List.findSome?_cons, passed, ← ih]
      rfl

theorem PassesRun.endsAtFailure_steps :
    Task.Steps.EndsAtFailure (Passes.steps plan job attempt files passes) := by
  induction run with
  | spent => rfl
  | failed ran _ => exact ran.endsAtFailure_steps ..
  | last ran _ _ => exact ran.endsAtFailure_steps ..
  | repeated ran passed _ left _ rest ih =>
      rw [Passes.steps_cons _ _ _ _ _ (rest.ne_nil left)]
      refine Task.Steps.EndsAtFailure.after (ih.after [_] rfl) _ ?_
      rw [Pass.failure_steps _ _ _ ran.length_le, passed]

end

end GranuleRecall
