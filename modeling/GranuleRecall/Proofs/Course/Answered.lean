import GranuleRecall.Run.Task

/-! # Where the answers in a trace come from

A trace shows calls with their answers. In the trace of a run each answer is the one that the
service gives at that point, after everything that happened before. -/

set_option autoImplicit false

namespace GranuleRecall

namespace Services

variable (services : Services)

/-- An event after some trace has the answer that the service gives there. -/
def Gives (past : Trace) : Event → Prop
  | .probe bucket key reply => reply = services.probe past bucket key
  | .restore call reply => reply = services.restore past call
  | .send message reply => reply = services.send past message
  | .sleep _ => True
  | .log _ => True

def Answered : (past added : Trace) → Prop
  | _, [] => True
  | past, event :: later =>
    services.Gives past event ∧ Answered (past ++ [event]) later

variable {services}

theorem Answered.append {past added later : Trace} (first : services.Answered past added)
    (second : services.Answered (past ++ added) later) :
    services.Answered past (added ++ later) := by
  induction added generalizing past with
  | nil =>
      rw [List.append_nil] at second
      exact second
  | cons event added ih =>
      obtain ⟨given, rest⟩ := first
      refine ⟨given, ih rest ?_⟩
      rwa [List.append_assoc]

theorem Answered.gives {past added : Trace} (answered : services.Answered past added)
    {event : Event} (member : event ∈ added) : ∃ before, services.Gives before event := by
  induction added generalizing past with
  | nil => cases member
  | cons first added ih =>
      obtain ⟨given, rest⟩ := answered
      rcases List.mem_cons.mp member with rfl | later
      · exact ⟨past, given⟩
      · exact ih rest later

end Services

/-! ## Procedures that record answers -/

/-- Whatever happened before, a procedure adds only answers that the services give. -/
def Procedure.Records {α : Type} (services : Services) (procedure : Procedure α) : Prop :=
  ∀ past, services.Answered past (procedure past).2

namespace Procedure.Records

variable {services : Services} {α β : Type}

theorem bind {first : Procedure α} {next : α → Procedure β} (begun : Records services first)
    (continued : ∀ value, Records services (next value)) :
    Records services (first >>= next) := by
  intro past
  have answered := begun past
  rcases ran : first past with ⟨outcome, added⟩
  rw [ran] at answered
  cases outcome with
  | error failure =>
      rw [bind_of_error ran]
      exact answered
  | ok value =>
      rw [bind_of_ok ran]
      exact answered.append (continued value _)

theorem pure (value : α) : Records services (Pure.pure value : Procedure α) :=
  fun _ => trivial

theorem fail (failure : Failure) : Records services (Procedure.fail failure : Procedure α) :=
  fun _ => trivial

theorem attempt {procedure : Procedure α} (records : Records services procedure) :
    Records services procedure.attempt :=
  records

theorem tell (record : LogRecord) : Records services (Procedure.tell record) :=
  fun _ => ⟨trivial, trivial⟩

theorem sleep (duration : Time.Duration) : Records services (Procedure.sleep duration) :=
  fun _ => ⟨trivial, trivial⟩

theorem now : Records services services.now :=
  fun _ => trivial

theorem askProbe (bucket key : String) : Records services (services.askProbe bucket key) :=
  fun _ => ⟨rfl, trivial⟩

theorem askRestore (call : RestoreCall) : Records services (services.askRestore call) :=
  fun _ => ⟨rfl, trivial⟩

theorem askSend (message : Message) : Records services (services.askSend message) :=
  fun _ => ⟨rfl, trivial⟩

end Procedure.Records

/-! ## A run records answers -/

section

variable (services : Services) (delivery : DeliveryBudget) (plan : RestorePlan) (job : Job)

open Procedure

theorem Delivery.sendFrom_records (message : Message) (attemptsLeft attempt : Nat) :
    Records services (sendFrom services delivery message attemptsLeft attempt) := by
  induction attemptsLeft generalizing attempt with
  | zero =>
      unfold sendFrom
      refine Records.bind (.askSend message) fun reply => ?_
      cases reply with
      | accepted => exact .tell _
      | refused reasons => exact Records.bind (.tell _) fun _ => .fail _
  | succ attemptsLeft ih =>
      unfold sendFrom
      refine Records.bind (.askSend message) fun reply => ?_
      cases reply with
      | accepted => exact .tell _
      | refused reasons =>
          exact Records.bind (.tell _) fun _ => .bind (.sleep _) fun _ => ih (attempt + 1)

theorem deliver_records (message : Message) :
    Records services (deliver services delivery message) :=
  Delivery.sendFrom_records services delivery message (delivery.attempts - 1) 1

namespace Restores

theorem turn_records (attempt : Nat) (file : FileResult) :
    Records services (turn services delivery plan job attempt file) := by
  unfold turn requestFile
  split
  next => exact .pure _
  next =>
    refine Records.bind (.askRestore _) fun reply => ?_
    cases reply with
    | accepted =>
        refine Records.bind (.tell _) fun _ => .bind .now fun _ => ?_
        exact .bind (deliver_records services delivery _) fun _ => .pure _
    | rejected message => exact Records.bind (.tell _) fun _ => .pure _
    | unusable message => exact .fail _

theorem pass_records (attempt : Nat) (files : List FileResult) :
    Records services (pass services delivery plan job attempt files) := by
  induction files with
  | nil => exact .pure _
  | cons file others ih =>
      refine Records.bind (turn_records services delivery plan job attempt file) fun _ => ?_
      exact .bind ih fun _ => .pure _

theorem passesFrom_records (passesLeft attempt : Nat) (files : List FileResult) :
    Records services (passesFrom services delivery plan job passesLeft attempt files) := by
  induction passesLeft generalizing attempt files with
  | zero => exact .pure _
  | succ passesLeft ih =>
      unfold passesFrom
      refine Records.bind (pass_records services delivery plan job attempt files) fun files => ?_
      split
      · exact .fail _
      · split
        · exact .pure _
        · exact Records.bind (.sleep _) fun _ => ih (attempt + 1) files

theorem reportFile_records (file : FileResult) :
    Records services (reportFile services delivery job file) := by
  refine Records.bind .now fun time => ?_
  cases FileEvent.failed job file (failureMessage file) time with
  | error failure => exact .fail _
  | ok event => exact (deliver_records services delivery (.ofFile event)).attempt

theorem reportFailed_records (files : List FileResult) :
    Records services (reportFailed services delivery job files) := by
  induction files with
  | nil => exact .pure _
  | cons file others ih =>
      refine Records.bind (reportFile_records services delivery job file) fun outcome => ?_
      refine .bind ih fun later => ?_
      cases outcome with
      | error failure => exact .pure _
      | ok _ => exact .pure _

theorem conclude_records (granule : Granule) :
    Records services (conclude services delivery plan job granule) := by
  refine Records.bind (reportFailed_records services delivery job _) fun failure => ?_
  cases failure with
  | some failure => exact .fail _
  | none =>
      dsimp only
      split
      · exact .pure _
      · exact Records.bind (.tell _) fun _ => .fail _

end Restores

theorem requestRestores_records (jobId : String) (granule : Granule) :
    Records services (requestRestores services delivery plan jobId granule) := by
  refine Records.bind .now fun time => ?_
  refine .bind (deliver_records services delivery _) fun _ => ?_
  refine .bind (Restores.passesFrom_records services delivery plan _ _ 1 _) fun files => ?_
  exact Restores.conclude_records services delivery plan _ _

theorem Task.presentFiles_records (bucket : String) (files : List RequestedFile) :
    Records services (presentFiles services bucket files) := by
  induction files with
  | nil => exact .pure _
  | cons file others ih =>
      refine Records.bind (.askProbe bucket file.key) fun reply => ?_
      cases reply with
      | present => exact Records.bind (.tell _) fun _ => .bind ih fun _ => .pure _
      | absent => exact Records.bind (.tell _) fun _ => ih
      | unknown message => exact .fail _

theorem Task.carryOut_records (settings : Settings) (bucket : String) (granule : Granule)
    (jobId : String) :
    Records services (carryOut services settings bucket granule jobId) := by
  refine Records.bind (presentFiles_records services bucket _) fun files => ?_
  exact .bind (requestRestores_records services settings.delivery _ _ _) fun _ => .pure _

end

end GranuleRecall
