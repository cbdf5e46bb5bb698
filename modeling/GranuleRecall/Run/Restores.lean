import GranuleRecall.Run.Delivery

/-! # Requesting restores

The restores of one granule are requested in passes. A pass requests every file that has not been
accepted; passes follow until all are accepted or the budget is used up, with a wait between two
passes. Each acceptance is reported at once, and after the last pass each file that was never
accepted is reported as failed. -/
set_option autoImplicit false

namespace GranuleRecall

structure RestorePlan where
  bucket : String
  expireDays : Int
  tier : Tier
  passes : PassBudget
deriving DecidableEq, Repr

def RestorePlan.callFor (plan : RestorePlan) (file : FileResult) : RestoreCall :=
  ⟨plan.bucket, file.key, plan.expireDays, plan.tier⟩

namespace Restores

/-- Reported for a file that was never accepted and has no message of a rejection. -/
def unknownRejection : String := "Unknown error occurred while requesting restore."

def acceptedRecord (plan : RestorePlan) (job : Job) (attempt : Nat) (file : FileResult) :
    LogRecord where
  level := .info
  source := .restores
  message := s!"Restore {file.key} from {plan.bucket} attempt {attempt} successful."
  fields := [("job_id", .text job.id), ("attempt", .number attempt)]

def rejectedRecord (job : Job) (attempt : Nat) (file : FileResult) (message : String) :
    LogRecord where
  level := .warn
  source := .restores
  message := s!"Restore request failed: {message}"
  fields := [("job_id", .text job.id), ("attempt", .number attempt), ("key", .text file.key)]

def requestFile (services : Services) (delivery : DeliveryBudget) (plan : RestorePlan)
    (job : Job) (attempt : Nat) (file : FileResult) : Procedure FileResult := do
  match ← services.askRestore (plan.callFor file) with
  | .accepted =>
    Procedure.tell (acceptedRecord plan job attempt file)
    let now ← services.now
    deliver services delivery (.ofFile (.pending job file.accept now))
    return file.accept
  | .rejected message =>
    Procedure.tell (rejectedRecord job attempt file message)
    return file.reject message
  | .unusable message => Procedure.fail (.configuration message)

/-- The turn of a file in a pass. One that has been accepted is left alone. -/
def turn (services : Services) (delivery : DeliveryBudget) (plan : RestorePlan) (job : Job)
    (attempt : Nat) (file : FileResult) : Procedure FileResult :=
  if file.accepted then return file
  else requestFile services delivery plan job attempt file

def pass (services : Services) (delivery : DeliveryBudget) (plan : RestorePlan) (job : Job)
    (attempt : Nat) : List FileResult → Procedure (List FileResult)
  | [] => return []
  | file :: others => do
    let file ← turn services delivery plan job attempt file
    let others ← pass services delivery plan job attempt others
    return file :: others

/-- The passes from the one of some number on, of which the given count may be made. The number
of a pass has to be represented together with the one after it. -/
def passesFrom (services : Services) (delivery : DeliveryBudget) (plan : RestorePlan)
    (job : Job) : (passesLeft attempt : Nat) → List FileResult → Procedure (List FileResult)
  | 0, _, files => return files
  | passesLeft + 1, attempt, files => do
    let files ← pass services delivery plan job attempt files
    if passCountBound ≤ attempt then Procedure.fail .passCountOverflow
    else if passesLeft = 0 || files.all (·.accepted) then return files
    else
      Procedure.sleep plan.passes.sleep
      passesFrom services delivery plan job passesLeft (attempt + 1) files

def failureMessage (file : FileResult) : String :=
  if file.rejection.isEmpty then unknownRejection else file.rejection

/-- Reports one file as failed. A failure to deliver the report is a result. -/
def reportFile (services : Services) (delivery : DeliveryBudget) (job : Job)
    (file : FileResult) : Procedure (Except Failure Unit) := do
  let now ← services.now
  match FileEvent.failed job file (failureMessage file) now with
  | .error failure => Procedure.fail failure
  | .ok event => (deliver services delivery (.ofFile event)).attempt

/-- Reports files as failed, each with its full budget, and gives the first failure to deliver a
report. -/
def reportFailed (services : Services) (delivery : DeliveryBudget) (job : Job) :
    List FileResult → Procedure (Option Failure)
  | [] => return none
  | file :: others => do
    let outcome ← reportFile services delivery job file
    let later ← reportFailed services delivery job others
    match outcome with
    | .error failure => return some failure
    | .ok _ => return later

def incompleteRecord (plan : RestorePlan) (job : Job) (granule : Granule) : LogRecord where
  level := .error
  source := .restores
  message := s!"One or more files failed to be requested from {plan.bucket}"
  fields := [("job_id", .text job.id), ("granule_id", .text granule.id),
    ("failed", .number granule.unaccepted.length)]

/-- Reports failed files and decides the outcome for a granule after its last pass. -/
def conclude (services : Services) (delivery : DeliveryBudget) (plan : RestorePlan) (job : Job)
    (granule : Granule) : Procedure Granule := do
  match ← reportFailed services delivery job granule.unaccepted with
  | some failure => Procedure.fail failure
  | none =>
    if granule.isComplete then return granule
    else
      Procedure.tell (incompleteRecord plan job granule)
      Procedure.fail (.incomplete job.id granule)

end Restores

/-- Requests the restores of a granule's files and reports every change. The job is announced
before anything is requested. -/
def requestRestores (services : Services) (delivery : DeliveryBudget) (plan : RestorePlan)
    (jobId : String) (granule : Granule) : Procedure Granule := do
  let requestTime ← services.now
  let job : Job := ⟨jobId, granule.id, requestTime, plan.bucket⟩
  deliver services delivery (.ofJob (.started job))
  let files ←
    Restores.passesFrom services delivery plan job plan.passes.totalAttempts 1 granule.results
  Restores.conclude services delivery plan job { granule with results := files }

end GranuleRecall
