import GranuleRecall.Request
import GranuleRecall.Run.Restores
import GranuleRecall.Settings.Basic

/-! # The task

Carrying out a request: it has to name a bucket and one granule; the files that are in the
archive are found, and their restores are requested. -/
set_option autoImplicit false

namespace GranuleRecall

/-- What a run reports: the granule with all results, and the id of the job. -/
structure Report where
  granule : Granule
  jobId : String
deriving Repr

namespace Report

def toJson (report : Report) : Json :=
  .object [("granules", .array [report.granule.toJson]), ("job_id", .text report.jobId)]

def render (report : Report) : String :=
  report.toJson.render

def ofFailure? (failure : Failure) : Option Report :=
  failure.partialResult.map fun (jobId, granule) => ⟨granule, jobId⟩

end Report

namespace Task

def missingBucket : Failure :=
  .configuration "request does not contain a config value for glacier-bucket"

def wrongGranuleCount (count : Nat) : Failure :=
  .configuration
    s!"request_files can only accept 1 granule in the list. This input contains {count}"

/-- The bucket of a request. A blank one does not count; any other is taken as it is. -/
def bucketOf (request : Request) : Except Failure String :=
  match request.bucket with
  | none => .error missingBucket
  | some bucket => if Text.isBlank bucket then .error missingBucket else .ok bucket

def granuleOf (request : Request) : Except Failure Granule :=
  match request.granules with
  | [granule] => .ok granule
  | granules => .error (wrongGranuleCount granules.length)

/-- The job id of a request, or a fresh one when there is none or an empty one. -/
def jobIdOf (request : Request) (freshId : String) : String :=
  match request.jobId with
  | none => freshId
  | some jobId => if jobId.isEmpty then freshId else jobId

def presentRecord (file : RequestedFile) : LogRecord where
  level := .info
  source := .task
  message := s!"Added {file.key} to the list of files we'll attempt to recover."
  fields := []

def absentRecord (bucket : String) (file : RequestedFile) : LogRecord where
  level := .warn
  source := .task
  message := "Object not found in archive, skipping"
  fields := [("bucket", .text bucket), ("key", .text file.key)]

def presentFiles (services : Services) (bucket : String) :
    List RequestedFile → Procedure (List FileResult)
  | [] => return []
  | file :: others => do
    match ← services.askProbe bucket file.key with
    | .present =>
      Procedure.tell (presentRecord file)
      let found ← presentFiles services bucket others
      return .pending file :: found
    | .absent =>
      Procedure.tell (absentRecord bucket file)
      presentFiles services bucket others
    | .unknown message => Procedure.fail (.probe bucket file.key message)

def carryOut (services : Services) (settings : Settings) (bucket : String) (granule : Granule)
    (jobId : String) : Procedure Report := do
  let files ← presentFiles services bucket granule.requested
  let plan : RestorePlan := ⟨bucket, settings.expireDays, settings.tier, settings.passes⟩
  let granule ←
    requestRestores services settings.delivery plan jobId { granule with results := files }
  return ⟨granule, jobId⟩

/-- Carries out a request. The fresh id is taken when the request has none. -/
def run (services : Services) (settings : Settings) (freshId : String) (request : Request) :
    Procedure Report :=
  match bucketOf request with
  | .error failure => Procedure.fail failure
  | .ok bucket =>
    match granuleOf request with
    | .error failure => Procedure.fail failure
    | .ok granule => carryOut services settings bucket granule (jobIdOf request freshId)

end Task

end GranuleRecall
