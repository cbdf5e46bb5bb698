import GranuleRecall.Failure
import GranuleRecall.Json.Printer
import GranuleRecall.Time.Instant

/-! # Status events

What the recovery database is told: that a job was started, and how each file of it fares. The
codes and the names of members are fixed by the reader of the queue. -/
set_option autoImplicit false

namespace GranuleRecall

/-- The status of a job or a file. The requests made here lead to `pending` and `failed`; the
other two are reached later on. -/
inductive StatusCode
  | pending
  | staged
  | failed
  | success
deriving DecidableEq, Repr

namespace StatusCode

def code : StatusCode → Nat
  | .pending => 1
  | .staged => 2
  | .failed => 3
  | .success => 4

/-- Whether a status is final. -/
def isTerminal : StatusCode → Bool
  | .failed | .success => true
  | .pending | .staged => false

def toJson (status : StatusCode) : Json :=
  .natural status.code

theorem code_injective {left right : StatusCode} (same : left.code = right.code) :
    left = right := by
  cases left <;> cases right <;> first | rfl | simp [code] at same

end StatusCode

/-- One restore session for one granule. -/
structure Job where
  id : String
  granuleId : String
  requestTime : Time.Instant
  archiveBucket : String
deriving DecidableEq, Repr

def timeJson (instant : Time.Instant) : Json :=
  .text instant.render

def optionalMember (name : String) : Option Json → List (String × Json)
  | none => []
  | some value => [(name, value)]

/-! ## Jobs -/

structure JobEvent where
  jobId : String
  granuleId : String
  status : StatusCode
  requestTime : Time.Instant
  completionTime : Option Time.Instant
  archiveBucket : String
deriving DecidableEq, Repr

namespace JobEvent

def started (job : Job) : JobEvent where
  jobId := job.id
  granuleId := job.granuleId
  status := .pending
  requestTime := job.requestTime
  completionTime := none
  archiveBucket := job.archiveBucket

def toJson (event : JobEvent) : Json :=
  .object ([("job_id", .text event.jobId), ("granule_id", .text event.granuleId),
      ("status_id", event.status.toJson), ("request_time", timeJson event.requestTime)] ++
    optionalMember "completion_time" (event.completionTime.map timeJson) ++
    [("archive_destination", .text event.archiveBucket)])

end JobEvent

/-! ## Files -/

structure FileEvent where
  jobId : String
  granuleId : String
  filename : String
  key : String
  destination : String
  status : StatusCode
  errorMessage : Option String
  requestTime : Time.Instant
  lastUpdate : Time.Instant
  completionTime : Option Time.Instant
deriving DecidableEq, Repr

namespace FileEvent

/-- The event of a file with some status. An empty error message counts as none; a final status
is complete at once. -/
def withStatus (job : Job) (file : FileResult) (status : StatusCode)
    (errorMessage : Option String) (now : Time.Instant) : FileEvent where
  jobId := job.id
  granuleId := job.granuleId
  filename := file.filename
  key := file.key
  destination := file.destination
  status := status
  errorMessage := errorMessage.filter (!·.isEmpty)
  requestTime := job.requestTime
  lastUpdate := now
  completionTime := if status.isTerminal then some now else none

/-- The event of a file with any status; a failed one requires an error message. -/
def create (job : Job) (file : FileResult) (status : StatusCode)
    (errorMessage : Option String) (now : Time.Instant) : Except Failure FileEvent :=
  let event := withStatus job file status errorMessage now
  if status = .failed ∧ event.errorMessage = none then
    .error (.invalidEvent s!"error message is required for a failed status on {file.key}")
  else .ok event

def pending (job : Job) (file : FileResult) (now : Time.Instant) : FileEvent :=
  withStatus job file .pending none now

def failed (job : Job) (file : FileResult) (errorMessage : String) (now : Time.Instant) :
    Except Failure FileEvent :=
  create job file .failed (some errorMessage) now

def toJson (event : FileEvent) : Json :=
  .object ([("job_id", .text event.jobId), ("granule_id", .text event.granuleId),
      ("filename", .text event.filename), ("key_path", .text event.key),
      ("restore_destination", .text event.destination), ("status_id", event.status.toJson)] ++
    optionalMember "error_message" (event.errorMessage.map .text) ++
    [("request_time", timeJson event.requestTime), ("last_update", timeJson event.lastUpdate)] ++
    optionalMember "completion_time" (event.completionTime.map timeJson))

theorem failed_eq_ok {errorMessage : String} (given : errorMessage ≠ "") (job : Job)
    (file : FileResult) (now : Time.Instant) :
    failed job file errorMessage now =
      .ok (withStatus job file .failed (some errorMessage) now) := by
  simp [failed, create, withStatus, Option.filter, given]

end FileEvent

end GranuleRecall
