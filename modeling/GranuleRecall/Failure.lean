import GranuleRecall.Granule.Basic

/-! # Failures

The ways in which a step of a run can fail, and the wording of each. -/
set_option autoImplicit false

namespace GranuleRecall

inductive Failure
  /-- A setting or the request itself cannot be used. -/
  | configuration (message : String)
  | unreadable (message : String)
  | malformed (message : String)
  | probe (bucket key message : String)
  | rejected (bucket key message : String)
  | undelivered (table : String) (attempts : Nat) (message : String)
  | invalidEvent (message : String)
  /-- The run came to its end, but some files were never accepted; all results are kept. -/
  | incomplete (jobId : String) (granule : Granule)
  /-- The count of passes left the range in which passes are counted. -/
  | passCountOverflow
deriving Repr

namespace Failure

def message : Failure → String
  | .configuration detail => s!"Configuration error: {detail}"
  | .unreadable detail => s!"I/O error: {detail}"
  | .malformed detail => s!"Serde JSON error: {detail}"
  | .probe bucket key detail => s!"Storage error checking s3://{bucket}/{key}: {detail}"
  | .rejected bucket key detail =>
    s!"Restore request for s3://{bucket}/{key} rejected: {detail}"
  | .undelivered table attempts detail =>
    s!"Failed to deliver {table} status event after {attempts} attempt(s): {detail}"
  | .invalidEvent detail => s!"Invalid status event: {detail}"
  | .incomplete jobId granule =>
    s!"One or more files failed to be requested for granule {granule.id} (job {jobId})"
  | .passCountOverflow => ""

/-- What a failure goes back to, where that is told apart from the failure itself. -/
def cause : Failure → Option String
  | .unreadable detail => some detail
  | .malformed detail => some detail
  | _ => none

/-- The job id and the granule of a run that came to its end without all files accepted. -/
def partialResult : Failure → Option (String × Granule)
  | .incomplete jobId granule => some (jobId, granule)
  | _ => none

end Failure

end GranuleRecall
