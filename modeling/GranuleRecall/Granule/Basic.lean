import GranuleRecall.Json.Basic

/-! # Granules

A granule is a unit of archived data that is restored as a group. It lists the files asked for,
and for each file of which a restore is to be requested how that went. -/
set_option autoImplicit false

namespace GranuleRecall

/-- A file that is asked for: its key in the archive, and the bucket it is to be restored to. -/
structure RequestedFile where
  key : String
  destination : String
deriving DecidableEq, Repr

structure FileResult where
  key : String
  destination : String
  accepted : Bool
  /-- Why the last request was rejected; empty when none was, or after acceptance. -/
  rejection : String
deriving DecidableEq, Repr

/-- A granule. Members of its text that mean nothing here are kept as they are. -/
structure Granule where
  id : String
  requested : List RequestedFile
  results : List FileResult
  extra : List (String × Json)
deriving Repr

def lastSegment (key : String) : String :=
  String.ofList (key.toList.reverse.takeWhile (· != '/')).reverse

namespace FileResult

def pending (file : RequestedFile) : FileResult :=
  ⟨file.key, file.destination, false, ""⟩

def requested (result : FileResult) : RequestedFile :=
  ⟨result.key, result.destination⟩

def filename (result : FileResult) : String :=
  lastSegment result.key

def accept (result : FileResult) : FileResult :=
  { result with accepted := true, rejection := "" }

/-- After a request was rejected. Whether an earlier one was accepted is not touched. -/
def reject (result : FileResult) (message : String) : FileResult :=
  { result with rejection := message }

end FileResult

namespace Granule

def isComplete (granule : Granule) : Bool :=
  granule.results.all (·.accepted)

def unaccepted (granule : Granule) : List FileResult :=
  granule.results.filter (!·.accepted)

theorem isComplete_iff_unaccepted_eq_nil (granule : Granule) :
    granule.isComplete = true ↔ granule.unaccepted = [] := by
  simp [isComplete, unaccepted, List.filter_eq_nil_iff]

end Granule

end GranuleRecall
