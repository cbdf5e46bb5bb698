import GranuleRecall.Granule.Wire

/-! # Requests

What a run is asked to do: the archive bucket, the granules and a job id, read from the JSON text
of an event. -/
set_option autoImplicit false

namespace GranuleRecall

open Json

/-- A request. Whether it can be carried out is decided when it runs. -/
structure Request where
  bucket : Option String
  granules : List Granule
  jobId : Option String
deriving Repr

namespace Request

/-! ## The configuration of an event -/

inductive BucketSlot
  | bucket
deriving DecidableEq

/-- The record of an event's configuration. The bucket goes by two names. -/
def bucketRecord : Record where
  Slot := BucketSlot
  slotsEq := inferInstance
  title := "struct TaskConfig"
  slots := [.bucket]
  name _ := "glacier-bucket"
  slot? name :=
    if name = "glacier-bucket" ∨ name = "cold_storage_bucket" then some .bucket else none
  Content _ := Option String
  decode _ := decodeOption decodeText

def decodeBucket : Decoder (Option String) :=
  bucketRecord.decodeEither fun filled =>
    let bucket : Option (Option String) := filled .bucket
    .ok (bucket.getD none)

/-! ## The input of an event -/

inductive InputSlot
  | granules
  | jobId
deriving DecidableEq

abbrev InputSlot.Content : InputSlot → Type
  | .granules => List Granule
  | .jobId => Option String

def InputSlot.decode : (slot : InputSlot) → Decoder slot.Content
  | .granules => decodeArray Granule.decode
  | .jobId => decodeOption decodeText

def inputRecord : Record where
  Slot := InputSlot
  slotsEq := inferInstance
  title := "struct TaskInput"
  slots := [.granules, .jobId]
  name
    | .granules => "granules"
    | .jobId => "job_id"
  slot? name :=
    if name = "granules" then some .granules
    else if name = "job_id" then some .jobId
    else none
  Content := InputSlot.Content
  decode := InputSlot.decode

def decodeInput : Decoder (List Granule × Option String) :=
  inputRecord.decodeEither fun filled =>
    let granules : Option (List Granule) := filled .granules
    let jobId : Option (Option String) := filled .jobId
    .ok (granules.getD [], jobId.getD none)

/-! ## Events -/

inductive Slot
  | configuration
  | input
deriving DecidableEq

abbrev Slot.Content : Slot → Type
  | .configuration => Option String
  | .input => List Granule × Option String

def Slot.decode : (slot : Slot) → Decoder slot.Content
  | .configuration => decodeBucket
  | .input => decodeInput

def record : Record where
  Slot := Slot
  slotsEq := inferInstance
  title := "struct TaskEvent"
  slots := [.configuration, .input]
  name
    | .configuration => "config"
    | .input => "input"
  slot? name :=
    if name = "config" then some .configuration
    else if name = "input" then some .input
    else none
  Content := Slot.Content
  decode := Slot.decode

/-- A request from the members of an event, of which the input has to be there. -/
def build (filled : record.Filled) : Except record.Slot Request := do
  let configuration : Option (Option String) := filled .configuration
  let (granules, jobId) ← Record.required filled .input
  return ⟨configuration.getD none, granules, jobId⟩

def decode : Decoder Request :=
  record.decodeEither build

def parse (text : String) : Except Problem Request :=
  decodeDocument decode text

end Request

end GranuleRecall
