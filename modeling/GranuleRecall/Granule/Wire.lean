import GranuleRecall.Granule.Basic
import GranuleRecall.Json.Decode
import GranuleRecall.Json.Printer

/-! # Granules as JSON

The members of granules and of their files, how they are read, and how they are written. A
granule is an object; its files may also be arrays of their fields. -/
set_option autoImplicit false

namespace GranuleRecall

open Json

/-! ## Requested files -/

namespace RequestedFile

inductive Slot
  | key
  | destination
deriving DecidableEq

/-- The record of a requested file. Both fields are texts. -/
def record : Record where
  Slot := Slot
  slotsEq := inferInstance
  title := "struct FileKey"
  slots := [.key, .destination]
  name
    | .key => "key"
    | .destination => "dest_bucket"
  slot? name :=
    if name = "key" then some .key
    else if name = "dest_bucket" then some .destination
    else none
  Content _ := String
  decode _ := decodeText

def build (filled : record.Filled) : Except record.Slot RequestedFile := do
  let key ← Record.required filled .key
  let destination ← Record.required filled .destination
  return ⟨key, destination⟩

def decode : Decoder RequestedFile :=
  record.decodeEither build

def toJson (file : RequestedFile) : Json :=
  .object [("key", .text file.key), ("dest_bucket", .text file.destination)]

end RequestedFile

/-! ## Results -/

namespace FileResult

inductive Slot
  | key
  | destination
  | accepted
  | rejection
deriving DecidableEq

abbrev Slot.Content : Slot → Type
  | .accepted => Bool
  | _ => String

def Slot.decode : (slot : Slot) → Decoder slot.Content
  | .key => decodeText
  | .destination => decodeText
  | .accepted => decodeBool
  | .rejection => decodeText

def record : Record where
  Slot := Slot
  slotsEq := inferInstance
  title := "struct RecoverFile"
  slots := [.key, .destination, .accepted, .rejection]
  name
    | .key => "key"
    | .destination => "dest_bucket"
    | .accepted => "success"
    | .rejection => "err_msg"
  slot? name :=
    if name = "key" then some .key
    else if name = "dest_bucket" then some .destination
    else if name = "success" then some .accepted
    else if name = "err_msg" then some .rejection
    else none
  Content := Slot.Content
  decode := Slot.decode

/-- A result from its fields. Without the later two nothing has been accepted or rejected
yet. -/
def build (filled : record.Filled) : Except record.Slot FileResult := do
  let key ← Record.required filled .key
  let destination ← Record.required filled .destination
  let accepted : Option Bool := filled .accepted
  let rejection : Option String := filled .rejection
  return ⟨key, destination, accepted.getD false, rejection.getD ""⟩

def decode : Decoder FileResult :=
  record.decodeEither build

def toJson (result : FileResult) : Json :=
  .object [("key", .text result.key), ("dest_bucket", .text result.destination),
    ("success", .bool result.accepted), ("err_msg", .text result.rejection)]

end FileResult

/-! ## Granules -/

namespace Granule

inductive Slot
  | id
  | requested
  | results
deriving DecidableEq

abbrev Slot.Content : Slot → Type
  | .id => String
  | .requested => List RequestedFile
  | .results => List FileResult

def Slot.decode : (slot : Slot) → Decoder slot.Content
  | .id => decodeText
  | .requested => decodeArray RequestedFile.decode
  | .results => decodeArray FileResult.decode

def record : Record where
  Slot := Slot
  slotsEq := inferInstance
  title := "struct Granule"
  slots := [.id, .requested, .results]
  name
    | .id => "granuleId"
    | .requested => "keys"
    | .results => "recover_files"
  slot? name :=
    if name = "granuleId" then some .id
    else if name = "keys" then some .requested
    else if name = "recover_files" then some .results
    else none
  Content := Slot.Content
  decode := Slot.decode

def build (filled : record.Filled) (extra : List (String × Json)) :
    Except record.Slot Granule := do
  let id ← Record.required filled .id
  let requested : Option (List RequestedFile) := filled .requested
  let results : Option (List FileResult) := filled .results
  return ⟨id, requested.getD [], results.getD [], extra⟩

def decode : Decoder Granule :=
  record.decodeObject .keep build

def toJson (granule : Granule) : Json :=
  .object (("granuleId", .text granule.id) ::
    ("keys", .array (granule.requested.map RequestedFile.toJson)) ::
    ("recover_files", .array (granule.results.map FileResult.toJson)) :: granule.extra)

def parse (text : String) : Except Problem Granule :=
  decodeDocument decode text

def render (granule : Granule) : String :=
  granule.toJson.render

end Granule

end GranuleRecall
