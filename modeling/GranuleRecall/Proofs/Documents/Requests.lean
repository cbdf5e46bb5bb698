import GranuleRecall.Request
import GranuleRecall.Proofs.Documents.Records

/-! # What the documents of granules and events mean

The readers of the records that an event is made of. A granule keeps the members that it has no
slot for; what is asked of these is left open, nothing at all where a text is read. -/

set_option autoImplicit false

namespace GranuleRecall

open Json

/-- A condition on the members that a granule keeps. -/
abbrev KeptCondition : Type :=
  List (Option String × Document) → Prop

def KeptCondition.none : KeptCondition :=
  fun _ => True

namespace RequestedFile

def readers : record.Readers :=
  fun _ => Reader.text

def reader : Reader RequestedFile :=
  Record.eitherReader readers build

theorem decode_agrees : Decoder.Agrees decode reader :=
  Record.decodeEither_agrees (fun _ => decodeText_agrees) (by decide) build

end RequestedFile

namespace FileResult

def readers : (slot : Slot) → Reader slot.Content
  | .key => Reader.text
  | .destination => Reader.text
  | .accepted => Reader.bool
  | .rejection => Reader.text

def reader : Reader FileResult :=
  Record.eitherReader (readers : record.Readers) build

theorem decode_agrees : Decoder.Agrees decode reader := by
  refine Record.decodeEither_agrees (fun slot => ?_) (by decide) build
  cases slot with
  | key => exact decodeText_agrees
  | destination => exact decodeText_agrees
  | accepted => exact decodeBool_agrees
  | rejection => exact decodeText_agrees

end FileResult

namespace Granule

def readers : (slot : Slot) → Reader slot.Content
  | .id => Reader.text
  | .requested => Reader.list RequestedFile.reader
  | .results => Reader.list FileResult.reader

def reader (sound : KeptCondition) : Reader Granule :=
  Record.objectReader (readers : record.Readers) sound .keep build

theorem decode_agrees : Decoder.Agrees decode (reader .none) := by
  refine Record.decodeObject_agrees (fun slot => ?_) .keep build
  cases slot with
  | id => exact decodeText_agrees
  | requested => exact decodeArray_agrees RequestedFile.decode_agrees
  | results => exact decodeArray_agrees FileResult.decode_agrees

theorem parse_iff {document : Document} {text : String} (written : document.IsWrittenAs text)
    {granule : Granule} :
    parse text = .ok granule ↔ reader .none nestingBound document granule :=
  decode_agrees.decodeDocument written

end Granule

namespace Request

def buildBucket (filled : bucketRecord.Filled) : Except bucketRecord.Slot (Option String) :=
  let bucket : Option (Option String) := filled .bucket
  .ok (bucket.getD none)

def bucketReaders : bucketRecord.Readers :=
  fun _ => Reader.text.orNull

def bucketReader : Reader (Option String) :=
  Record.eitherReader bucketReaders buildBucket

theorem decodeBucket_agrees : Decoder.Agrees decodeBucket bucketReader :=
  Record.decodeEither_agrees (fun _ => decodeOption_agrees decodeText_agrees) (by decide)
    buildBucket

def buildInput (filled : inputRecord.Filled) :
    Except inputRecord.Slot (List Granule × Option String) :=
  let granules : Option (List Granule) := filled .granules
  let jobId : Option (Option String) := filled .jobId
  .ok (granules.getD [], jobId.getD none)

section

variable (sound : KeptCondition)

def inputReaders : (slot : InputSlot) → Reader slot.Content
  | .granules => Reader.list (Granule.reader sound)
  | .jobId => Reader.text.orNull

def inputReader : Reader (List Granule × Option String) :=
  Record.eitherReader (inputReaders sound : inputRecord.Readers) buildInput

def readers : (slot : Slot) → Reader slot.Content
  | .configuration => bucketReader
  | .input => inputReader sound

def reader : Reader Request :=
  Record.eitherReader (readers sound : record.Readers) build

end

theorem decodeInput_agrees : Decoder.Agrees decodeInput (inputReader .none) := by
  refine Record.decodeEither_agrees (fun slot => ?_) (by decide) buildInput
  cases slot with
  | granules => exact decodeArray_agrees Granule.decode_agrees
  | jobId => exact decodeOption_agrees decodeText_agrees

theorem decode_agrees : Decoder.Agrees decode (reader .none) := by
  refine Record.decodeEither_agrees (fun slot => ?_) (by decide) build
  cases slot with
  | configuration => exact decodeBucket_agrees
  | input => exact decodeInput_agrees

theorem parse_iff {document : Document} {text : String} (written : document.IsWrittenAs text)
    {request : Request} :
    parse text = .ok request ↔ reader .none nestingBound document request :=
  decode_agrees.decodeDocument written

end Request

end GranuleRecall
