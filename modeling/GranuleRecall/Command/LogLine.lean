import GranuleRecall.Json.Printer
import GranuleRecall.Log
import GranuleRecall.Time.Instant

/-! # Log lines

The two written forms of a log record: a JSON object, and a line for people to read. -/
set_option autoImplicit false

namespace GranuleRecall

def LogValue.toJson : LogValue → Json
  | .number value => .natural value
  | .text value => .text value

def LogValue.plain : LogValue → String
  | .number value => toString value
  | .text value => value

namespace LogRecord

def fieldsJson (record : LogRecord) : List (String × Json) :=
  record.fields.map fun (name, value) => (name, value.toJson)

def toJson (time : Time.Instant) (record : LogRecord) : Json :=
  .object [("timestamp", .text time.render), ("level", .text record.level.name),
    ("fields", .object (("message", .text record.message) :: record.fieldsJson)),
    ("target", .text record.source.target)]

def plainLine (time : Time.Instant) (record : LogRecord) : String :=
  let fields := record.fields.map fun (name, value) => " " ++ name ++ "=" ++ value.plain
  s!"{time.render} {record.level.name} {record.source.target}: {record.message}" ++
    String.join fields

end LogRecord

end GranuleRecall
