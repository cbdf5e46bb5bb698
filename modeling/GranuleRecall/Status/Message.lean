import GranuleRecall.Status.Event

/-! # Queue messages

A status event as it is handed to the queue. The queue drops a message whose deduplication id it
has seen; the id is the table, the method and the body, put together without separators. -/
set_option autoImplicit false

namespace GranuleRecall

inductive Table
  | job
  | file
deriving DecidableEq, Repr

def Table.name : Table → String
  | .job => "orca_recoveryjob"
  | .file => "orca_recoverfile"

/-- What the reader of a message is to do with it. -/
inductive Method
  | newJob
  | updateFile
deriving DecidableEq, Repr

def Method.name : Method → String
  | .newJob => "new_job"
  | .updateFile => "update_file"

structure Message where
  table : Table
  method : Method
  body : String
deriving DecidableEq, Repr

namespace Message

def idOf (table : Table) (method : Method) (body : String) : String :=
  table.name ++ method.name ++ body

def deduplicationId (message : Message) : String :=
  idOf message.table message.method message.body

def groupId : String := "request_files"

def build (table : Table) (method : Method) (payload : Json) : Message :=
  ⟨table, method, payload.render⟩

def ofJob (event : JobEvent) : Message :=
  build .job .newJob event.toJson

def ofFile (event : FileEvent) : Message :=
  build .file .updateFile event.toJson

end Message

end GranuleRecall
