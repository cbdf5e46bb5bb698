import GranuleRecall.Command.Basic
import GranuleRecall.Command.LogLine
import GranuleRecall.Run.JobId
import GranuleRecall.Url.Basic
import Std.Time.DateTime.Timestamp

/-! # The program

Reads what an invocation is given, runs it, and prints what it leaves behind. No archive and no
queue can be reached from here, so every call to one of them goes unanswered. -/
set_option autoImplicit false

namespace GranuleRecall

def readFailureText : IO.Error → String
  | .noFileOrDirectory .. => "No such file or directory (os error 2)"
  | .inappropriateType .. => "Is a directory (os error 21)"
  | .permissionDenied .. => "Permission denied (os error 13)"
  | other => toString other

/-- The text that bytes stand for, unless reading failed or they are not UTF-8. -/
def decodedText (bytes : Except IO.Error ByteArray) : Except String String :=
  match bytes with
  | .error failure => .error (readFailureText failure)
  | .ok bytes =>
    match String.fromUTF8? bytes with
    | some text => .ok text
    | none => .error "stream did not contain valid UTF-8"

/-- Reads the event from the file that the first argument names, or else from standard input. -/
def readEventText (arguments : List String) : IO Command.EventText := do
  match arguments with
  | argument :: _ =>
    let path := Text.trim argument
    return .file path (decodedText (← (IO.FS.readBinFile path).toBaseIO))
  | [] =>
    let input ← IO.getStdin
    return .standardInput (decodedText (← input.readBinToEnd.toBaseIO))

def readEnvironment (names : List String) : IO Command.Environment :=
  names.filterMapM fun name => do
    return (← IO.getEnv name).map fun value => (name, value)

/-- The environment of the process, with the values of an environment file in the working
directory. -/
def readFullEnvironment : IO Command.Environment := do
  match decodedText (← (IO.FS.readBinFile ".env").toBaseIO) with
  | .error _ => readEnvironment Command.environmentNames
  | .ok content =>
    let names := Command.environmentNames ++ Command.mentionedNames content.toList
    return (← readEnvironment names).withFile content

def readClock : IO Time.Instant := do
  let now ← Std.Time.Timestamp.now
  let nanoseconds := now.toNanosecondsSinceUnixEpoch.val
  return ⟨Int.fdiv nanoseconds 1000000000, (Int.fmod nanoseconds 1000000000).toNat⟩

def writeRecords (environment : Command.Environment) (time : Time.Instant)
    (records : List LogRecord) : IO Unit :=
  for record in records do
    if Command.writesJson environment then IO.eprintln (record.toJson time).render
    else IO.eprintln (record.plainLine time)

def invoke (arguments : List String) : IO UInt32 := do
  let environment ← readFullEnvironment
  let event ← readEventText arguments
  let time ← readClock
  let freshId := JobId.ofRandom (← IO.getRandomBytes 16).toList
  let outcome := Command.run Url.checkText (Command.unreachable time) freshId ⟨event, environment⟩
  IO.print outcome.output
  writeRecords environment time (outcome.shown environment)
  return UInt32.ofNat outcome.exitCode

end GranuleRecall

def main (arguments : List String) : IO UInt32 :=
  GranuleRecall.invoke arguments
