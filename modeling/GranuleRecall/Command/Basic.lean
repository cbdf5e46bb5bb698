import GranuleRecall.Command.EnvironmentFile
import GranuleRecall.Command.LogFilter
import GranuleRecall.Run.Task
import GranuleRecall.Service.Queue

/-! # The command

One invocation: an event is read from a file or from standard input, the settings are resolved
from the environment, the task is run, and its report is printed. The exit status and the output
are decided here; reading and printing are left to the caller. -/
set_option autoImplicit false

namespace GranuleRecall.Command

/-- Where the text of the event comes from, and the text, or why it could not be read. -/
inductive EventText
  | file (path : String) (content : Except String String)
  | standardInput (content : Except String String)
deriving Repr

structure Invocation where
  event : EventText
  environment : Environment
deriving Repr

structure Outcome where
  succeeded : Bool
  output : String
  /-- What is told, whether it is shown or not. -/
  records : List LogRecord
deriving DecidableEq, Repr

def Outcome.exitCode (outcome : Outcome) : Nat :=
  if outcome.succeeded then 0 else 1

/-! ## Failures with their context -/

/-- A failure and what it goes back to, from the outermost context to the root. -/
abbrev FailureChain := List String

def chainOf (failure : Failure) : FailureChain :=
  failure.message :: failure.cause.toList

def indented (margin : String) (text : String) : String :=
  String.intercalate ("\n" ++ margin) (text.splitOn "\n")

def numberedCauses (number : Nat) : List String → String
  | [] => ""
  | cause :: others =>
    let digits := toString number
    let label := String.ofList (List.replicate (5 - digits.length) ' ') ++ digits ++ ": "
    "\n" ++ label ++ indented "       " cause ++ numberedCauses (number + 1) others

/-- A chain as it is told: the outermost context, then the causes, numbered if there are
several. -/
def describe : FailureChain → String
  | [] => ""
  | [outermost] => outermost
  | [outermost, cause] => outermost ++ "\n\nCaused by:\n    " ++ indented "    " cause
  | outermost :: causes => outermost ++ "\n\nCaused by:" ++ numberedCauses 0 causes

def failureRecord (chain : FailureChain) : LogRecord :=
  ⟨.error, .command, "❌ Error: " ++ describe chain, []⟩

def successRecord : LogRecord :=
  ⟨.info, .command, "✅ Restore requests submitted.", []⟩

/-! ## Running -/

def readEvent (event : EventText) : Except FailureChain Request :=
  let parsed := fun (text : String) =>
    (Request.parse text).mapError fun problem => Failure.malformed problem.message
  match event with
  | .file path content =>
    let request := match content with
      | .ok text => parsed text
      | .error reason => .error (.unreadable reason)
    request.mapError fun failure =>
      s!"Failed to load task event from {path}" :: chainOf failure
  | .standardInput (.ok text) => (parsed text).mapError chainOf
  | .standardInput (.error reason) => .error ["Failed to read task event from stdin", reason]

/-- What the archive's side of a run tells by itself: that an object is missing, or that this
could not be found out. -/
def probeRecords : Event → List LogRecord
  | .probe bucket key .absent =>
    [⟨.debug, .archiveProbe, "Object not found in archive",
      [("bucket", .text bucket), ("key", .text key)]⟩]
  | .probe bucket key (.unknown message) =>
    [⟨.error, .archiveProbe, s!"Failed to check object existence: {message}",
      [("bucket", .text bucket), ("key", .text key)]⟩]
  | .log record => [record]
  | _ => []

def failedEarly (warnings : List LogRecord) (chain : FailureChain) : Outcome :=
  ⟨false, "", warnings ++ [failureRecord chain]⟩

def printed (report : Report) : String :=
  report.render ++ "\n"

/-- The outcome of a task: its report is printed also when it ended with files that were never
accepted. -/
def outcomeOf (warnings : List LogRecord) (result : Except Failure Report × Trace) : Outcome :=
  let told := warnings ++ result.2.flatMap probeRecords
  match result.1 with
  | .ok report => ⟨true, printed report, told ++ [successRecord]⟩
  | .error failure =>
    let output := match Report.ofFailure? failure with
      | some report => printed report
      | none => ""
    ⟨false, output,
      told ++ [failureRecord ("Request files task failed" :: chainOf failure)]⟩

/-- One invocation. The services may depend on the settings. -/
def run (checkUrl : Settings.UrlCheck) (services : Settings → Services) (freshId : String)
    (invocation : Invocation) : Outcome :=
  match readEvent invocation.event with
  | .error chain => failedEarly [] ("Failed to read task event" :: chain)
  | .ok request =>
    match Settings.resolve checkUrl invocation.environment.value? with
    | (.error failure, warnings) =>
      failedEarly warnings ("Failed to resolve runtime configuration" :: chainOf failure)
    | (.ok settings, warnings) =>
      outcomeOf warnings (Task.run (services settings) settings freshId request [])

/-! ## What is shown -/

def environmentNames : List String :=
  ["RESTORE_EXPIRE_DAYS", "RESTORE_REQUEST_RETRIES", "RESTORE_RETRY_SLEEP_SECS",
    "RESTORE_RETRIEVAL_TYPE", "DB_QUEUE_URL", "DB_QUEUE_MAX_ATTEMPTS",
    "DB_QUEUE_RETRY_SLEEP_SECS", "AWS_ENDPOINT_URL", "AWS_REGION", "LOG_FORMAT", "RUST_LOG"]

def writesJson (environment : Environment) : Bool :=
  match environment.value? "LOG_FORMAT" with
  | none => false
  | some format => String.ofList (format.toList.map Char.toLower) = "json"

def filterOf (environment : Environment) : LogFilter :=
  match environment.value? "RUST_LOG" with
  | none => .standard
  | some text => (LogFilter.read? text).getD .standard

def Outcome.shown (outcome : Outcome) (environment : Environment) : List LogRecord :=
  outcome.records.filter (filterOf environment).shows

def noReply : String := "dispatch failure"

def unreachable (start : Time.Instant) (settings : Settings) : Services where
  probe _ _ _ := .unknown noReply
  restore _ _ := .rejected noReply
  send _ message := Service.Queue.refused settings.queueUrl message noReply
  clock _ := start

end GranuleRecall.Command
