import GranuleRecall.Run.Task

/-! # How the files of a request are probed

The probes of a run as data: the reply for each file, up to the first that tells nothing. -/

set_option autoImplicit false

namespace GranuleRecall

namespace Probes

/-- How a probe fails. -/
def replyFailure (bucket : String) (file : RequestedFile) : ProbeReply → Option Failure
  | .present => none
  | .absent => none
  | .unknown message => some (.probe bucket file.key message)

def failure (bucket : String) (files : List RequestedFile) (replies : List ProbeReply) :
    Option Failure :=
  (List.zip files replies).findSome? fun (file, reply) => replyFailure bucket file reply

/-- What happens for a probe. -/
def replyEvents (bucket : String) (file : RequestedFile) : ProbeReply → Trace
  | .present => [.probe bucket file.key .present, .log (Task.presentRecord file)]
  | .absent => [.probe bucket file.key .absent, .log (Task.absentRecord bucket file)]
  | .unknown message => [.probe bucket file.key (.unknown message)]

def events (bucket : String) (files : List RequestedFile) (replies : List ProbeReply) : Trace :=
  (List.zip files replies).flatMap fun (file, reply) => replyEvents bucket file reply

/-- The files that are found. -/
def found (files : List RequestedFile) (replies : List ProbeReply) : List FileResult :=
  (List.zip files replies).filterMap fun (file, reply) =>
    if reply = .present then some (.pending file) else none

/-- The replies that come of the services' answers. -/
def ofServices (services : Services) (bucket : String) (past : Trace) :
    List RequestedFile → List ProbeReply
  | [] => []
  | file :: others =>
    let reply := services.probe past bucket file.key
    match replyFailure bucket file reply with
    | some _ => [reply]
    | none => reply :: ofServices services bucket (past ++ replyEvents bucket file reply) others

end Probes

/-- The replies that the probes of some files can have. -/
inductive ProbesRun : List RequestedFile → List ProbeReply → Prop
  | done : ProbesRun [] []
  | present {file : RequestedFile} {others : List RequestedFile} {replies : List ProbeReply} :
      ProbesRun others replies → ProbesRun (file :: others) (.present :: replies)
  | absent {file : RequestedFile} {others : List RequestedFile} {replies : List ProbeReply} :
      ProbesRun others replies → ProbesRun (file :: others) (.absent :: replies)
  | unknown {file : RequestedFile} {others : List RequestedFile} {message : String} :
      ProbesRun (file :: others) [.unknown message]

section

variable (services : Services) (bucket : String)

theorem Probes.ofServices_run (past : Trace) (files : List RequestedFile) :
    ProbesRun files (Probes.ofServices services bucket past files) := by
  induction files generalizing past with
  | nil => exact .done
  | cons file others ih =>
      simp only [Probes.ofServices]
      cases services.probe past bucket file.key with
      | present => exact .present (ih _)
      | absent => exact .absent (ih _)
      | unknown message => exact .unknown

theorem Task.presentFiles_eq (past : Trace) (files : List RequestedFile) :
    Task.presentFiles services bucket files past =
      (Procedure.endedBy
        (Probes.failure bucket files (Probes.ofServices services bucket past files))
        (Probes.found files (Probes.ofServices services bucket past files)),
        Probes.events bucket files (Probes.ofServices services bucket past files)) := by
  induction files generalizing past with
  | nil => rfl
  | cons file others ih =>
      simp only [Task.presentFiles, Probes.ofServices]
      rw [Procedure.bind_of_ok (services.askProbe_apply bucket file.key past)]
      cases services.probe past bucket file.key with
      | present =>
          dsimp only [Probes.replyFailure, Probes.replyEvents]
          rw [Procedure.bind_of_ok (Procedure.tell_apply _ _), List.append_assoc,
            Procedure.bind_pure_of_ended (ih _)]
          rfl
      | absent =>
          dsimp only [Probes.replyFailure, Probes.replyEvents]
          rw [Procedure.bind_of_ok (Procedure.tell_apply _ _), List.append_assoc, ih]
          rfl
      | unknown message =>
          dsimp only [Probes.replyFailure]
          simp [Probes.failure, Probes.replyFailure, Probes.events, Probes.replyEvents,
            Procedure.endedBy]

end

end GranuleRecall
