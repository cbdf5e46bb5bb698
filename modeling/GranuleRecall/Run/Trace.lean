import GranuleRecall.Log
import GranuleRecall.Settings.Tier
import GranuleRecall.Status.Message
import GranuleRecall.Time.Duration

/-! # Traces

Everything that a run does and everything it is answered, in order. -/
set_option autoImplicit false

namespace GranuleRecall

inductive ProbeReply
  | present
  | absent
  | unknown (message : String)
deriving DecidableEq, Repr

structure RestoreCall where
  bucket : String
  key : String
  days : Int
  tier : Tier
deriving DecidableEq, Repr

inductive RestoreReply
  | accepted
  | rejected (message : String)
  /-- The request could not be put together. -/
  | unusable (message : String)
deriving DecidableEq, Repr

/-- What the queue answers to a message. A refusal gives its reasons, from the outermost to the
root. -/
inductive SendReply
  | accepted
  | refused (reasons : List String)
deriving DecidableEq, Repr

def reasonsText (reasons : List String) : String :=
  String.intercalate ": " reasons

inductive Event
  | probe (bucket key : String) (reply : ProbeReply)
  | restore (call : RestoreCall) (reply : RestoreReply)
  | send (message : Message) (reply : SendReply)
  | sleep (duration : Time.Duration)
  | log (record : LogRecord)
deriving DecidableEq, Repr

abbrev Trace := List Event

namespace Trace

def restores (trace : Trace) : List (RestoreCall × RestoreReply) :=
  trace.filterMap fun event =>
    match event with
    | .restore call reply => some (call, reply)
    | _ => none

def acceptedCalls (trace : Trace) : List RestoreCall :=
  trace.restores.filterMap fun entry => if entry.2 = .accepted then some entry.1 else none

def sends (trace : Trace) : List (Message × SendReply) :=
  trace.filterMap fun event =>
    match event with
    | .send message reply => some (message, reply)
    | _ => none

def acceptedMessages (trace : Trace) : List Message :=
  trace.filterMap fun event =>
    match event with
    | .send message .accepted => some message
    | _ => none

def probes (trace : Trace) : List ((String × String) × ProbeReply) :=
  trace.filterMap fun event =>
    match event with
    | .probe bucket key reply => some ((bucket, key), reply)
    | _ => none

def sleeps (trace : Trace) : List Time.Duration :=
  trace.filterMap fun event =>
    match event with
    | .sleep duration => some duration
    | _ => none

def logs (trace : Trace) : List LogRecord :=
  trace.filterMap fun event =>
    match event with
    | .log record => some record
    | _ => none

/-- What a trace shows of deliveries: the messages sent, and what was told of sending them. -/
def deliveries (trace : Trace) : Trace :=
  trace.filter fun event =>
    match event with
    | .send _ _ => true
    | .log record => record.source = .delivery
    | _ => false

@[simp] theorem restores_append (left right : Trace) :
    restores (left ++ right) = restores left ++ restores right := by
  simp [restores]

@[simp] theorem sends_append (left right : Trace) :
    sends (left ++ right) = sends left ++ sends right := by
  simp [sends]

@[simp] theorem acceptedMessages_append (left right : Trace) :
    acceptedMessages (left ++ right) = acceptedMessages left ++ acceptedMessages right := by
  simp [acceptedMessages]

@[simp] theorem probes_append (left right : Trace) :
    probes (left ++ right) = probes left ++ probes right := by
  simp [probes]

@[simp] theorem sleeps_append (left right : Trace) :
    sleeps (left ++ right) = sleeps left ++ sleeps right := by
  simp [sleeps]

@[simp] theorem logs_append (left right : Trace) :
    logs (left ++ right) = logs left ++ logs right := by
  simp [logs]

@[simp] theorem acceptedCalls_append (left right : Trace) :
    acceptedCalls (left ++ right) = acceptedCalls left ++ acceptedCalls right := by
  simp [acceptedCalls]

@[simp] theorem deliveries_append (left right : Trace) :
    deliveries (left ++ right) = deliveries left ++ deliveries right := by
  simp [deliveries]

/-! What all views have in common. -/

structure IsView {α : Type} (view : Trace → List α) : Prop where
  nil : view [] = []
  append (left right : Trace) : view (left ++ right) = view left ++ view right

theorem IsView.flatMap {α β : Type} {view : Trace → List α} (isView : IsView view)
    (part : β → Trace) (parts : List β) :
    view (parts.flatMap part) = parts.flatMap fun value => view (part value) := by
  induction parts with
  | nil => exact isView.nil
  | cons value later ih =>
      rw [List.flatMap_cons, isView.append, ih, List.flatMap_cons]

theorem isView_restores : IsView restores := ⟨rfl, restores_append⟩

theorem isView_sends : IsView sends := ⟨rfl, sends_append⟩

theorem isView_probes : IsView probes := ⟨rfl, probes_append⟩

theorem isView_acceptedCalls : IsView acceptedCalls := ⟨rfl, acceptedCalls_append⟩

theorem isView_acceptedMessages : IsView acceptedMessages := ⟨rfl, acceptedMessages_append⟩

theorem isView_deliveries : IsView deliveries := ⟨rfl, deliveries_append⟩

end Trace

end GranuleRecall
