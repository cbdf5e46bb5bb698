import GranuleRecall.Run.Task

/-! # Rehearsals

Services that answer from a script, and a clock that moves only by the latencies of the services
and by waiting. With them a run can be tried out, and its trace has times. -/
set_option autoImplicit false

namespace GranuleRecall

/-- How far a clock moves for each kind of call, and for a wait of some span. -/
structure Timing where
  probe : Nat
  restore : Nat
  send : Nat
  wait : Time.Duration → Nat

namespace Timing

variable (timing : Timing)

def cost : Event → Nat
  | .probe _ _ _ => timing.probe
  | .restore _ _ => timing.restore
  | .send _ _ => timing.send
  | .sleep duration => timing.wait duration
  | .log _ => 0

def elapsed : Trace → Nat
  | [] => 0
  | event :: later => timing.cost event + elapsed later

end Timing

/-- How long each kind of call takes, in milliseconds. -/
structure Latencies where
  probe : Nat := 0
  restore : Nat := 0
  send : Nat := 0
deriving DecidableEq, Repr

structure Script where
  start : Time.Instant
  latencies : Latencies
  probe : String → ProbeReply
  /-- The answers to the requests for a key, in order; the last one is given again and again. -/
  restore : String → List RestoreReply
  /-- Whether the message sent as the one of some number, from one, is refused. -/
  refuses : Nat → Bool
  reasons : List String

namespace Script

/-- Waits of this many seconds and more are too long for a clock. -/
def waitBound : Nat := 1 <<< 63

/-- What a wait takes that is too long for a clock: thirty years, in milliseconds. -/
def longestWait : Nat := 30 * 365 * 86400 * 1000

/-- How many milliseconds a wait takes: whole ones, rounded up. -/
def waitTime (duration : Time.Duration) : Nat :=
  if waitBound ≤ duration.seconds then longestWait else duration.ceilMilliseconds

def timing (script : Script) : Timing where
  probe := script.latencies.probe
  restore := script.latencies.restore
  send := script.latencies.send
  wait := waitTime

/-- The answer to a request, by the number of requests for its key that came before. -/
def restoreReply (script : Script) (past : Trace) (call : RestoreCall) : RestoreReply :=
  let earlier := past.countP fun event =>
    match event with
    | .restore other _ => other.key == call.key
    | _ => false
  let replies := script.restore call.key
  (replies[min earlier (replies.length - 1)]?).getD .accepted

def sendReply (script : Script) (past : Trace) : SendReply :=
  let earlier := past.countP fun event =>
    match event with
    | .send _ _ => true
    | _ => false
  if script.refuses (earlier + 1) then .refused script.reasons else .accepted

def services (script : Script) : Services where
  probe _ _ key := script.probe key
  restore past call := script.restoreReply past call
  send past _ := script.sendReply past
  clock past := script.start.afterMilliseconds (script.timing.elapsed past)

def timed (script : Script) (begun : Nat) : Trace → List (Nat × Event)
  | [] => []
  | event :: following =>
    (begun, event) :: script.timed (begun + script.timing.cost event) following

end Script

/-- Publishing a message: on its own, or after building an event that may fail. -/
def publish (services : Services) (delivery : DeliveryBudget) (message : Except Failure Message) :
    Procedure Unit :=
  match message with
  | .error failure => Procedure.fail failure
  | .ok message => deliver services delivery message

/-- Publishes messages one after another, and gives for each its outcome and the trace up to its
end. A failure does not keep the next one from being published. -/
def publishAll (services : Services) (delivery : DeliveryBudget) (past : Trace) :
    List (Except Failure Message) → List (Except Failure Unit × Trace)
  | [] => []
  | message :: others =>
    let (outcome, added) := publish services delivery message past
    (outcome, past ++ added) :: publishAll services delivery (past ++ added) others

end GranuleRecall
