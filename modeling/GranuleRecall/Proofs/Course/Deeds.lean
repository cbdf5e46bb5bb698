import GranuleRecall.Proofs.Course.Attempts
import GranuleRecall.Proofs.Course.History

/-! # The deeds of a run

What a run does once its job is given, deed by deed: it requests a restore, publishes a message, or
waits for the next pass. A ledger says what each deed leaves in the trace. The number told of a
request is that of all requests so far for the same entry, and the number told of an attempt to
send is its place among the attempts of its message. -/

set_option autoImplicit false

namespace GranuleRecall

inductive Deed
  | request (asked : EntryRequest)
  /-- A message is sent until the queue accepts it or the budget is used up. -/
  | publish (message : Message) (replies : List SendReply)
  | wait
deriving DecidableEq, Repr

namespace Deed

def requests (deeds : List Deed) : List EntryRequest :=
  deeds.filterMap fun deed =>
    match deed with
    | request asked => some asked
    | _ => none

def publishes (deeds : List Deed) : List (Message × List SendReply) :=
  deeds.filterMap fun deed =>
    match deed with
    | publish message replies => some (message, replies)
    | _ => none

def waits (deeds : List Deed) : Nat :=
  deeds.count .wait

@[simp] theorem requests_append (deeds later : List Deed) :
    requests (deeds ++ later) = requests deeds ++ requests later := by
  simp [requests]

@[simp] theorem publishes_append (deeds later : List Deed) :
    publishes (deeds ++ later) = publishes deeds ++ publishes later := by
  simp [publishes]

@[simp] theorem waits_append (deeds later : List Deed) :
    waits (deeds ++ later) = waits deeds + waits later := by
  simp [waits]

section

variable (asked : EntryRequest) (message : Message) (replies : List SendReply)

@[simp] theorem requests_request : requests [request asked] = [asked] := rfl

@[simp] theorem requests_publish : requests [publish message replies] = [] := rfl

@[simp] theorem requests_wait : requests [wait] = [] := rfl

@[simp] theorem publishes_request : publishes [request asked] = [] := rfl

@[simp] theorem publishes_publish :
    publishes [publish message replies] = [(message, replies)] := rfl

@[simp] theorem publishes_wait : publishes [wait] = [] := rfl

@[simp] theorem waits_request : waits [request asked] = 0 := rfl

@[simp] theorem waits_publish : waits [publish message replies] = 0 := rfl

@[simp] theorem waits_wait : waits [wait] = 1 := rfl

end

end Deed

/-! ## What deeds leave in the trace -/

namespace Ledger

/-- The record of a request that is the one of some number for its entry. -/
def requestRecord? (plan : RestorePlan) (job : Job) (number : Nat) (request : EntryRequest) :
    Option LogRecord :=
  match request.reply with
  | .accepted => some {
      level := .info
      source := .restores
      message := s!"Restore {request.call.key} from {plan.bucket} attempt {number} successful."
      fields := [("job_id", .text job.id), ("attempt", .number number)] }
  | .rejected reason => some {
      level := .warn
      source := .restores
      message := s!"Restore request failed: {reason}"
      fields := [("job_id", .text job.id), ("attempt", .number number),
        ("key", .text request.call.key)] }
  | .unusable _ => none

/-- The record of the attempt of some number to send a message. -/
def attemptRecord (budget : DeliveryBudget) (message : Message) (number : Nat) :
    SendReply → LogRecord
  | .accepted => {
      level := .debug
      source := .delivery
      message := "Posted status event to queue"
      fields := [("table", .text message.table.name), ("method", .text message.method.name),
        ("attempt", .number number)] }
  | .refused reasons =>
    let told := reasonsText reasons
    if number < budget.attempts then {
      level := .warn
      source := .delivery
      message := s!"Queue delivery failed, retrying: {told}"
      fields := [("table", .text message.table.name), ("attempt", .number number),
        ("max_attempts", .number budget.maxAttempts.toNat)] }
    else {
      level := .error
      source := .delivery
      message :=
        s!"Error while logging row {message.body} to table {message.table.name}: {told}"
      fields := [("table", .text message.table.name), ("attempts", .number number)] }

/-- The attempts to send a message, from the one of some number on: each has its record at once, and
a wait lies between each two. -/
def attempts (budget : DeliveryBudget) (message : Message) : (number : Nat) → List SendReply → Trace
  | _, [] => []
  | number, [reply] => [.send message reply, .log (attemptRecord budget message number reply)]
  | number, reply :: next :: later =>
    .send message reply :: .log (attemptRecord budget message number reply) ::
      .sleep budget.sleep :: attempts budget message (number + 1) (next :: later)

/-- The replies to all attempts to send a message: all but the last are refusals, and there are as
many as the budget has unless the last is an acceptance. -/
structure Tries (budget : DeliveryBudget) (replies : List SendReply) : Prop where
  refused : ∃ earlier last, replies = earlier ++ [last] ∧ .accepted ∉ earlier
  bounded : replies.length ≤ budget.attempts
  spent : .accepted ∉ replies → replies.length = budget.attempts

end Ledger

/-- The deeds of a run after some past, and the trace that they leave. -/
inductive Ledger (services : Services) (delivery : DeliveryBudget) (plan : RestorePlan) (job : Job)
    (past : Trace) : List Deed → Trace → Prop
  | start : Ledger services delivery plan job past [] []
  | request {deeds : List Deed} {trace : Trace} {asked : EntryRequest} {number : Nat}
      (before : Ledger services delivery plan job past deeds trace)
      (replied : asked.reply = services.restore (past ++ trace) asked.call)
      (counted : number = (repliesTo asked.position (Deed.requests deeds ++ [asked])).length) :
      Ledger services delivery plan job past (deeds ++ [.request asked])
        (trace ++ .restore asked.call asked.reply ::
          (Ledger.requestRecord? plan job number asked).toList.map Event.log)
  | publish {deeds : List Deed} {trace : Trace} {message : Message} {replies : List SendReply}
      {outcome : Except Failure Unit}
      (before : Ledger services delivery plan job past deeds trace)
      (tries : Ledger.Tries delivery replies)
      (delivered : deliver services delivery message (past ++ trace) =
        (outcome, Ledger.attempts delivery message 1 replies)) :
      Ledger services delivery plan job past (deeds ++ [.publish message replies])
        (trace ++ Ledger.attempts delivery message 1 replies)
  | wait {deeds : List Deed} {trace : Trace}
      (before : Ledger services delivery plan job past deeds trace) :
      Ledger services delivery plan job past (deeds ++ [.wait])
        (trace ++ [.sleep plan.passes.sleep])

namespace Ledger

section

variable (budget : DeliveryBudget) (message : Message) (number : Nat) (replies : List SendReply)

theorem sends_attempts :
    (attempts budget message number replies).sends = replies.map fun reply => (message, reply) := by
  fun_induction attempts with
  | case1 => rfl
  | case2 => rfl
  | case3 number reply next later ih => exact congrArg (List.cons _) ih

theorem sleeps_attempts :
    (attempts budget message number replies).sleeps =
      List.replicate (replies.length - 1) budget.sleep := by
  fun_induction attempts with
  | case1 => rfl
  | case2 => rfl
  | case3 number reply next later ih => exact congrArg (List.cons _) ih

theorem restores_attempts : (attempts budget message number replies).restores = [] := by
  fun_induction attempts with
  | case1 => rfl
  | case2 => rfl
  | case3 number reply next later ih => exact ih

theorem probes_attempts : (attempts budget message number replies).probes = [] := by
  fun_induction attempts with
  | case1 => rfl
  | case2 => rfl
  | case3 number reply next later ih => exact ih

end

end Ledger

/-! ## A message is published by attempts -/

namespace Sending

def replies : Sending → List SendReply
  | posted => [.accepted]
  | givenUp reasons => [.refused reasons]
  | retried reasons following => .refused reasons :: following.replies

theorem replies_ne_nil (sending : Sending) : sending.replies ≠ [] := by
  cases sending <;> exact List.cons_ne_nil _ _

theorem length_replies (sending : Sending) : sending.replies.length = sending.count := by
  induction sending with
  | posted => rfl
  | givenUp reasons => rfl
  | retried reasons following ih => exact congrArg Nat.succ ih

theorem accepted_mem_replies_iff (sending : Sending) :
    .accepted ∈ sending.replies ↔ sending.isPosted = true := by
  induction sending with
  | posted => simp [replies, isPosted]
  | givenUp reasons => simp [replies, isPosted]
  | retried reasons following ih => simpa [replies, isPosted] using ih

theorem refused_replies (sending : Sending) :
    ∃ earlier last, sending.replies = earlier ++ [last] ∧ .accepted ∉ earlier := by
  induction sending with
  | posted => exact ⟨[], _, rfl, List.not_mem_nil⟩
  | givenUp reasons => exact ⟨[], _, rfl, List.not_mem_nil⟩
  | retried reasons following ih =>
      obtain ⟨earlier, last, split, refused⟩ := ih
      exact ⟨.refused reasons :: earlier, last, congrArg (List.cons _) split, by simp [refused]⟩

theorem KeepsBudget.tries {budget : DeliveryBudget} {sending : Sending}
    (kept : sending.KeepsBudget budget.attempts) : Ledger.Tries budget sending.replies where
  refused := sending.refused_replies
  bounded := sending.length_replies ▸ kept.bounded
  spent unaccepted := by
    rw [length_replies]
    refine kept.spent ?_
    rwa [accepted_mem_replies_iff, Bool.not_eq_true] at unaccepted

variable (services : Services) (budget : DeliveryBudget) (message : Message)

/-- Only the last attempt that the budget has is given up. -/
theorem events_ofServices (attemptsLeft attempt : Nat) (past : Trace)
    (counted : attempt + attemptsLeft = budget.attempts) :
    (ofServices services budget message attemptsLeft attempt past).events budget message attempt =
      Ledger.attempts budget message attempt
        (ofServices services budget message attemptsLeft attempt past).replies := by
  induction attemptsLeft generalizing attempt past with
  | zero =>
      have last : ¬attempt < budget.attempts := by omega
      unfold ofServices
      cases services.send past message with
      | accepted => rfl
      | refused reasons =>
          simp only [events, replies, Ledger.attempts, Ledger.attemptRecord, last, ↓reduceIte]
          rfl
  | succ attemptsLeft ih =>
      have more : attempt < budget.attempts := by omega
      unfold ofServices
      cases services.send past message with
      | accepted => rfl
      | refused reasons =>
          have later := ih (attempt + 1)
            (past ++ [.send message (.refused reasons),
              .log (Delivery.retryRecord budget message attempt reasons), .sleep budget.sleep])
            (by omega)
          dsimp only
          generalize ofServices services budget message attemptsLeft (attempt + 1) _ = following
            at later ⊢
          obtain ⟨next, others, split⟩ := List.exists_cons_of_ne_nil following.replies_ne_nil
          simp only [events, replies, split, Ledger.attempts, Ledger.attemptRecord, more,
            ↓reduceIte]
          rw [later, split]
          rfl

end Sending

/-- A delivery is a message's attempts. -/
theorem exists_tries_of_deliver {services : Services} {delivery : DeliveryBudget}
    {message : Message} {past added : Trace} {outcome : Except Failure Unit}
    (ran : deliver services delivery message past = (outcome, added)) :
    ∃ replies, Ledger.Tries delivery replies ∧
      added = Ledger.attempts delivery message 1 replies := by
  rw [deliver_eq] at ran
  obtain ⟨-, rfl⟩ := Prod.mk.inj ran
  have counted : 1 + (delivery.attempts - 1) = delivery.attempts :=
    Nat.add_sub_cancel' delivery.attempts_pos
  exact ⟨_, (Sending.ofDelivery_keepsBudget services delivery message past).tries,
    Sending.events_ofServices services delivery message _ 1 past counted⟩

/-! ## The deeds of turns and reports -/

section

variable {services : Services} {delivery : DeliveryBudget} {plan : RestorePlan} {job : Job}
  {past trace : Trace} {deeds : List Deed}

theorem Ledger.delivered {message : Message} {outcome : Except Failure Unit} {added : Trace}
    (ledger : Ledger services delivery plan job past deeds trace)
    (ran : deliver services delivery message (past ++ trace) = (outcome, added)) :
    ∃ replies, Ledger services delivery plan job past (deeds ++ [.publish message replies])
      (trace ++ added) := by
  obtain ⟨replies, tries, rfl⟩ := exists_tries_of_deliver ran
  exact ⟨replies, ledger.publish tries ran⟩

/-- What is left of a turn after its reply: the record of the request, and for an acceptance the
message about it. -/
theorem Ledger.afterReply {file : FileResult} {reply : RestoreReply} {position attempt : Nat}
    {outcome : Except Failure FileResult} {added : Trace}
    (ledger : Ledger services delivery plan job past deeds trace)
    (replied : reply = services.restore (past ++ trace) (plan.callFor file))
    (counted : attempt =
      (repliesTo position (Deed.requests deeds ++ [⟨position, plan.callFor file, reply⟩])).length)
    (ran : Restores.afterReply services delivery plan job attempt file reply
      (past ++ trace ++ [.restore (plan.callFor file) reply]) = (outcome, added)) :
    ∃ more, Ledger services delivery plan job past
        (deeds ++ [.request ⟨position, plan.callFor file, reply⟩] ++ more)
        (trace ++ .restore (plan.callFor file) reply :: added) ∧
      Deed.requests more = [] ∧ Deed.waits more = 0 ∧
      (Deed.publishes more).length = if reply = .accepted then 1 else 0 := by
  have requested : Ledger services delivery plan job past
      (deeds ++ [.request ⟨position, plan.callFor file, reply⟩])
      (trace ++ .restore (plan.callFor file) reply ::
        (requestRecord? plan job attempt ⟨position, plan.callFor file, reply⟩).toList.map
          Event.log) := ledger.request replied counted
  cases reply with
  | accepted =>
      have told : Ledger services delivery plan job past
          (deeds ++ [.request ⟨position, plan.callFor file, .accepted⟩])
          (trace ++ [.restore (plan.callFor file) .accepted,
            .log (Restores.acceptedRecord plan job attempt file)]) := requested
      have here : past ++ trace ++ [.restore (plan.callFor file) .accepted] ++
          [.log (Restores.acceptedRecord plan job attempt file)] ++ [] =
            past ++ (trace ++ [.restore (plan.callFor file) .accepted,
              .log (Restores.acceptedRecord plan job attempt file)]) := by
        simp only [List.append_assoc, List.append_nil, List.cons_append, List.nil_append]
      dsimp only [Restores.afterReply] at ran
      rw [Procedure.bind_of_ok (Procedure.tell_apply _ _),
        Procedure.bind_of_ok (services.now_apply _), here] at ran
      generalize services.clock _ = time at ran
      rcases delivered : deliver services delivery (.ofFile (.pending job file.accept time))
        (past ++ (trace ++ [.restore (plan.callFor file) .accepted,
          .log (Restores.acceptedRecord plan job attempt file)])) with ⟨ended, sent⟩
      obtain ⟨replies, published⟩ := told.delivered delivered
      rw [Procedure.bind_pure_eq_map delivered fun _ => file.accept] at ran
      obtain ⟨-, rfl⟩ := Prod.mk.inj ran
      exact ⟨[.publish _ replies], by simpa using published, rfl, rfl, rfl⟩
  | rejected message =>
      cases ran
      refine ⟨[], ?_, rfl, rfl, rfl⟩
      rw [List.append_nil]
      exact requested
  | unusable message =>
      cases ran
      refine ⟨[], ?_, rfl, rfl, rfl⟩
      rw [List.append_nil]
      exact requested

theorem Ledger.report (ledger : Ledger services delivery plan job past deeds trace)
    (files : List FileResult) :
    ∃ more, Ledger services delivery plan job past (deeds ++ more)
        (trace ++ Notices.events delivery job files
          (Notices.ofServices services delivery job (past ++ trace) files)) ∧
      Deed.requests more = [] ∧ Deed.waits more = 0 ∧
      (Deed.publishes more).length = files.length := by
  induction files generalizing deeds trace with
  | nil => exact ⟨[], by simpa [Notices.events] using ledger, rfl, rfl, rfl⟩
  | cons file others ih =>
      obtain ⟨message, told⟩ : ∃ message,
          message = Restores.failedMessage job file (services.clock (past ++ trace)) := ⟨_, rfl⟩
      obtain ⟨replies, published⟩ :=
        ledger.delivered (deliver_eq services delivery message (past ++ trace))
      obtain ⟨more, reported, unasked, unwaited, counted⟩ := ih published
      refine ⟨.publish message replies :: more, ?_, unasked, unwaited, congrArg Nat.succ counted⟩
      rw [List.append_assoc, List.append_assoc, ← List.append_assoc past, told] at reported
      rw [told]
      exact reported

end

end GranuleRecall
