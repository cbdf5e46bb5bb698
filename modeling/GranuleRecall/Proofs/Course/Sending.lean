import GranuleRecall.Run.Delivery

/-! # How a message is sent

The sending of one message as data: how each attempt is answered. Everything that a delivery does
can be read off it, and a delivery does what its sending says. -/
set_option autoImplicit false

namespace GranuleRecall

/-- How the sending of a message goes, from some attempt on. -/
inductive Sending
  | posted
  | givenUp (reasons : List String)
  | retried (reasons : List String) (following : Sending)
deriving DecidableEq, Repr

namespace Sending

/-- Whether the queue accepts the message in the end. -/
def isPosted : Sending → Bool
  | posted => true
  | givenUp _ => false
  | retried _ following => following.isPosted

/-- What happens in a sending that begins with the attempt of some number. -/
def events (budget : DeliveryBudget) (message : Message) : (attempt : Nat) → Sending → Trace
  | attempt, posted =>
    [.send message .accepted, .log (Delivery.postedRecord message attempt)]
  | attempt, givenUp reasons =>
    [.send message (.refused reasons), .log (Delivery.givenUpRecord message attempt reasons)]
  | attempt, retried reasons following =>
    .send message (.refused reasons) ::
      .log (Delivery.retryRecord budget message attempt reasons) ::
      .sleep budget.sleep :: events budget message (attempt + 1) following

/-- How a sending for a table fails. -/
def failure (table : Table) : (attempt : Nat) → Sending → Option Failure
  | _, posted => none
  | attempt, givenUp reasons =>
    some (.undelivered table.name attempt (reasonsText reasons))
  | attempt, retried _ following => failure table (attempt + 1) following

/-- The attempts of a sending, with their answers. -/
def attempts (message : Message) : Sending → List (Message × SendReply)
  | posted => [(message, .accepted)]
  | givenUp reasons => [(message, .refused reasons)]
  | retried reasons following => (message, .refused reasons) :: following.attempts message

/-- The sending that comes of the services' answers. -/
def ofServices (services : Services) (budget : DeliveryBudget) (message : Message) :
    (attemptsLeft attempt : Nat) → (past : Trace) → Sending
  | 0, _, past =>
    match services.send past message with
    | .accepted => posted
    | .refused reasons => givenUp reasons
  | attemptsLeft + 1, attempt, past =>
    match services.send past message with
    | .accepted => posted
    | .refused reasons =>
      retried reasons
        (ofServices services budget message attemptsLeft (attempt + 1)
          (past ++ [.send message (.refused reasons),
            .log (Delivery.retryRecord budget message attempt reasons), .sleep budget.sleep]))

/-- The sending of a message that is delivered. -/
def ofDelivery (services : Services) (budget : DeliveryBudget) (message : Message)
    (past : Trace) : Sending :=
  ofServices services budget message (budget.attempts - 1) 1 past

/-! ## What a sending shows -/

variable (budget : DeliveryBudget) (message : Message) (attempt : Nat) (sending : Sending)

@[simp] theorem restores_events : (sending.events budget message attempt).restores = [] := by
  induction sending generalizing attempt with
  | posted => rfl
  | givenUp reasons => rfl
  | retried reasons following ih => exact ih (attempt + 1)

@[simp] theorem probes_events : (sending.events budget message attempt).probes = [] := by
  induction sending generalizing attempt with
  | posted => rfl
  | givenUp reasons => rfl
  | retried reasons following ih => exact ih (attempt + 1)

@[simp] theorem sends_events :
    (sending.events budget message attempt).sends = sending.attempts message := by
  induction sending generalizing attempt with
  | posted => rfl
  | givenUp reasons => rfl
  | retried reasons following ih => exact congrArg (List.cons _) (ih (attempt + 1))

@[simp] theorem acceptedMessages_events :
    (sending.events budget message attempt).acceptedMessages =
      if sending.isPosted then [message] else [] := by
  induction sending generalizing attempt with
  | posted => rfl
  | givenUp reasons => rfl
  | retried reasons following ih => exact ih (attempt + 1)

theorem mem_attempts {entry : Message × SendReply} (member : entry ∈ sending.attempts message) :
    entry.1 = message := by
  induction sending with
  | posted => simp [attempts] at member; simp [member]
  | givenUp reasons => simp [attempts] at member; simp [member]
  | retried reasons following ih =>
      rcases List.mem_cons.mp member with rfl | later
      · rfl
      · exact ih later

variable {sending attempt} {table : Table}

/-- A sending fails exactly when the queue accepts no attempt of it. -/
theorem failure_eq_none_iff : sending.failure table attempt = none ↔ sending.isPosted = true := by
  induction sending generalizing attempt with
  | posted => simp [failure, isPosted]
  | givenUp reasons => simp [failure, isPosted]
  | retried reasons following ih => exact ih

/-- The failure of a sending tells the table, and nothing about files. -/
theorem failure_eq_undelivered {failed : Failure}
    (found : sending.failure table attempt = some failed) :
    ∃ attempts reasons, failed = .undelivered table.name attempts reasons := by
  induction sending generalizing attempt with
  | posted => cases found
  | givenUp reasons => cases found; exact ⟨attempt, reasonsText reasons, rfl⟩
  | retried reasons following ih => exact ih found

end Sending

/-! ## A delivery follows its sending -/

theorem Delivery.sendFrom_eq (services : Services) (budget : DeliveryBudget) (message : Message)
    (attemptsLeft attempt : Nat) (past : Trace) :
    Delivery.sendFrom services budget message attemptsLeft attempt past =
      (Procedure.endedBy
        ((Sending.ofServices services budget message attemptsLeft attempt past).failure
          message.table attempt) (),
        (Sending.ofServices services budget message attemptsLeft attempt past).events
          budget message attempt) := by
  induction attemptsLeft generalizing attempt past with
  | zero =>
      unfold Delivery.sendFrom Sending.ofServices
      rw [Procedure.bind_of_ok (services.askSend_apply message past)]
      cases services.send past message with
      | accepted => rfl
      | refused reasons => rfl
  | succ attemptsLeft ih =>
      unfold Delivery.sendFrom Sending.ofServices
      rw [Procedure.bind_of_ok (services.askSend_apply message past)]
      cases services.send past message with
      | accepted => rfl
      | refused reasons =>
          dsimp only
          rw [Procedure.bind_of_ok (Procedure.tell_apply _ _),
            Procedure.bind_of_ok (Procedure.sleep_apply _ _), ih]
          simp [Sending.failure, Sending.events]

theorem deliver_eq (services : Services) (budget : DeliveryBudget) (message : Message)
    (past : Trace) :
    deliver services budget message past =
      (Procedure.endedBy
        ((Sending.ofDelivery services budget message past).failure message.table 1) (),
        (Sending.ofDelivery services budget message past).events budget message 1) :=
  Delivery.sendFrom_eq services budget message (budget.attempts - 1) 1 past

end GranuleRecall
