import GranuleRecall.Run.Procedure
import GranuleRecall.Settings.Budget

/-! # Delivery

A message is sent until the queue accepts it or the budget is used up, with a wait between two
attempts and none after the last. -/
set_option autoImplicit false

namespace GranuleRecall

namespace Delivery

def postedRecord (message : Message) (attempt : Nat) : LogRecord where
  level := .debug
  source := .delivery
  message := "Posted status event to queue"
  fields := [("table", .text message.table.name), ("method", .text message.method.name),
    ("attempt", .number attempt)]

def retryRecord (budget : DeliveryBudget) (message : Message) (attempt : Nat)
    (reasons : List String) : LogRecord where
  level := .warn
  source := .delivery
  message := s!"Queue delivery failed, retrying: {reasonsText reasons}"
  fields := [("table", .text message.table.name), ("attempt", .number attempt),
    ("max_attempts", .number budget.maxAttempts.toNat)]

def givenUpRecord (message : Message) (attempt : Nat) (reasons : List String) : LogRecord where
  level := .error
  source := .delivery
  message :=
    s!"Error while logging row {message.body} to table {message.table.name}: {reasonsText reasons}"
  fields := [("table", .text message.table.name), ("attempts", .number attempt)]

/-- Sends a message for the attempt of some number, and again as often as attempts are left
after it. -/
def sendFrom (services : Services) (budget : DeliveryBudget) (message : Message) :
    (attemptsLeft attempt : Nat) → Procedure Unit
  | attemptsLeft, attempt => do
    match ← services.askSend message with
    | .accepted => Procedure.tell (postedRecord message attempt)
    | .refused reasons =>
      match attemptsLeft with
      | 0 =>
        Procedure.tell (givenUpRecord message attempt reasons)
        Procedure.fail (.undelivered message.table.name attempt (reasonsText reasons))
      | attemptsLeft + 1 =>
        Procedure.tell (retryRecord budget message attempt reasons)
        Procedure.sleep budget.sleep
        sendFrom services budget message attemptsLeft (attempt + 1)

end Delivery

def deliver (services : Services) (budget : DeliveryBudget) (message : Message) :
    Procedure Unit :=
  Delivery.sendFrom services budget message (budget.attempts - 1) 1

end GranuleRecall
