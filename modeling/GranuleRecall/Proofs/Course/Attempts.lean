import GranuleRecall.Proofs.Course.Sending

/-! # How often a message is tried

A sending says how many attempts were made and with what reasons the last one was refused. A
delivery never makes more attempts than its budget has, and when the queue accepts none of them it
has used the whole budget up. -/

set_option autoImplicit false

namespace GranuleRecall

namespace Sending

/-- The number of attempts. -/
def count : Sending → Nat
  | posted => 1
  | givenUp _ => 1
  | retried _ following => following.count + 1

/-- The reasons of the last refusal, when the queue accepts no attempt. -/
def refusal? : Sending → Option (List String)
  | posted => none
  | givenUp reasons => some reasons
  | retried _ following => following.refusal?

theorem count_pos (sending : Sending) : 0 < sending.count := by
  cases sending with
  | posted => exact Nat.one_pos
  | givenUp reasons => exact Nat.one_pos
  | retried reasons following => exact Nat.succ_pos _

/-- A sending that fails names the table, the last attempt, and the reasons of its refusal. -/
theorem failure_eq (table : Table) (attempt : Nat) (sending : Sending) :
    sending.failure table attempt =
      sending.refusal?.map fun reasons =>
        .undelivered table.name (attempt + (sending.count - 1)) (reasonsText reasons) := by
  induction sending generalizing attempt with
  | posted => rfl
  | givenUp reasons => rfl
  | retried reasons following ih =>
      have counted : attempt + 1 + (following.count - 1) = attempt + (following.count + 1 - 1) := by
        have made := following.count_pos
        omega
      rw [failure, ih, counted]
      rfl

theorem isPosted_eq_false_of_refusal {sending : Sending} {reasons : List String}
    (refused : sending.refusal? = some reasons) : sending.isPosted = false := by
  induction sending with
  | posted => cases refused
  | givenUp reasons => rfl
  | retried reasons following ih => exact ih refused

/-- A sending within a budget of some number of attempts, which uses it up unless it ends with an
acceptance. -/
structure KeepsBudget (attempts : Nat) (sending : Sending) : Prop where
  bounded : sending.count ≤ attempts
  spent : sending.isPosted = false → sending.count = attempts

variable (services : Services) (budget : DeliveryBudget) (message : Message)

theorem ofServices_keepsBudget (attemptsLeft attempt : Nat) (past : Trace) :
    (ofServices services budget message attemptsLeft attempt past).KeepsBudget
      (attemptsLeft + 1) := by
  induction attemptsLeft generalizing attempt past with
  | zero =>
      unfold ofServices
      cases services.send past message with
      | accepted => exact ⟨Nat.le_refl 1, fun _ => rfl⟩
      | refused reasons => exact ⟨Nat.le_refl 1, fun _ => rfl⟩
  | succ attemptsLeft ih =>
      unfold ofServices
      cases services.send past message with
      | accepted =>
          refine ⟨Nat.le_add_left 1 _, ?_⟩
          intro unposted
          cases unposted
      | refused reasons =>
          obtain ⟨bounded, spent⟩ := ih (attempt + 1)
            (past ++ [.send message (.refused reasons),
              .log (Delivery.retryRecord budget message attempt reasons), .sleep budget.sleep])
          exact ⟨Nat.succ_le_succ bounded, fun unposted => congrArg Nat.succ (spent unposted)⟩

theorem ofDelivery_keepsBudget (past : Trace) :
    (ofDelivery services budget message past).KeepsBudget budget.attempts := by
  have kept := ofServices_keepsBudget services budget message (budget.attempts - 1) 1 past
  rwa [Nat.sub_add_cancel budget.attempts_pos] at kept

end Sending

end GranuleRecall
