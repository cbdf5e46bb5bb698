import GranuleRecall.Time.Duration

/-! # Budgets

How often something is tried, and how long is waited in between. -/
set_option autoImplicit false

namespace GranuleRecall

/-- The budget for requesting restores: passes over the files that are left. -/
structure PassBudget where
  maxRetries : UInt32
  sleep : Time.Duration
deriving DecidableEq, Repr

/-- The greatest count of passes that can be represented. -/
def passCountBound : Nat := UInt32.size - 1

/-- The first pass and the retries, but no more than can be represented. -/
def PassBudget.totalAttempts (budget : PassBudget) : Nat :=
  min (budget.maxRetries.toNat + 1) passCountBound

/-- The budget for delivering one status message. The first attempt is always made. -/
structure DeliveryBudget where
  maxAttempts : UInt32
  sleep : Time.Duration
deriving DecidableEq, Repr

/-- The attempts that may be made: at least one. -/
def DeliveryBudget.attempts (budget : DeliveryBudget) : Nat :=
  max budget.maxAttempts.toNat 1

/-- A budget of a count of attempts, or of one in place of none. -/
def DeliveryBudget.of (maxAttempts : UInt32) (sleep : Time.Duration) : DeliveryBudget :=
  ⟨if maxAttempts = 0 then 1 else maxAttempts, sleep⟩

theorem DeliveryBudget.attempts_pos (budget : DeliveryBudget) : 0 < budget.attempts := by
  simp only [attempts]
  omega

theorem DeliveryBudget.of_maxAttempts (maxAttempts : UInt32) (sleep : Time.Duration) :
    (DeliveryBudget.of maxAttempts sleep).maxAttempts.toNat = max maxAttempts.toNat 1 := by
  unfold DeliveryBudget.of
  by_cases none : maxAttempts = 0
  · simp [none]
  · have positive : maxAttempts.toNat ≠ 0 := fun zero => none (UInt32.toNat_inj.mp zero)
    simp only [none, ↓reduceIte]
    omega

end GranuleRecall
