import GranuleRecall.Proofs.Course.Pass

/-! # How the passes go

All passes of a run as data. `PassesRun` says once which passes a run can have. -/
set_option autoImplicit false

namespace GranuleRecall

namespace Passes

/-- The failure of passes that begin with the one of some number: that of the first pass that
fails, or else that the passes cannot be counted any more. -/
def failure (attempt : Nat) (passes : List (List Turn)) : Option Failure :=
  (passes.findSome? Pass.failure).or
    (if passCountBound < attempt + passes.length then some .passCountOverflow else none)

/-- The files after some passes. -/
def after (files : List FileResult) (passes : List (List Turn)) : List FileResult :=
  passes.foldl Pass.after files

section

variable (services : Services) (delivery : DeliveryBudget) (plan : RestorePlan) (job : Job)

/-- What happens in each pass, from the one of some number on. -/
def traces : (attempt : Nat) → List FileResult → List (List Turn) → List Trace
  | _, _, [] => []
  | attempt, files, turns :: later =>
    Pass.events delivery plan job attempt files turns ::
      traces (attempt + 1) (Pass.after files turns) later

/-- What happens in all passes: a wait lies between each two of them. -/
def events (attempt : Nat) (files : List FileResult) (passes : List (List Turn)) : Trace :=
  ((traces delivery plan job attempt files passes).intersperse
    [.sleep plan.passes.sleep]).flatten

/-- The passes that come of the services' answers. -/
def ofServices : (passesLeft attempt : Nat) → Trace → List FileResult → List (List Turn)
  | 0, _, _, _ => []
  | passesLeft + 1, attempt, past, files =>
    let turns := Pass.ofServices services delivery plan job attempt past files
    let files' := Pass.after files turns
    if (Pass.failure turns).isSome ∨ passCountBound ≤ attempt ∨ passesLeft = 0 ∨
        files'.all (·.accepted) then
      [turns]
    else
      turns :: ofServices passesLeft (attempt + 1)
        (past ++ Pass.events delivery plan job attempt files turns ++ [.sleep plan.passes.sleep])
        files'

end

end Passes

/-- The passes that a run can have when so many are left, from the one of some number on. -/
inductive PassesRun : (passesLeft attempt : Nat) → List FileResult → List (List Turn) → Prop
  | spent {attempt : Nat} {files : List FileResult} : PassesRun 0 attempt files []
  | failed {passesLeft attempt : Nat} {files : List FileResult} {turns : List Turn}
      {failure : Failure} :
      PassRuns files turns → Pass.failure turns = some failure →
      PassesRun (passesLeft + 1) attempt files [turns]
  | last {passesLeft attempt : Nat} {files : List FileResult} {turns : List Turn} :
      PassRuns files turns → Pass.failure turns = none →
      passCountBound ≤ attempt ∨ passesLeft = 0 ∨
        (Pass.after files turns).all (·.accepted) = true →
      PassesRun (passesLeft + 1) attempt files [turns]
  | repeated {passesLeft attempt : Nat} {files : List FileResult} {turns : List Turn}
      {later : List (List Turn)} :
      PassRuns files turns → Pass.failure turns = none →
      attempt < passCountBound → passesLeft ≠ 0 →
      (Pass.after files turns).all (·.accepted) = false →
      PassesRun passesLeft (attempt + 1) (Pass.after files turns) later →
      PassesRun (passesLeft + 1) attempt files (turns :: later)

section

variable (services : Services) (delivery : DeliveryBudget) (plan : RestorePlan) (job : Job)

theorem Passes.ofServices_run (passesLeft attempt : Nat) (past : Trace)
    (files : List FileResult) :
    PassesRun passesLeft attempt files
      (Passes.ofServices services delivery plan job passesLeft attempt past files) := by
  induction passesLeft generalizing attempt past files with
  | zero => exact .spent
  | succ passesLeft ih =>
      have ran := Pass.ofServices_runs services delivery plan job attempt past files
      simp only [Passes.ofServices]
      generalize Pass.ofServices services delivery plan job attempt past files = turns at ran
      cases failed : Pass.failure turns with
      | some failure =>
          simp only [Option.isSome_some, true_or, ↓reduceIte]
          exact .failed ran failed
      | none =>
          split
          next stops => exact .last ran failed (by simpa using stops)
          next goesOn =>
            simp only [Option.isSome_none, Bool.false_eq_true, false_or, not_or, Nat.not_le,
              Bool.not_eq_true] at goesOn
            exact .repeated ran failed goesOn.1 goesOn.2.1 goesOn.2.2 (ih _ _ _)

@[simp] theorem Passes.length_after (files : List FileResult) (passes : List (List Turn)) :
    (Passes.after files passes).length = files.length := by
  induction passes generalizing files with
  | nil => rfl
  | cons turns later ih => exact (ih (Pass.after files turns)).trans (Pass.length_after files turns)

theorem Passes.failure_cons {attempt : Nat} {turns : List Turn}
    (fine : Pass.failure turns = none) (later : List (List Turn)) :
    Passes.failure attempt (turns :: later) = Passes.failure (attempt + 1) later := by
  have counted : attempt + (later.length + 1) = attempt + 1 + later.length := by omega
  simp [Passes.failure, fine, counted]

@[simp] theorem Passes.events_singleton (attempt : Nat) (files : List FileResult)
    (turns : List Turn) :
    Passes.events delivery plan job attempt files [turns] =
      Pass.events delivery plan job attempt files turns := by
  simp [Passes.events, Passes.traces]

theorem Passes.events_cons (attempt : Nat) (files : List FileResult) (turns : List Turn)
    {later : List (List Turn)} (more : later ≠ []) :
    Passes.events delivery plan job attempt files (turns :: later) =
      Pass.events delivery plan job attempt files turns ++ .sleep plan.passes.sleep ::
        Passes.events delivery plan job (attempt + 1) (Pass.after files turns) later := by
  cases later with
  | nil => exact absurd rfl more
  | cons next others => simp [Passes.events, Passes.traces]

theorem PassesRun.ne_nil {passesLeft attempt : Nat} {files : List FileResult}
    {passes : List (List Turn)} (run : PassesRun passesLeft attempt files passes)
    (left : passesLeft ≠ 0) : passes ≠ [] := by
  cases run with
  | spent => exact absurd rfl left
  | _ => exact List.cons_ne_nil _ _

/-- A pass is the last one, or others follow it. -/
theorem Passes.ofServices_succ (passesLeft attempt : Nat) (past : Trace)
    (files : List FileResult) {turns : List Turn} {later : List (List Turn)}
    (made : turns = Pass.ofServices services delivery plan job attempt past files)
    (rest : later = Passes.ofServices services delivery plan job passesLeft (attempt + 1)
      (past ++ Pass.events delivery plan job attempt files turns ++ [.sleep plan.passes.sleep])
      (Pass.after files turns)) :
    ((Pass.failure turns).isSome = true ∨ passCountBound ≤ attempt ∨ passesLeft = 0 ∨
        (Pass.after files turns).all (·.accepted) = true) ∧
      Passes.ofServices services delivery plan job (passesLeft + 1) attempt past files =
        [turns] ∨
    later ≠ [] ∧
      Passes.ofServices services delivery plan job (passesLeft + 1) attempt past files =
        turns :: later := by
  subst rest made
  simp only [Passes.ofServices]
  split
  next stops => exact .inl ⟨stops, rfl⟩
  next goesOn =>
    have left : passesLeft ≠ 0 := fun spent => goesOn (.inr (.inr (.inl spent)))
    exact .inr ⟨(Passes.ofServices_run services delivery plan job _ _ _ _).ne_nil left, rfl⟩

theorem Restores.passesFrom_eq (passesLeft attempt : Nat) (past : Trace)
    (files : List FileResult) (counted : attempt ≤ passCountBound) :
    Restores.passesFrom services delivery plan job passesLeft attempt files past =
      (Procedure.endedBy
        (Passes.failure attempt
          (Passes.ofServices services delivery plan job passesLeft attempt past files))
        (Passes.after files
          (Passes.ofServices services delivery plan job passesLeft attempt past files)),
        Passes.events delivery plan job attempt files
          (Passes.ofServices services delivery plan job passesLeft attempt past files)) := by
  induction passesLeft generalizing attempt past files with
  | zero =>
      have room : ¬ passCountBound < attempt := by omega
      simp [Restores.passesFrom, Passes.ofServices, Passes.failure, Passes.after, Passes.events,
        Passes.traces, Procedure.endedBy, room]
  | succ passesLeft ih =>
      have passed := Restores.pass_eq services delivery plan job attempt past files
      simp only [Restores.passesFrom, Passes.ofServices]
      generalize Pass.ofServices services delivery plan job attempt past files = turns at passed
      cases failed : Pass.failure turns with
      | some failure =>
          rw [failed] at passed
          rw [Procedure.bind_of_error passed]
          simp [Passes.failure, failed, Procedure.endedBy]
      | none =>
          rw [failed] at passed
          rw [Procedure.bind_of_ok passed]
          simp only [Option.isSome_none, Bool.false_eq_true, false_or]
          by_cases full : passCountBound ≤ attempt
          · have uncounted : passCountBound < attempt + 1 := by omega
            simp [full, uncounted, Passes.failure, failed, Procedure.endedBy]
          · have room : ¬ passCountBound < attempt + 1 := by omega
            simp only [full, ↓reduceIte, false_or]
            cases stops : passesLeft = 0 || (Pass.after files turns).all (·.accepted) with
            | true =>
                have last : passesLeft = 0 ∨ (Pass.after files turns).all (·.accepted) = true := by
                  simpa using stops
                simp only [last, ↓reduceIte]
                simp [Passes.failure, failed, room, Procedure.endedBy, Passes.after]
            | false =>
                obtain ⟨left, waits⟩ : passesLeft ≠ 0 ∧
                    (Pass.after files turns).all (·.accepted) = false := by
                  simpa using stops
                simp only [left, waits, Bool.false_eq_true, or_self, ↓reduceIte]
                rw [Procedure.bind_of_ok (Procedure.sleep_apply _ _),
                  ih (attempt + 1) _ _ (by omega)]
                have more := (Passes.ofServices_run services delivery plan job passesLeft
                  (attempt + 1) (past ++ Pass.events delivery plan job attempt files turns ++
                    [.sleep plan.passes.sleep]) (Pass.after files turns)).ne_nil left
                rw [Passes.failure_cons failed,
                  Passes.events_cons delivery plan job attempt files turns more]
                rfl

end

end GranuleRecall
