import GranuleRecall.Proofs.Course.Exchanges
import GranuleRecall.Proofs.PassStructure

/-! # Budgets of passes add up

A run that ends with files that were never accepted carries all that a later run needs to go on:
the two together request what one run with both budgets requests, and leave the granule as it
does. So a greater budget only adds requests, and takes back no acceptance. -/

set_option autoImplicit false

namespace GranuleRecall

/-- What a run depends on besides its plan and its granule. -/
structure Occasion where
  services : Services
  delivery : DeliveryBudget
  jobId : String
  past : Trace

def Occasion.run (occasion : Occasion) (plan : RestorePlan) (granule : Granule) :
    Except Failure Granule × Trace :=
  requestRestores occasion.services occasion.delivery plan occasion.jobId granule occasion.past

/-- The granule that a run gives, as its result or with the files that failed. -/
def finalGranule? : Except Failure Granule → Option Granule
  | .ok final => some final
  | .error failure => failure.partialResult.map Prod.snd

theorem finalGranule?_outcome (exchanges : Exchanges) (jobId : String) (granule : Granule) :
    finalGranule? (exchanges.outcome jobId granule) =
      some { granule with results := exchanges.files } := by
  unfold Exchanges.outcome
  split
  · rfl
  · rfl

/-- Of the job only its id is in an outcome. -/
theorem Exchanges.outcome_cases (exchanges : Exchanges) (granule : Granule) :
    (∀ jobId, exchanges.outcome jobId granule =
        .ok { granule with results := exchanges.files }) ∨
      ∀ jobId, exchanges.outcome jobId granule =
        .error (.incomplete jobId { granule with results := exchanges.files }) := by
  unfold outcome
  split
  · exact .inl fun _ => rfl
  · exact .inr fun _ => rfl

theorem Occasion.run_byRule {occasion : Occasion}
    {rule : List (RestoreCall × RestoreReply) → RestoreCall → RestoreReply}
    (answers : ∀ history call, rule history call = .accepted ∨
      ∃ message, rule history call = .rejected message)
    (obliging : occasion.services.Obliging rule) (plan : RestorePlan) {budget : PassBudget}
    (counted : budget.totalAttempts < passCountBound) (granule : Granule)
    {history : List (RestoreCall × RestoreReply)} (begun : occasion.past.restores = history)
    {exchanges : Exchanges}
    (told : exchanges =
      Passes.byRule rule plan.callFor budget.totalAttempts history granule.results) :
    (occasion.run { plan with passes := budget } granule).2.restores = exchanges.asked ∧
      (occasion.run { plan with passes := budget } granule).1 =
        exchanges.outcome occasion.jobId granule := by
  subst begun
  exact requestRestores_byRule answers obliging occasion.delivery { plan with passes := budget }
    counted occasion.jobId granule occasion.past told

/-- Of three runs whose archive replies by one rule and whose queues accept everything, the first
and the last begin alike, and the second takes up what the first leaves. The last has as many
passes as the others together. -/
theorem requestRestores_budgets_compose
    {rule : List (RestoreCall × RestoreReply) → RestoreCall → RestoreReply}
    (answers : ∀ history call, rule history call = .accepted ∨
      ∃ message, rule history call = .rejected message)
    (first second whole : Occasion) (firstObliging : first.services.Obliging rule)
    (secondObliging : second.services.Obliging rule)
    (wholeObliging : whole.services.Obliging rule)
    (plan : RestorePlan) (early late total : PassBudget)
    (sum : total.totalAttempts = early.totalAttempts + late.totalAttempts)
    (counted : total.totalAttempts < passCountBound) (granule : Granule)
    (alike : whole.past.restores = first.past.restores)
    (resumed : second.past.restores =
      first.past.restores ++ (first.run { plan with passes := early } granule).2.restores) :
    let firstRun := first.run { plan with passes := early } granule
    let wholeRun := whole.run { plan with passes := total } granule
    ((∃ final, firstRun.1 = .ok final ∧ wholeRun.1 = .ok final ∧
          wholeRun.2.restores = firstRun.2.restores) ∨
        ∃ carried final, firstRun.1 = .error (.incomplete first.jobId carried) ∧
          let secondRun := second.run { plan with passes := late } carried
          wholeRun.2.restores = firstRun.2.restores ++ secondRun.2.restores ∧
            (secondRun.1 = .ok final ∧ wholeRun.1 = .ok final ∨
              secondRun.1 = .error (.incomplete second.jobId final) ∧
                wholeRun.1 = .error (.incomplete whole.jobId final))) ∧
      firstRun.2.restores <+: wholeRun.2.restores ∧
      ∃ before after, finalGranule? firstRun.1 = some before ∧
        finalGranule? wholeRun.1 = some after ∧
        ∀ position : Nat, before.results[position]?.any (·.accepted) = true →
          after.results[position]?.any (·.accepted) = true := by
  have positive : 0 < early.totalAttempts := by
    simp only [PassBudget.totalAttempts, passCountBound, UInt32.size]
    omega
  have composed := Passes.byRule_add rule plan.callFor positive late.totalAttempts
    first.past.restores granule.results
  rw [← sum] at composed
  obtain ⟨asked, told⟩ : ∃ asked, asked = Passes.byRule rule plan.callFor early.totalAttempts
    first.past.restores granule.results := ⟨_, rfl⟩
  obtain ⟨firstAsked, firstOutcome⟩ :=
    Occasion.run_byRule answers firstObliging plan (by omega) granule rfl told
  rw [firstAsked] at resumed
  dsimp only at composed ⊢
  rw [firstAsked, firstOutcome, finalGranule?_outcome]
  rw [← told] at composed
  cases settled : asked.files.all (·.accepted) with
  | true =>
      rw [if_pos settled] at composed
      obtain ⟨wholeAsked, wholeOutcome⟩ :=
        Occasion.run_byRule answers wholeObliging plan counted granule alike composed.symm
      rw [wholeAsked, wholeOutcome, finalGranule?_outcome]
      refine ⟨.inl ⟨{ granule with results := asked.files }, ?_, ?_, rfl⟩, List.prefix_rfl,
        _, _, rfl, rfl, fun _ accepted => accepted⟩
      · exact if_pos settled
      · exact if_pos settled
  | false =>
      have waiting := Bool.eq_false_iff.mp settled
      obtain ⟨more, toldMore⟩ : ∃ more, more = Passes.byRule rule plan.callFor
        late.totalAttempts (first.past.restores ++ asked.asked) asked.files := ⟨_, rfl⟩
      rw [if_neg waiting, ← toldMore] at composed
      obtain ⟨wholeAsked, wholeOutcome⟩ :=
        Occasion.run_byRule answers wholeObliging plan counted granule alike composed.symm
      obtain ⟨secondAsked, secondOutcome⟩ :=
        Occasion.run_byRule answers secondObliging plan (by omega)
          { granule with results := asked.files } resumed toldMore
      rw [wholeAsked, wholeOutcome, finalGranule?_outcome]
      refine ⟨.inr ⟨{ granule with results := asked.files }, { granule with results := more.files },
        if_neg waiting, ?_, ?_⟩, List.prefix_append _ _, _, _, rfl, rfl,
          fun position accepted => ?_⟩
      · rw [secondAsked]
        rfl
      · rw [secondOutcome]
        rcases more.outcome_cases granule with complete | incomplete
        · exact .inl ⟨complete second.jobId, complete whole.jobId⟩
        · exact .inr ⟨incomplete second.jobId, incomplete whole.jobId⟩
      · rw [Exchanges.followedBy, toldMore]
        exact Passes.byRule_accepted rule plan.callFor _ _ _ accepted

/-! An archive that is busy for the first three requests, and two files: two passes and a third
one, or three at once. -/

def busyAtFirst : Services where
  probe _ _ _ := .present
  restore past _ := if past.restores.length < 3 then .rejected "busy" else .accepted
  send _ _ := .accepted
  clock past := ⟨past.length, 0⟩

theorem busyAtFirst_obliging :
    busyAtFirst.Obliging fun history _ =>
      if history.length < 3 then .rejected "busy" else .accepted :=
  ⟨fun _ _ => rfl, fun _ _ => rfl⟩

/-- A first run with two passes, without a request before it. -/
def busyTwoPasses : Except Failure Granule × Trace :=
  Occasion.run ⟨busyAtFirst, .of 1 .zero, "first", []⟩
    ⟨"archive", 5, .standard, ⟨1, .zero⟩⟩ twoFiles

theorem busyTwoPasses_interrupted : busyTwoPasses.1.isOk = false := by
  rw [busyTwoPasses, Occasion.run, requestRestores_eq]
  rfl

theorem busyAtFirst_budgets_compose :
    ∃ carried, busyTwoPasses.1 = .error (.incomplete "first" carried) ∧
      (Occasion.run ⟨busyAtFirst, .of 1 .zero, "whole", []⟩
          ⟨"archive", 5, .standard, ⟨2, .zero⟩⟩ twoFiles).2.restores =
        busyTwoPasses.2.restores ++
          (Occasion.run ⟨busyAtFirst, .of 2 .zero, "second", busyTwoPasses.2⟩
            ⟨"archive", 5, .standard, ⟨0, .zero⟩⟩ carried).2.restores := by
  have answers : ∀ (history : List (RestoreCall × RestoreReply)) (call : RestoreCall),
      (if history.length < 3 then .rejected "busy" else .accepted : RestoreReply) = .accepted ∨
        ∃ message, (if history.length < 3 then .rejected "busy" else .accepted : RestoreReply) =
          .rejected message := by
    intro history _
    by_cases early : history.length < 3
    · exact .inr ⟨"busy", if_pos early⟩
    · exact .inl (if_neg early)
  have composed := (requestRestores_budgets_compose answers
    ⟨busyAtFirst, .of 1 .zero, "first", []⟩ ⟨busyAtFirst, .of 2 .zero, "second", busyTwoPasses.2⟩
    ⟨busyAtFirst, .of 1 .zero, "whole", []⟩ busyAtFirst_obliging busyAtFirst_obliging
    busyAtFirst_obliging ⟨"archive", 5, .standard, ⟨1, .zero⟩⟩ ⟨1, .zero⟩ ⟨0, .zero⟩ ⟨2, .zero⟩
    (by decide) (by decide) twoFiles rfl rfl).1
  rcases composed with ⟨final, complete, _⟩ | ⟨carried, _, interrupted, asked, _⟩
  · have ended := busyTwoPasses_interrupted
    rw [show busyTwoPasses.1 = .ok final from complete] at ended
    cases ended
  · exact ⟨carried, interrupted, asked⟩

end GranuleRecall
