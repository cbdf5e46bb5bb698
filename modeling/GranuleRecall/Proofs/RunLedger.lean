import GranuleRecall.Proofs.Course.Bookkeeping
import GranuleRecall.Proofs.Course.CallRecords
import GranuleRecall.Proofs.RequestHistory

/-! # The log is a ledger of the run

Every run has a ledger, and its trace is what the ledger leaves, with one further record at the end
when some entries were never accepted. -/

set_option autoImplicit false

namespace GranuleRecall

namespace Moment

section

variable {services : Services} {delivery : DeliveryBudget} {plan : RestorePlan} {job : Job}
  {moment next : Moment}

/-! ## The passes that are begun -/

theorem Step.attempt_le (step : Step services delivery plan job moment next) :
    moment.attempt ≤ next.attempt ∧ next.attempt ≤ moment.attempt + 1 := by
  cases step with
  | repeated _ _ _ _ _ => exact ⟨Nat.le_add_right _ 1, Nat.le_refl _⟩
  | _ => exact ⟨Nat.le_refl _, Nat.le_add_right _ 1⟩

theorem not_step_of_failed {file : FileResult} {reply : RestoreReply} {failure : Failure}
    {added : Trace} (replied : moment.replied? = some (file, reply))
    (failed : Restores.afterReply services delivery plan job moment.attempt file reply
      moment.trace = (.error failure, added)) :
    ¬Step services delivery plan job moment next := by
  intro step
  cases step with
  | turned replied' ran =>
      cases replied.symm.trans replied'
      cases failed.symm.trans ran
  | kept unreplied _ _ | requested unreplied _ _ _ | repeated unreplied _ _ _ _ =>
      cases unreplied.symm.trans replied

/-- The step from the end of a pass is to the next one. -/
theorem Step.of_passed (step : Step services delivery plan job moment next)
    (unreplied : moment.replied? = none) (last : moment.waiting = []) :
    moment.attempt < passCountBound ∧ 0 < moment.passesLeft ∧
      moment.visited.all (·.accepted) = false := by
  cases step with
  | turned replied _ => cases unreplied.symm.trans replied
  | kept _ first _ | requested _ first _ _ => cases last.symm.trans first
  | repeated _ _ counted left waits => exact ⟨counted, by omega, waits⟩

theorem Ends.not_step {outcome : Except Failure (List FileResult)} {added : Trace}
    (ends : moment.Ends services delivery plan job outcome added) :
    ¬Step services delivery plan job moment next := by
  cases ends with
  | undelivered replied failed _ => exact not_step_of_failed replied failed
  | unusable replied failed _ => exact not_step_of_failed replied failed
  | uncounted unreplied last full =>
      intro step
      obtain ⟨counted, -⟩ := step.of_passed unreplied last
      omega
  | finished unreplied last _ stops =>
      intro step
      obtain ⟨-, left, waits⟩ := step.of_passed unreplied last
      rcases stops with spent | settled
      · omega
      · cases waits.symm.trans settled

theorem attempt_le_of_steps
    (steps : Relation.ReflTransGen (Step services delivery plan job) moment next) :
    moment.attempt ≤ next.attempt := by
  induction steps with
  | refl => exact Nat.le_refl _
  | tail _ step ih => exact ih.trans step.attempt_le.1

/-- No number of a pass is left out. -/
theorem exists_attempt_of_steps {number : Nat}
    (steps : Relation.ReflTransGen (Step services delivery plan job) moment next)
    (least : moment.attempt ≤ number) (most : number ≤ next.attempt) :
    ∃ between, Relation.ReflTransGen (Step services delivery plan job) moment between ∧
      between.attempt = number := by
  induction steps with
  | refl => exact ⟨moment, .refl, Nat.le_antisymm least most⟩
  | @tail before after steps step ih =>
      rcases Nat.lt_or_ge before.attempt number with late | early
      · have next := step.attempt_le.2
        exact ⟨after, steps.tail step, by omega⟩
      · exact ih early

end

end Moment

section

variable {services : Services} {delivery : DeliveryBudget} {plan : RestorePlan} {jobId : String}
  {granule : Granule} {past : Trace} {last : Moment}

/-- The passes that a run begins are those up to the one in which it ends. -/
theorem IsMomentOf.exists_attempt_iff {outcome : Except Failure (List FileResult)} {added : Trace}
    (reached : IsMomentOf services delivery plan jobId granule past last)
    (ends : last.Ends services delivery plan (jobAt services plan jobId granule past) outcome added)
    (number : Nat) :
    (∃ moment, IsMomentOf services delivery plan jobId granule past moment ∧
        moment.attempt = number) ↔ 1 ≤ number ∧ number ≤ last.attempt := by
  constructor
  · rintro ⟨moment, reached', rfl⟩
    refine ⟨reached'.countsPasses.positive, ?_⟩
    obtain ⟨announced, delivered, steps⟩ := reached
    obtain ⟨announced', delivered', steps'⟩ := reached'
    cases delivered.symm.trans delivered'
    have unique := Moment.step_rightUnique services delivery plan
      (jobAt services plan jobId granule past)
    -- One of the two moments leads to the other, and no step leads on from the last.
    rcases Relation.ReflTransGen.total_of_right_unique unique steps steps' with forth | back
    · rcases forth.cases_head with rfl | ⟨_, step, _⟩
      · exact Nat.le_refl _
      · exact absurd step ends.not_step
    · exact Moment.attempt_le_of_steps back
  · rintro ⟨least, most⟩
    obtain ⟨announced, delivered, steps⟩ := reached
    obtain ⟨moment, steps', numbered⟩ := Moment.exists_attempt_of_steps steps least most
    exact ⟨moment, ⟨announced, delivered, steps'⟩, numbered⟩

end

/-! ## The ledger of a run -/

/-- The last record of a run: how many entries were never accepted, when that is its outcome. -/
def Ledger.closing (plan : RestorePlan) (job : Job) : Except Failure Granule → List LogRecord
  | .error (.incomplete _ final) => [{
      level := .error
      source := .restores
      message := s!"One or more files failed to be requested from {plan.bucket}"
      fields := [("job_id", .text job.id), ("granule_id", .text final.id),
        ("failed", .number (final.results.countP (!·.accepted)))] }]
  | _ => []

theorem Ledger.closing_of_ne_incomplete {plan : RestorePlan} {job : Job} {failure : Failure}
    (bare : failure.partialResult = none) : closing plan job (.error failure) = [] := by
  cases failure with
  | incomplete => cases bare
  | _ => rfl

theorem Restores.verdictEvents_eq_closing (plan : RestorePlan) (job : Job)
    (notices : List Notice) (final : Granule) :
    verdictEvents plan job (Notices.failure notices) final =
      (Ledger.closing plan job (verdict job (Notices.failure notices) final)).map Event.log := by
  cases failed : Notices.failure notices with
  | some failure =>
      rw [verdict, Ledger.closing_of_ne_incomplete (Notices.failure_partialResult failed)]
      rfl
  | none =>
      cases complete : final.isComplete with
      | true => simp [verdict, verdictEvents, complete, Ledger.closing]
      | false =>
          simp only [verdict, verdictEvents, complete, Bool.false_eq_true, ↓reduceIte,
            Ledger.closing, List.countP_eq_length_filter]
          rfl

section

variable (services : Services) (delivery : DeliveryBudget) (plan : RestorePlan) (jobId : String)
  (granule : Granule) (past : Trace)

/-- The ledger of a whole run: all that happens, but for the last record, is what its deeds leave,
and the requests among them are those of the run. -/
structure IsLedgerOf (deeds : List Deed) (trace : Trace) : Prop where
  ledger : Ledger services delivery plan (jobAt services plan jobId granule past) past deeds trace
  closed : (requestRestores services delivery plan jobId granule past).2 =
    trace ++ (Ledger.closing plan (jobAt services plan jobId granule past)
      (requestRestores services delivery plan jobId granule past).1).map Event.log
  requests : ∃ entries, StandsAt services delivery plan jobId granule past
    (requestRestores services delivery plan jobId granule past).2 (Deed.requests deeds) entries

/-- A run with these deeds begins so many passes, waits between each two, and publishes at most the
job and each entry. -/
structure BeginsPasses (passes : Nat) (deeds : List Deed) : Prop where
  begun : ∀ number, (∃ moment, IsMomentOf services delivery plan jobId granule past moment ∧
    moment.attempt = number) ↔ 1 ≤ number ∧ number ≤ passes
  waits : Deed.waits deeds = passes - 1
  publishes : (Deed.publishes deeds).length ≤ granule.results.length + 1

end

section

variable {services : Services} {delivery : DeliveryBudget} {plan : RestorePlan} {jobId : String}
  {granule : Granule} {past : Trace} {moment : Moment}

theorem ledger_of_announcement {outcome : Except Failure Unit} {announced : Trace}
    (delivered : deliver services delivery
      (.ofJob (.started (jobAt services plan jobId granule past))) past = (outcome, announced)) :
    ∃ replies, Ledger services delivery plan (jobAt services plan jobId granule past) past
      [.publish (.ofJob (.started (jobAt services plan jobId granule past))) replies]
      announced := by
  have blank : Ledger services delivery plan (jobAt services plan jobId granule past) past [] [] :=
    .start
  exact blank.delivered (by rw [List.append_nil]; exact delivered)

theorem IsMomentOf.keepsLedger
    (reached : IsMomentOf services delivery plan jobId granule past moment) :
    ∃ deeds trace, moment.KeepsLedger services delivery plan
      (jobAt services plan jobId granule past) past deeds trace := by
  obtain ⟨announced, delivered, steps⟩ := reached
  obtain ⟨replies, ledger⟩ := ledger_of_announcement delivered
  exact Moment.keepsLedger_of_steps ledger rfl rfl (Nat.le_refl 1) steps

theorem IsMomentOf.length_settled
    (reached : IsMomentOf services delivery plan jobId granule past moment) :
    moment.settled.length = granule.results.length := by
  obtain ⟨_, _, told⟩ := reached.tellsHistory
  rw [← told.kept.length]
  simp only [Moment.settled, Moment.entries, List.length_append, List.length_map,
    Option.length_toList, Option.isSome_map]

theorem Moment.Ends.partialResult_eq_none {job : Job} {failure : Failure} {added : Trace}
    (ends : moment.Ends services delivery plan job (.error failure) added) :
    failure.partialResult = none := by
  cases ends <;> rfl

theorem exists_ledger_of_unannounced {attempts : Nat} {reasons : String} {events : Trace}
    (unannounced : deliver services delivery
      (.ofJob (.started (jobAt services plan jobId granule past))) past =
        (.error (.undelivered Table.job.name attempts reasons), events))
    (ran : requestRestores services delivery plan jobId granule past =
      (.error (.undelivered Table.job.name attempts reasons), events)) :
    ∃ passes deeds trace, IsLedgerOf services delivery plan jobId granule past deeds trace ∧
      BeginsPasses services delivery plan jobId granule past passes deeds := by
  obtain ⟨replies, ledger⟩ := ledger_of_announcement unannounced
  refine ⟨0, _, _, ⟨ledger, ?closed, ?requests⟩, ?begun, rfl, Nat.le_add_left 1 _⟩
  case closed =>
    rw [ran]
    exact (List.append_nil _).symm
  case requests =>
    have quiet := Restores.restores_deliver unannounced
    refine ⟨_, .untouched List.prefix_rfl ?_⟩
    rw [ran]
    exact quiet
  case begun =>
    intro number
    constructor
    · rintro ⟨moment, ⟨announced, delivered, _⟩, _⟩
      cases unannounced.symm.trans delivered
    · omega

theorem IsMomentOf.exists_ledger_of_broken {failure : Failure} {added passed : Trace}
    (reached : IsMomentOf services delivery plan jobId granule past moment)
    (ends : moment.Ends services delivery plan (jobAt services plan jobId granule past)
      (.error failure) added)
    (happened : past ++ passed = moment.trace ++ added)
    (ran : requestRestores services delivery plan jobId granule past = (.error failure, passed)) :
    ∃ passes deeds trace, IsLedgerOf services delivery plan jobId granule past deeds trace ∧
      BeginsPasses services delivery plan jobId granule past passes deeds := by
  obtain ⟨_, _, kept⟩ := reached.keepsLedger
  obtain ⟨deeds, trace, ⟨ledger, traced, requested, waited, published⟩, -⟩ := kept.ended ends
  obtain rfl : passed = trace := List.append_cancel_left (happened.trans traced)
  refine ⟨moment.attempt, deeds, passed, ⟨ledger, ?closed, ?requests⟩,
    reached.exists_attempt_iff ends, by omega, ?publishes⟩
  case closed =>
    rw [ran, Ledger.closing_of_ne_incomplete ends.partialResult_eq_none]
    exact (List.append_nil _).symm
  case requests =>
    have whole : passed ++ [] <+:
        (requestRestores services delivery plan jobId granule past).2 := by
      simp only [ran, List.append_nil, List.prefix_rfl]
    have stands := reached.standsAt_end ends happened rfl whole
    rw [List.append_nil] at stands
    rw [ran, requested]
    exact ⟨_, stands⟩
  case publishes =>
    rwa [reached.length_settled, Nat.add_comm] at published

theorem IsMomentOf.exists_ledger_of_concluded {files : List FileResult}
    {added passed further : Trace} {outcome : Except Failure Granule}
    (reached : IsMomentOf services delivery plan jobId granule past moment)
    (ends : moment.Ends services delivery plan (jobAt services plan jobId granule past)
      (.ok files) added)
    (happened : past ++ passed = moment.trace ++ added)
    (concluded : Restores.conclude services delivery plan (jobAt services plan jobId granule past)
      { granule with results := files } (past ++ passed) = (outcome, further))
    (ran : requestRestores services delivery plan jobId granule past =
      (outcome, passed ++ further)) :
    ∃ passes deeds trace, IsLedgerOf services delivery plan jobId granule past deeds trace ∧
      BeginsPasses services delivery plan jobId granule past passes deeds := by
  obtain ⟨_, _, kept⟩ := reached.keepsLedger
  obtain ⟨deeds, trace, ⟨ledger, traced, requested, waited, -⟩, finished⟩ := kept.ended ends
  obtain ⟨all, published⟩ := finished files rfl
  obtain rfl : passed = trace := List.append_cancel_left (happened.trans traced)
  have quiet := Restores.restores_conclude services delivery plan
    (jobAt services plan jobId granule past) { granule with results := files } (past ++ passed)
  rw [concluded] at quiet
  obtain ⟨more, reported, unasked, unwaited, noticed⟩ :=
    ledger.report (Granule.unaccepted { granule with results := files })
  rw [Restores.conclude_eq _ _ _ _ _ _ rfl, Restores.verdictEvents_eq_closing] at concluded
  obtain ⟨rfl, rfl⟩ := Prod.mk.inj concluded
  refine ⟨moment.attempt, deeds ++ more, _, ⟨reported, ?closed, ?requests⟩,
    reached.exists_attempt_iff ends, ?waits, ?publishes⟩
  case closed => rw [ran, List.append_assoc]
  case requests =>
    rw [Deed.requests_append, unasked, List.append_nil, requested, ran]
    exact ⟨_, reached.standsAt_end ends happened quiet (by simp only [ran, List.prefix_rfl])⟩
  case waits =>
    rw [Deed.waits_append, unwaited]
    omega
  case publishes =>
    -- The passes published the entries that are accepted, the reports the others.
    have parts := List.length_eq_countP_add_countP (·.accepted) (l := files)
    rw [Deed.publishes_append, List.length_append, noticed, Granule.unaccepted,
      ← List.countP_eq_length_filter, ← reached.length_settled, ← all]
    simp only [Bool.not_eq_true, Bool.decide_eq_false] at parts
    dsimp only
    omega

end

theorem exists_ledger_with_passes (services : Services) (delivery : DeliveryBudget)
    (plan : RestorePlan) (jobId : String) (granule : Granule) (past : Trace) :
    ∃ passes deeds trace, IsLedgerOf services delivery plan jobId granule past deeds trace ∧
      BeginsPasses services delivery plan jobId granule past passes deeds := by
  cases requestRestores_runEnds services delivery plan jobId granule past with
  | unannounced announced ran => exact exists_ledger_of_unannounced announced ran
  | broken reached ends happened ran => exact reached.exists_ledger_of_broken ends happened ran
  | concluded reached ends happened concluded ran =>
      exact reached.exists_ledger_of_concluded ends happened concluded ran

section

variable (services : Services) (delivery : DeliveryBudget) (plan : RestorePlan) (jobId : String)
  (granule : Granule) (past : Trace)

/-- What the log of a run tells of its calls: the record of each follows at once, and none is told
twice. -/
structure TellsCalls (deeds : List Deed) : Prop where
  requests : ∀ before call reply after,
    (requestRestores services delivery plan jobId granule past).2 =
      before ++ .restore call reply :: after →
    Ledger.TellsRequest services delivery plan (jobAt services plan jobId granule past) past deeds
      before after call reply
  sends : ∀ before message reply after,
    (requestRestores services delivery plan jobId granule past).2 =
      before ++ .send message reply :: after →
    Ledger.TellsSend services delivery plan (jobAt services plan jobId granule past) past deeds
      before after message reply

variable {services delivery plan jobId granule past}

/-- Each call of a run is one of its ledger, since what comes last is a record. -/
theorem IsLedgerOf.split {deeds : List Deed} {trace before after : Trace} {event : Event}
    (kept : IsLedgerOf services delivery plan jobId granule past deeds trace)
    (split : (requestRestores services delivery plan jobId granule past).2 =
      before ++ event :: after)
    (unlogged : ∀ record, event ≠ .log record) :
    ∃ rest added, trace = before ++ event :: rest ∧ after = rest ++ added := by
  rcases Trace.split_of_append (kept.closed.symm.trans split) with
    ⟨rest, inside, same⟩ | ⟨begun, _, made⟩
  · exact ⟨rest, _, inside, same⟩
  · have last : event ∈ begun ++ event :: after := List.mem_append_right _ List.mem_cons_self
    rw [← made] at last
    obtain ⟨record, _, same⟩ := List.mem_map.mp last
    exact absurd same.symm (unlogged record)

theorem IsLedgerOf.tellsCalls {deeds : List Deed} {trace : Trace}
    (kept : IsLedgerOf services delivery plan jobId granule past deeds trace) :
    TellsCalls services delivery plan jobId granule past deeds where
  requests before call reply after split := by
    obtain ⟨rest, added, inside, rfl⟩ := kept.split split fun _ => nofun
    simpa using (kept.ledger.tellsRequest inside).append [] added
  sends before message reply after split := by
    obtain ⟨rest, added, inside, rfl⟩ := kept.split split fun _ => nofun
    simpa using (kept.ledger.tellsSend inside).append [] added

end

/-- A run gives a message up exactly when it makes all attempts of its budget to send it, and each
of them is refused. -/
theorem requestRestores_givesUpOn_iff (services : Services) (delivery : DeliveryBudget)
    (plan : RestorePlan) (jobId : String) (granule : Granule) (past : Trace) (message : Message) :
    (requestRestores services delivery plan jobId granule past).2.GivesUpOn message ↔
      ∃ replies, replies.length = delivery.attempts ∧ .accepted ∉ replies ∧
        Ledger.attempts delivery message 1 replies <:+:
          (requestRestores services delivery plan jobId granule past).2 := by
  refine ⟨?_, fun ⟨_, spent, unaccepted, within⟩ =>
    Ledger.givesUpOn_of_attempts spent unaccepted within⟩
  rintro ⟨attempt, reasons, told⟩
  obtain ⟨_, deeds, trace, kept, _⟩ :=
    exists_ledger_with_passes services delivery plan jobId granule past
  -- What comes last in the run tells nothing of deliveries.
  have closing : Trace.deliveries ((Ledger.closing plan (jobAt services plan jobId granule past)
      (requestRestores services delivery plan jobId granule past).1).map Event.log) = [] := by
    unfold Ledger.closing
    split <;> rfl
  rw [kept.closed, Trace.deliveries_append, closing, List.append_nil] at told
  obtain ⟨replies, listed, unaccepted⟩ :=
    kept.ledger.exists_publish_of_givesUpOn ⟨attempt, reasons, told⟩
  obtain ⟨tries, within⟩ := kept.ledger.published listed
  refine ⟨replies, tries.spent unaccepted, unaccepted, within.trans ?_⟩
  rw [kept.closed]
  exact (List.prefix_append ..).isInfix

/-- The log of every run is a ledger of it: each request and each send has its record at once, with
the number of requests for the entry or of attempts to send the message so far, and the only further
record tells how many entries were never accepted, when that is how the run ends. -/
theorem requestRestores_keepsLedger (services : Services) (delivery : DeliveryBudget)
    (plan : RestorePlan) (jobId : String) (granule : Granule) (past : Trace) :
    ∃ deeds trace, IsLedgerOf services delivery plan jobId granule past deeds trace ∧
      TellsCalls services delivery plan jobId granule past deeds := by
  obtain ⟨_, deeds, trace, kept, _⟩ :=
    exists_ledger_with_passes services delivery plan jobId granule past
  exact ⟨deeds, trace, kept, kept.tellsCalls⟩

end GranuleRecall
