import GranuleRecall.Proofs.Course.History
import GranuleRecall.Proofs.Course.Reports
import GranuleRecall.Proofs.PassStructure

/-! # The count of passes

A run makes no more passes than its budget has, and comes to an end from each of its moments. The
number of a pass has to be represented together with the one after it, so the run fails when the
pass with the greatest number that can be represented is over. With a budget of fewer passes that
cannot happen; with a budget of as many it does when the archive rejects all requests. A run that
ends with entries that were never accepted has made all the passes of its budget. -/

set_option autoImplicit false

namespace GranuleRecall

namespace Moment

variable {services : Services} {delivery : DeliveryBudget} {plan : RestorePlan} {job : Job}
  {arrived : List FileResult} {begun : Trace} {moment next : Moment}

/-- The pass under way and those that may follow it are all that the budget has. -/
structure CountsPasses (plan : RestorePlan) (moment : Moment) : Prop where
  positive : 1 ≤ moment.attempt
  total : moment.attempt + moment.passesLeft = plan.passes.totalAttempts

theorem Step.countsPasses (step : Step services delivery plan job moment next)
    (counts : moment.CountsPasses plan) : next.CountsPasses plan := by
  obtain ⟨positive, total⟩ := counts
  cases step with
  | kept _ _ _ => exact ⟨positive, total⟩
  | requested _ _ _ _ => exact ⟨positive, total⟩
  | turned _ _ => exact ⟨positive, total⟩
  | repeated _ _ _ left _ =>
      refine ⟨Nat.le_add_left 1 _, ?_⟩
      rw [← total, left]
      exact Nat.add_right_comm ..

theorem countsPasses_of_steps
    (steps : Relation.ReflTransGen (Step services delivery plan job) (first plan arrived begun)
      moment) : moment.CountsPasses plan := by
  induction steps with
  | refl => exact ⟨Nat.le_refl 1, Nat.add_sub_cancel' plan.passes.totalAttempts_pos⟩
  | tail _ step ih => exact step.countsPasses ih

/-! ## An archive that rejects everything -/

/-- Every reply so far is a rejection. -/
structure AllRejected (moment : Moment) : Prop where
  requests : ∀ request ∈ moment.requests, ∃ message, request.reply = .rejected message
  replied : ∀ file reply, moment.replied? = some (file, reply) →
    ∃ message, reply = .rejected message

theorem Step.allRejected (step : Step services delivery plan job moment next)
    (rejects : ∀ past call, ∃ message, services.restore past call = .rejected message)
    (rejected : moment.AllRejected) : next.AllRejected := by
  obtain ⟨requests, replied⟩ := rejected
  cases step with
  | kept _ _ _ => exact ⟨requests, replied⟩
  | @requested file others reply _ _ _ given =>
      obtain ⟨message, rejection⟩ := rejects moment.trace (plan.callFor file)
      refine ⟨fun request made => ?_, fun _ _ same => ?_⟩
      · rcases List.mem_append.mp made with earlier | now
        · exact requests request earlier
        · rw [List.mem_singleton.mp now]
          exact ⟨message, given.trans rejection⟩
      · cases same
        exact ⟨message, given.trans rejection⟩
  | turned _ _ => exact ⟨requests, nofun⟩
  | repeated _ _ _ _ _ => exact ⟨requests, replied⟩

theorem allRejected_of_steps
    (rejects : ∀ past call, ∃ message, services.restore past call = .rejected message)
    (steps : Relation.ReflTransGen (Step services delivery plan job) (first plan arrived begun)
      moment) : moment.AllRejected := by
  induction steps with
  | refl => exact ⟨nofun, nofun⟩
  | tail _ step ih => exact step.allRejected rejects ih

theorem AllRejected.accepted_not_mem (rejected : moment.AllRejected) (position : Nat) :
    .accepted ∉ repliesTo position moment.requests := by
  intro listed
  obtain ⟨request, made, accepted⟩ := List.mem_map.mp listed
  obtain ⟨message, rejection⟩ := rejected.requests request (List.mem_filter.mp made).1
  cases accepted.symm.trans rejection

end Moment

/-! ## The count in a run -/

theorem Restores.conclude_ne_overflow (services : Services) (delivery : DeliveryBudget)
    (plan : RestorePlan) (job : Job) (final : Granule) (begun : Trace) :
    (conclude services delivery plan job final begun).1 ≠ .error .passCountOverflow := by
  rw [conclude_eq services delivery plan job final begun rfl]
  intro overflowed
  cases failed : Notices.failure
      (Notices.ofServices services delivery job begun final.unaccepted) with
  | some failure =>
      obtain ⟨notice, _, undelivered⟩ := List.exists_of_findSome?_eq_some failed
      obtain ⟨attempts, reasons, rfl⟩ := Sending.failure_eq_undelivered undelivered
      rw [failed] at overflowed
      cases overflowed
  | none =>
      rw [failed] at overflowed
      simp only [verdict] at overflowed
      split at overflowed
      · cases overflowed
      · cases overflowed

theorem Restores.isComplete_of_conclude {services : Services} {delivery : DeliveryBudget}
    {plan : RestorePlan} {job : Job} {final given : Granule} {begun : Trace} {failedId : String}
    (ended : (conclude services delivery plan job final begun).1 =
      .error (.incomplete failedId given)) : final.isComplete = false := by
  rw [conclude_eq services delivery plan job final begun rfl] at ended
  cases failed : Notices.failure
      (Notices.ofServices services delivery job begun final.unaccepted) with
  | some failure =>
      have bare := Notices.failure_partialResult failed
      rw [failed] at ended
      cases ended
      cases bare
  | none =>
      rw [failed] at ended
      simp only [verdict] at ended
      split at ended
      next => cases ended
      next waits => exact Bool.eq_false_iff.mpr waits

section

variable {services : Services} {delivery : DeliveryBudget} {plan : RestorePlan} {jobId : String}
  {granule : Granule} {past : Trace} {moment : Moment}

theorem IsMomentOf.countsPasses
    (reached : IsMomentOf services delivery plan jobId granule past moment) :
    moment.CountsPasses plan := by
  obtain ⟨_, _, steps⟩ := reached
  exact Moment.countsPasses_of_steps steps

theorem PassBudget.totalAttempts_le (budget : PassBudget) :
    budget.totalAttempts ≤ passCountBound :=
  Nat.min_le_right ..

theorem IsMomentOf.attempt_le
    (reached : IsMomentOf services delivery plan jobId granule past moment) :
    moment.attempt ≤ plan.passes.totalAttempts := by
  rw [← reached.countsPasses.total]
  exact Nat.le_add_right ..

/-- The count of passes fails a run exactly when the pass with the greatest number is over. -/
theorem requestRestores_eq_overflow_iff :
    (requestRestores services delivery plan jobId granule past).1 = .error .passCountOverflow ↔
      ∃ moment, IsMomentOf services delivery plan jobId granule past moment ∧
        moment.replied? = none ∧ moment.waiting = [] ∧ moment.attempt = passCountBound := by
  constructor
  · intro overflowed
    cases requestRestores_runEnds services delivery plan jobId granule past with
    | unannounced _ ran =>
        rw [ran] at overflowed
        cases overflowed
    | @broken moment _ _ _ reached ends _ ran =>
        rw [ran] at overflowed
        cases ends with
        | undelivered _ _ _ => cases overflowed
        | unusable _ _ _ => cases overflowed
        | uncounted unreplied last full =>
            have bounded := reached.attempt_le.trans plan.passes.totalAttempts_le
            exact ⟨moment, reached, unreplied, last, Nat.le_antisymm bounded full⟩
    | concluded _ _ _ concluded ran =>
        rw [ran] at overflowed
        have ended := congrArg Prod.fst concluded
        exact (Restores.conclude_ne_overflow _ _ _ _ _ _ (ended.trans overflowed)).elim
  · rintro ⟨moment, reached, unreplied, last, full⟩
    obtain ⟨elapsed, _, ran⟩ := reached.resumes
    have ends : moment.Ends services delivery plan (jobAt services plan jobId granule past)
        (.error .passCountOverflow) [] := .uncounted unreplied last full.ge
    rw [ran, Moment.restOfRun, Procedure.bind_of_error ends.rest_eq]

theorem requestRestores_ne_overflow
    (counted : plan.passes.maxRetries.toNat ≤ passCountBound - 2) :
    (requestRestores services delivery plan jobId granule past).1 ≠
      .error .passCountOverflow := by
  intro overflowed
  obtain ⟨moment, reached, _, _, full⟩ := requestRestores_eq_overflow_iff.mp overflowed
  have bounded := reached.attempt_le
  have room := PassBudget.totalAttempts_counted counted
  omega

variable (services delivery plan jobId granule past) in
/-- The passes of a run come to their end: the last that the budget allows is begun, and the turn
of each entry in it is over. -/
def PassesEnd : Prop :=
  ∃ moment, IsMomentOf services delivery plan jobId granule past moment ∧
    moment.attempt = plan.passes.maxRetries.toNat + 1 ∧
    moment.replied? = none ∧ moment.waiting = []

/-- A run that ends with entries that were never accepted has made all its passes. -/
theorem passesEnd_of_incomplete {failedId : String} {final : Granule}
    (counted : plan.passes.maxRetries.toNat ≤ passCountBound - 2)
    (incomplete : (requestRestores services delivery plan jobId granule past).1 =
      .error (.incomplete failedId final)) :
    PassesEnd services delivery plan jobId granule past := by
  cases requestRestores_runEnds services delivery plan jobId granule past with
  | unannounced _ ran =>
      rw [ran] at incomplete
      cases incomplete
  | broken _ ends _ ran =>
      rw [ran] at incomplete
      cases ends <;> cases incomplete
  | @concluded moment _ _ _ _ _ reached ends _ concluded ran =>
      rw [ran, ← congrArg Prod.fst concluded] at incomplete
      have waits := Restores.isComplete_of_conclude incomplete
      have total := reached.countsPasses.total
      rw [PassBudget.totalAttempts_eq counted] at total
      cases ends with
      | finished unreplied last _ stops =>
          rcases stops with spent | settled
          · exact ⟨moment, reached, by omega, unreplied, last⟩
          · cases waits.symm.trans settled

/-- An archive that rejects everything leaves an entry that waits as one that waits. -/
theorem IsMomentOf.waits_of_rejects
    (reached : IsMomentOf services delivery plan jobId granule past moment)
    (rejects : ∀ past call, ∃ message, services.restore past call = .rejected message)
    {file : FileResult} (listed : file ∈ granule.results) (waits : file.accepted = false) :
    ∃ entry ∈ moment.entries, entry.accepted = false := by
  obtain ⟨_, _, steps⟩ := reached
  have rejected := Moment.allRejected_of_steps rejects steps
  have told := Moment.tellsHistory_of_steps steps
  obtain ⟨position, found⟩ := List.getElem?_of_mem listed
  have within : position < moment.entries.length := by
    rw [told.kept.length]
    exact (List.getElem?_eq_some_iff.mp found).1
  have there := List.getElem?_eq_getElem within
  refine ⟨moment.entries[position], List.getElem_mem within, ?_⟩
  rw [Bool.eq_false_iff]
  intro settled
  have accepted := ((told.kept.reflects found there).accepted waits).mp settled
  exact rejected.accepted_not_mem position accepted

/-- A run that makes all passes that can be counted fails when the archive rejects everything. -/
theorem requestRestores_overflows (services : Services) (delivery : DeliveryBudget)
    (plan : RestorePlan) (jobId : String) (granule : Granule) (past : Trace)
    (many : passCountBound - 1 ≤ plan.passes.maxRetries.toNat)
    (rejects : ∀ past call, ∃ message, services.restore past call = .rejected message)
    (announced : ∃ events, deliver services delivery
      (.ofJob (.started (jobAt services plan jobId granule past))) past = (.ok (), events))
    {file : FileResult} (listed : file ∈ granule.results) (waits : file.accepted = false) :
    (requestRestores services delivery plan jobId granule past).1 =
      .error .passCountOverflow := by
  have full : plan.passes.totalAttempts = passCountBound := by
    rw [PassBudget.totalAttempts]
    omega
  cases requestRestores_runEnds services delivery plan jobId granule past with
  | unannounced unannounced _ =>
      obtain ⟨events, delivered⟩ := announced
      cases delivered.symm.trans unannounced
  | @broken moment _ _ _ reached ends _ ran =>
      obtain ⟨_, _, steps⟩ := reached
      have rejected := Moment.allRejected_of_steps rejects steps
      cases ends with
      | undelivered replied failed _ =>
          obtain ⟨message, rfl⟩ := rejected.replied _ _ replied
          cases failed
      | unusable replied failed _ =>
          obtain ⟨message, rfl⟩ := rejected.replied _ _ replied
          cases failed
      | uncounted _ _ _ => rw [ran]
  | @concluded moment _ _ _ _ _ reached ends _ _ _ =>
      cases ends with
      | finished unreplied last counted stops =>
          exfalso
          have all : moment.visited.all (·.accepted) = true := by
            refine stops.resolve_left fun spent => ?_
            have total := reached.countsPasses.total
            omega
          obtain ⟨entry, shown, unsettled⟩ := reached.waits_of_rejects rejects listed waits
          rw [Moment.entries_eq_visited unreplied last] at shown
          have settled : entry.accepted = true := List.all_eq_true.mp all entry shown
          cases unsettled.symm.trans settled

end

/-! An archive that rejects every request, for a granule with one file. -/

theorem busyArchive_announces (plan : RestorePlan) (jobId : String) (granule : Granule)
    (past : Trace) :
    ∃ events, deliver busyArchive (.of 1 .zero)
      (.ofJob (.started (jobAt busyArchive plan jobId granule past))) past = (.ok (), events) :=
  ⟨_, deliver_eq ..⟩

/-- No run fails by the count of passes when the budget has fewer passes than can be counted, and
some run does when it has as many. Each run makes no more passes than its budget has, and comes to
an end from each of its moments. -/
theorem requestRestores_counts_passes (plan : RestorePlan) :
    (∀ services delivery jobId granule past moment,
      IsMomentOf services delivery plan jobId granule past moment →
        1 ≤ moment.attempt ∧
          moment.attempt ≤ min (plan.passes.maxRetries.toNat + 1) passCountBound ∧
          ∃ last outcome added,
            Relation.ReflTransGen
                (Moment.Step services delivery plan (jobAt services plan jobId granule past))
                moment last ∧
              last.Ends services delivery plan (jobAt services plan jobId granule past) outcome
                added) ∧
    (∀ services delivery jobId granule past,
      (requestRestores services delivery plan jobId granule past).1 =
          .error .passCountOverflow ↔
        ∃ moment, IsMomentOf services delivery plan jobId granule past moment ∧
          moment.replied? = none ∧ moment.waiting = [] ∧ moment.attempt = passCountBound) ∧
    ((∀ services delivery jobId granule past,
      (requestRestores services delivery plan jobId granule past).1 ≠
        .error .passCountOverflow) ↔
      plan.passes.maxRetries.toNat ≤ passCountBound - 2) := by
  refine ⟨fun services delivery jobId granule past moment reached => ?_,
    fun services delivery jobId granule past => requestRestores_eq_overflow_iff, ?_⟩
  · have counts := reached.countsPasses
    exact ⟨counts.positive, reached.attempt_le, Moment.exists_last ..⟩
  · constructor
    · intro never
      by_contra many
      have overflows := requestRestores_overflows busyArchive (.of 1 .zero) plan "job" twoFiles []
        (by omega) (fun _ _ => ⟨"busy", rfl⟩) (busyArchive_announces plan "job" twoFiles [])
        List.mem_cons_self rfl
      exact never _ _ _ _ _ overflows
    · intro counted services delivery jobId granule past
      exact requestRestores_ne_overflow counted

theorem busyArchive_overflows :
    (requestRestores busyArchive (.of 1 .zero)
      ⟨"archive", 5, .standard, ⟨4294967294, .zero⟩⟩ "job" twoFiles []).1 =
        .error .passCountOverflow :=
  requestRestores_overflows busyArchive (.of 1 .zero)
    ⟨"archive", 5, .standard, ⟨4294967294, .zero⟩⟩ "job" twoFiles [] (by decide)
    (fun _ _ => ⟨"busy", rfl⟩) (busyArchive_announces _ "job" twoFiles []) List.mem_cons_self rfl

end GranuleRecall
