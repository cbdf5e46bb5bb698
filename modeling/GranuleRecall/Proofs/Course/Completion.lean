import Mathlib.Data.List.Perm.Subperm
import GranuleRecall.Proofs.QueueAgreement

/-! # When a course comes to its end

A course comes to its end when the queue takes the job and a message for each entry, or when all
entries are accepted and the queue takes the job and these acceptances. That an entry was accepted
is to be seen in the calls: those that were accepted are the calls for the entries that are accepted
in the end, if none was accepted before. -/

set_option autoImplicit false

namespace GranuleRecall

/-! ## Accepted calls -/

/-- The positions of the entries that were accepted. -/
def acceptedPositions (files : List FileResult) : List Nat :=
  (files.zipIdx.filter (·.1.accepted)).map Prod.snd

theorem positions_perm (files : List FileResult) :
    (acceptedPositions files ++ waitingPositions 0 files).Perm (List.range' 0 files.length) := by
  have parted := (List.filter_append_perm (·.1.accepted) files.zipIdx).map Prod.snd
  rwa [List.map_append, List.zipIdx_map_snd] at parted

theorem waitingPositions_fresh {files : List FileResult}
    (fresh : ∀ file ∈ files, file.accepted = false) :
    waitingPositions 0 files = List.range' 0 files.length := by
  have all : files.zipIdx.filter (!·.1.accepted) = files.zipIdx := by
    refine List.filter_eq_self.mpr fun entry listed => ?_
    rw [fresh entry.1 (List.fst_mem_of_mem_zipIdx listed)]
    rfl
  rw [waitingPositions, all, List.zipIdx_map_snd]

namespace CourseRuns

variable {plan : RestorePlan} {granule : Granule} {course : Course}

/-- When no entry was accepted before, those that are accepted in a run are those that are accepted
after it. -/
theorem positions_perm (run : CourseRuns plan granule course)
    (fresh : ∀ file ∈ granule.results, file.accepted = false) :
    (Acceptance.positions (course.acceptances granule)).Perm
      (acceptedPositions (course.final granule).results) := by
  have balance := run.waiting_perm
  have parted := GranuleRecall.positions_perm (course.final granule).results
  rw [waitingPositions_fresh fresh] at balance
  rw [course.length_final] at parted
  exact (List.perm_append_right_iff _).mp (balance.symm.trans parted.symm)

theorem calls_final (course : Course) (granule : Granule) (plan : RestorePlan) :
    (course.final granule).results.map plan.callFor = granule.results.map plan.callFor := by
  have same := congrArg (List.map fun file => plan.callFor (.pending file))
    (course.requested_final granule)
  rwa [List.map_map, List.map_map] at same

/-- The calls that are accepted in a run are those for the entries that are accepted after it. -/
theorem acceptedCalls_perm (run : CourseRuns plan granule course) (delivery : DeliveryBudget)
    (fresh : ∀ file ∈ granule.results, file.accepted = false) :
    (course.events delivery plan granule).acceptedCalls.Perm
      (((course.final granule).results.filter (·.accepted)).map plan.callFor) := by
  have asked : (Acceptance.positions (course.acceptances granule)).map
        ((granule.results.map plan.callFor)[·]?) =
      ((course.acceptances granule).map (Acceptance.call plan)).map some := by
    rw [Acceptance.positions, List.map_map, List.map_map]
    refine List.map_congr_left fun acceptance made => ?_
    obtain ⟨_, _, _, requested⟩ := Course.mem_acceptances made
    have called := congrArg (Option.map fun file => plan.callFor (.pending file)) requested
    rw [Option.map_map, ← List.getElem?_map] at called
    exact called
  have kept : (acceptedPositions (course.final granule).results).map
        ((granule.results.map plan.callFor)[·]?) =
      (((course.final granule).results.filter (·.accepted)).map plan.callFor).map some := by
    rw [← calls_final course granule plan, ← map_fst_filter_zipIdx, acceptedPositions, List.map_map,
      List.map_map, List.map_map]
    refine List.map_congr_left fun entry listed => ?_
    have read := List.mem_zipIdx_iff_getElem?.mp (List.mem_filter.mp listed).1
    have called := congrArg (Option.map plan.callFor) read
    rw [← List.getElem?_map] at called
    exact called
  have same := (run.positions_perm fresh).map ((granule.results.map plan.callFor)[·]?)
  rw [asked, kept] at same
  have calls := same.filterMap id
  rw [List.filterMap_map, List.filterMap_map] at calls
  rw [Course.acceptedCalls_events]
  simpa using calls

/-- A course is complete when all calls for its entries are among those that were accepted. -/
theorem complete_iff (run : CourseRuns plan granule course) (delivery : DeliveryBudget)
    (fresh : ∀ file ∈ granule.results, file.accepted = false) :
    (course.final granule).isComplete = true ↔
      (granule.results.map plan.callFor).Subperm
        (course.events delivery plan granule).acceptedCalls := by
  have accepted := run.acceptedCalls_perm delivery fresh
  constructor
  · intro complete
    rw [List.filter_eq_self.mpr (List.all_eq_true.mp complete), calls_final] at accepted
    exact accepted.symm.subperm
  · intro within
    have counted := Nat.le_trans within.length_le (Nat.le_of_eq accepted.length_eq)
    rw [List.length_map, List.length_map, ← course.length_final] at counted
    have all := List.filter_sublist.eq_of_length_le counted
    exact List.all_eq_true.mpr (List.filter_eq_self.mp all)

end CourseRuns

/-! ## Requests that can be put together -/

theorem PassRuns.usable_of_complete {files : List FileResult} {turns : List Turn}
    (run : PassRuns files turns) (complete : (Pass.after files turns).all (·.accepted) = true)
    (message : String) : .unusable message ∉ turns := by
  induction run with
  | done => exact List.not_mem_nil
  | kept _ _ ih =>
      obtain ⟨_, others⟩ := Bool.and_eq_true_iff.mp complete
      exact List.not_mem_cons_of_ne_of_not_mem nofun (ih others)
  | accepted _ _ _ ih =>
      obtain ⟨_, others⟩ := Bool.and_eq_true_iff.mp complete
      exact List.not_mem_cons_of_ne_of_not_mem nofun (ih others)
  | rejected _ _ ih =>
      obtain ⟨_, others⟩ := Bool.and_eq_true_iff.mp complete
      exact List.not_mem_cons_of_ne_of_not_mem nofun (ih others)
  | undelivered _ _ => simp
  | unusable waiting =>
      obtain ⟨settled, _⟩ := Bool.and_eq_true_iff.mp complete
      cases settled.symm.trans waiting

theorem Pass.usable_of_fine {turns : List Turn} (fine : Pass.failure turns = none)
    (message : String) : .unusable message ∉ turns := by
  intro made
  cases List.findSome?_eq_none_iff.mp fine _ made

theorem PassesRun.usable_of_complete {passesLeft attempt : Nat} {files : List FileResult}
    {passes : List (List Turn)} (run : PassesRun passesLeft attempt files passes)
    (complete : (Passes.after files passes).all (·.accepted) = true) :
    ∀ turns ∈ passes, ∀ message, .unusable message ∉ turns := by
  induction run with
  | spent => exact List.forall_mem_nil _
  | failed ran _ => exact List.forall_mem_singleton.mpr (ran.usable_of_complete complete)
  | last ran _ _ => exact List.forall_mem_singleton.mpr (ran.usable_of_complete complete)
  | repeated _ fine _ _ _ _ ih =>
      exact List.forall_mem_cons.mpr ⟨Pass.usable_of_fine fine, ih complete⟩

namespace CourseRuns

variable {plan : RestorePlan} {granule : Granule} {course : Course}

theorem usable_of_complete (run : CourseRuns plan granule course)
    (complete : (course.final granule).isComplete = true) :
    ∀ turns ∈ course.passes, ∀ message, .unusable message ∉ turns := by
  rcases run.passesRun with none | ran
  · simp [none]
  · exact ran.usable_of_complete complete

/-! ## Ending without a failure -/

theorem notices_eq_nil (run : CourseRuns plan granule course)
    (complete : (course.final granule).isComplete = true) : course.notices = [] := by
  cases run with
  | unannounced _ => rfl
  | aborted _ _ _ => rfl
  | reported _ _ _ sameLength =>
      have none := congrArg List.length ((Granule.isComplete_iff_unaccepted_eq_nil _).mp complete)
      exact List.length_eq_zero_iff.mp (sameLength.trans none)

theorem failure_eq_none (run : CourseRuns plan granule course)
    (counted : plan.passes.maxRetries.toNat ≤ passCountBound - 2) (posted : course.Posted)
    (usable : ∀ turns ∈ course.passes, ∀ message, .unusable message ∉ turns) :
    course.failure = none := by
  have accepted : ∀ acceptance ∈ course.acceptances granule,
      acceptance.notice.sending.isPosted = true := by
    intro acceptance made
    obtain ⟨turns, passMade, turned, _⟩ := Course.mem_acceptances made
    exact posted.passes turns passMade _ turned
  have unaborted := run.abort_eq_none counted posted.announcement accepted usable
  exact Option.or_eq_none_iff.mpr ⟨unaborted, posted.notices_failure⟩

end CourseRuns

namespace Course

variable (delivery : DeliveryBudget) (plan : RestorePlan) {course : Course} (granule : Granule)

theorem mem_acceptedMessages_of_announced (announced : course.announcement.isPosted = true) :
    .ofJob (.started course.job) ∈ (course.events delivery plan granule).acceptedMessages := by
  rw [acceptedMessages_eq]
  have listed : course.announcementPublication ∈ course.publications granule :=
    List.mem_cons_self
  exact List.mem_map_of_mem (List.mem_filter.mpr ⟨listed, announced⟩)

theorem announced_of_fine (fine : course.failure = none) :
    course.announcement.isPosted = true := by
  obtain ⟨begun, _⟩ := Option.or_eq_none_iff.mp fine
  exact Sending.failure_eq_none_iff.mp (Option.or_eq_none_iff.mp begun).1

theorem length_publications (course : Course) :
    (course.publications granule).length = (course.acceptances granule).length +
      min (course.final granule).unaccepted.length course.notices.length + 1 := by
  rw [publications, List.length_cons, List.length_append, List.length_map, Notices.publications,
    List.length_zipWith, ← Granule.map_fst_waiting, List.length_map]

theorem length_acceptedMessages_le (course : Course) :
    (course.events delivery plan granule).acceptedMessages.length ≤
      (course.publications granule).length := by
  rw [acceptedMessages_eq, List.length_map]
  exact List.length_filter_le ..

variable {granule} in
theorem publications_posted_of_length_le
    (all : (course.publications granule).length ≤
      (course.events delivery plan granule).acceptedMessages.length) :
    ∀ publication ∈ course.publications granule, publication.sending.isPosted = true := by
  rw [acceptedMessages_eq, List.length_map] at all
  exact List.filter_eq_self.mp (List.filter_sublist.eq_of_length_le all)

end Course

namespace CourseRuns

variable {plan : RestorePlan} {granule : Granule} {course : Course}
  (run : CourseRuns plan granule course) (delivery : DeliveryBudget)
  (fresh : ∀ file ∈ granule.results, file.accepted = false)

include run fresh

theorem length_acceptances_add_unaccepted :
    (course.acceptances granule).length + (course.final granule).unaccepted.length =
      granule.results.length := by
  have accepted := (run.acceptedCalls_perm ⟨1, .zero⟩ fresh).length_eq
  rw [Course.acceptedCalls_events, List.length_map, List.length_map] at accepted
  rw [accepted, ← course.length_final granule, ← List.countP_eq_length_filter,
    Granule.unaccepted, ← List.countP_eq_length_filter]
  simpa using (List.length_eq_countP_add_countP FileResult.accepted).symm

/-- A course ends with all entries accepted exactly when all calls for them were accepted and the
queue took the job and a message for each accepted call. -/
theorem ends_complete_iff (counted : plan.passes.maxRetries.toNat ≤ passCountBound - 2) :
    course.failure = none ∧ (course.final granule).isComplete = true ↔
      (granule.results.map plan.callFor).Subperm
          (course.events delivery plan granule).acceptedCalls ∧
        (course.events delivery plan granule).acceptedCalls.length <
          (course.events delivery plan granule).acceptedMessages.length := by
  have called := congrArg List.length (Course.acceptedCalls_events delivery plan course granule)
  rw [List.length_map] at called
  rw [run.complete_iff delivery fresh, called]
  constructor
  · rintro ⟨fine, accepted⟩
    refine ⟨accepted, ?_⟩
    rw [Course.acceptedMessages_events delivery plan course granule
      (Course.publications_posted fine), List.length_map, Course.length_publications]
    omega
  · rintro ⟨accepted, taken⟩
    have complete := (run.complete_iff delivery fresh).mpr accepted
    have posted : course.Posted := by
      refine run.posted_of_publications
        (Course.publications_posted_of_length_le delivery plan ?_)
      rw [Course.length_publications, run.notices_eq_nil complete, List.length_nil, Nat.min_zero]
      exact taken
    exact ⟨run.failure_eq_none counted posted (run.usable_of_complete complete), accepted⟩

/-- A course ends with some entries never accepted exactly when some call for them was not
accepted and the queue took the job and a message for each entry. -/
theorem ends_waiting_iff :
    course.failure = none ∧ (course.final granule).isComplete = false ↔
      ¬ (granule.results.map plan.callFor).Subperm
          (course.events delivery plan granule).acceptedCalls ∧
        granule.results.length < (course.events delivery plan granule).acceptedMessages.length := by
  rw [← run.complete_iff delivery fresh, Bool.not_eq_true]
  have parts := run.length_acceptances_add_unaccepted fresh
  have published := course.length_publications granule
  constructor
  · rintro ⟨fine, waits⟩
    refine ⟨waits, ?_⟩
    rw [Course.acceptedMessages_events delivery plan course granule
      (Course.publications_posted fine), List.length_map, published, run.length_notices fine]
    omega
  · rintro ⟨waits, taken⟩
    have bounded := Course.length_acceptedMessages_le delivery plan granule course
    have posted := run.posted_of_publications
      (Course.publications_posted_of_length_le delivery plan (by omega))
    have unaccepted : (course.final granule).unaccepted.length ≠ 0 := by
      rw [Ne, List.length_eq_zero_iff, ← Granule.isComplete_iff_unaccepted_eq_nil, waits]
      exact Bool.false_ne_true
    -- Some entry is reported, so nothing aborted the passes.
    have reported : course.notices.length ≠ 0 := by omega
    refine ⟨?_, waits⟩
    cases run with
    | unannounced _ => exact absurd rfl reported
    | aborted _ _ _ => exact absurd rfl reported
    | reported announced _ passed _ =>
        refine Option.or_eq_none_iff.mpr ⟨Option.or_eq_none_iff.mpr ⟨?_, passed⟩,
          posted.notices_failure⟩
        exact Sending.failure_eq_none_iff.mpr announced

end CourseRuns

theorem Course.outcome_ok_iff (course : Course) (granule : Granule) :
    (∃ final, course.outcome granule = .ok final) ↔
      course.failure = none ∧ (course.final granule).isComplete = true := by
  unfold outcome Restores.verdict
  cases course.failure with
  | some failure => simp
  | none =>
      cases (course.final granule).isComplete with
      | true => simp
      | false => simp

end GranuleRecall
