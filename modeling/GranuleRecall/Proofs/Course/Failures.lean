import GranuleRecall.Proofs.Course.Publications

/-! # How a course ends

A course that is not ended by a failure has posted everything it published. The failures that end
one are those of a publication, of a request that cannot be put together, and of the count of
passes; only a run that came to its end keeps a result. -/

set_option autoImplicit false

namespace GranuleRecall

/-! ## Failures keep no result -/

theorem Sending.failure_partialResult {sending : Sending} {table : Table} {attempt : Nat}
    {failed : Failure} (found : sending.failure table attempt = some failed) :
    failed.partialResult = none := by
  obtain ⟨attempts, reasons, rfl⟩ := Sending.failure_eq_undelivered found
  rfl

theorem Turn.failure_partialResult {turn : Turn} {failed : Failure}
    (found : turn.failure = some failed) : failed.partialResult = none := by
  cases turn with
  | kept => cases found
  | accepted notice => exact Sending.failure_partialResult found
  | rejected message => cases found
  | unusable message =>
      cases found
      rfl

theorem Pass.failure_partialResult {turns : List Turn} {failed : Failure}
    (found : Pass.failure turns = some failed) : failed.partialResult = none := by
  obtain ⟨turn, _, turned⟩ := List.exists_of_findSome?_eq_some found
  exact Turn.failure_partialResult turned

theorem Passes.failure_partialResult {attempt : Nat} {passes : List (List Turn)}
    {failed : Failure} (found : Passes.failure attempt passes = some failed) :
    failed.partialResult = none := by
  rcases Option.or_eq_some_iff.mp found with inPass | ⟨_, uncounted⟩
  · obtain ⟨turns, _, passed⟩ := List.exists_of_findSome?_eq_some inPass
    exact Pass.failure_partialResult passed
  · split at uncounted
    · cases uncounted
      rfl
    · cases uncounted

theorem Procedure.failure_of_endedBy {α : Type} {failure? : Option Failure} {value : α}
    {failed : Failure} (ended : endedBy failure? value = .error failed) :
    failure? = some failed := by
  cases failure? with
  | none => cases ended
  | some failure =>
      cases ended
      rfl

theorem deliver_error_eq_undelivered {services : Services} {delivery : DeliveryBudget}
    {message : Message} {past added : Trace} {failed : Failure}
    (ran : deliver services delivery message past = (.error failed, added)) :
    ∃ attempts reasons, failed = .undelivered message.table.name attempts reasons := by
  rw [deliver_eq] at ran
  exact Sending.failure_eq_undelivered (Procedure.failure_of_endedBy (Prod.mk.inj ran).1)

theorem Restores.passesFrom_error_partialResult {services : Services}
    {delivery : DeliveryBudget} {plan : RestorePlan} {job : Job} {passesLeft attempt : Nat}
    {files : List FileResult} {past added : Trace} {failed : Failure}
    (counted : attempt ≤ passCountBound)
    (ran : passesFrom services delivery plan job passesLeft attempt files past =
      (.error failed, added)) : failed.partialResult = none := by
  rw [passesFrom_eq _ _ _ _ _ _ _ _ counted] at ran
  exact Passes.failure_partialResult (Procedure.failure_of_endedBy (Prod.mk.inj ran).1)

theorem Notices.failure_partialResult {notices : List Notice} {failed : Failure}
    (found : Notices.failure notices = some failed) : failed.partialResult = none := by
  obtain ⟨notice, _, reported⟩ := List.exists_of_findSome?_eq_some found
  exact Sending.failure_partialResult reported

namespace Course

variable {course : Course} {granule final : Granule} {failed : Failure}

theorem abort_partialResult (found : course.abort = some failed) :
    failed.partialResult = none := by
  rcases Option.or_eq_some_iff.mp found with unannounced | ⟨_, inPasses⟩
  · exact Sending.failure_partialResult unannounced
  · exact Passes.failure_partialResult inPasses

theorem failure_partialResult (found : course.failure = some failed) :
    failed.partialResult = none := by
  rcases Option.or_eq_some_iff.mp found with aborted | ⟨_, reported⟩
  · exact abort_partialResult aborted
  · exact Notices.failure_partialResult reported

/-- A run that gives a granule, as its result or with the files that failed, came to its end. -/
theorem ended_of_outcome
    (ended : course.outcome granule = .ok final ∨
      ∃ jobId, course.outcome granule = .error (.incomplete jobId final)) :
    course.failure = none ∧ final = course.final granule := by
  unfold outcome at ended
  cases failed : course.failure with
  | some failure =>
      have bare := failure_partialResult failed
      rw [failed] at ended
      rcases ended with ended | ⟨jobId, ended⟩
      · cases ended
      · cases ended
        cases bare
  | none =>
      rw [failed] at ended
      refine ⟨rfl, ?_⟩
      simp only [Restores.verdict] at ended
      split at ended
      · rcases ended with ended | ⟨jobId, ended⟩
        · cases ended
          rfl
        · cases ended
      · rcases ended with ended | ⟨jobId, ended⟩
        · cases ended
        · cases ended
          rfl

end Course

/-! ## Without a failure everything is posted -/

theorem Passes.accepted_posted {attempt : Nat} {passes : List (List Turn)}
    (fine : Passes.failure attempt passes = none) {turns : List Turn} (made : turns ∈ passes)
    {notice : Notice} (accepted : .accepted notice ∈ turns) :
    notice.sending.isPosted = true := by
  have passed : Pass.failure turns = none :=
    List.findSome?_eq_none_iff.mp (Option.or_eq_none_iff.mp fine).1 turns made
  have turned : Turn.failure (.accepted notice) = none :=
    List.findSome?_eq_none_iff.mp passed _ accepted
  exact Sending.failure_eq_none_iff.mp turned

namespace Course

variable {course : Course} {granule : Granule}

theorem mem_acceptances {acceptance : Acceptance}
    (member : acceptance ∈ course.acceptances granule) :
    ∃ turns ∈ course.passes, .accepted acceptance.notice ∈ turns ∧
      granule.results[acceptance.position]?.map FileResult.requested =
        some acceptance.file := by
  obtain ⟨turns, made, collected⟩ := List.mem_flatMap.mp member
  obtain ⟨index, file, turn, asked, turned, shown⟩ := Pass.mem_collect_iff.mp collected
  obtain ⟨rfl, place, rfl⟩ := Turn.mem_acceptance_iff.mp shown
  rw [Nat.zero_add] at place
  subst place
  refine ⟨turns, made, List.mem_of_getElem? turned, ?_⟩
  rw [← asked, List.getElem?_map]

theorem publications_posted (fine : course.failure = none) :
    ∀ publication ∈ course.publications granule, publication.sending.isPosted = true := by
  obtain ⟨begun, reported⟩ := Option.or_eq_none_iff.mp fine
  obtain ⟨announced, passed⟩ := Option.or_eq_none_iff.mp begun
  intro publication member
  rcases List.mem_cons.mp member with rfl | later
  · exact Sending.failure_eq_none_iff.mp announced
  · rcases List.mem_append.mp later with accepted | failed
    · obtain ⟨acceptance, made, rfl⟩ := List.mem_map.mp accepted
      obtain ⟨turns, passMade, turned, _⟩ := mem_acceptances made
      exact Passes.accepted_posted passed passMade turned
    · obtain ⟨entry, _, notice, made, rfl⟩ := Notices.mem_publications failed
      exact Sending.failure_eq_none_iff.mp
        (List.findSome?_eq_none_iff.mp reported notice made)

end Course

/-! ## When nothing aborts

A run is not aborted when the queue accepts the job and all acceptances within their budgets, the
archive answers every request, and the passes can be counted. -/

/-- A trace shows that a message was refused at the last attempt to send it. In a run that is the
attempt with which the budget is spent (`requestRestores_givesUpOn_iff`). -/
def Trace.GivesUpOn (trace : Trace) (message : Message) : Prop :=
  ∃ attempt reasons,
    [.send message (.refused reasons),
      .log (Delivery.givenUpRecord message attempt reasons)] <:+: trace.deliveries

theorem Sending.givesUpOn_events (budget : DeliveryBudget) (message : Message) (attempt : Nat)
    {sending : Sending} (unposted : sending.isPosted = false) :
    (sending.events budget message attempt).GivesUpOn message := by
  induction sending generalizing attempt with
  | posted => cases unposted
  | givenUp reasons => exact ⟨attempt, reasons, List.infix_rfl⟩
  | retried reasons following ih =>
      obtain ⟨last, lastReasons, within⟩ := ih (attempt + 1) unposted
      refine ⟨last, lastReasons, within.trans (List.IsSuffix.isInfix ?_)⟩
      exact List.suffix_append [Event.send message (.refused reasons),
        Event.log (Delivery.retryRecord budget message attempt reasons)] _

theorem Course.givesUpOn_events (delivery : DeliveryBudget) (plan : RestorePlan)
    {course : Course} {granule : Granule} {publication : Publication}
    (made : publication ∈ course.publications granule)
    (unposted : publication.sending.isPosted = false) :
    (course.events delivery plan granule).GivesUpOn publication.message := by
  obtain ⟨last, reasons, within⟩ :=
    Sending.givesUpOn_events delivery publication.message 1 unposted
  refine ⟨last, reasons, within.trans ?_⟩
  rw [course.deliveries_events]
  exact List.infix_of_mem_flatten (List.mem_map.mpr ⟨publication, made, rfl⟩)

theorem Course.announcement_posted {delivery : DeliveryBudget} {plan : RestorePlan}
    {course : Course} {granule : Granule}
    (announced : ¬ (course.events delivery plan granule).GivesUpOn
      (.ofJob (.started course.job))) :
    course.announcement.isPosted = true := by
  rw [← Bool.not_eq_false]
  intro unposted
  have listed : course.announcementPublication ∈ course.publications granule :=
    List.mem_cons_self
  exact announced (course.givesUpOn_events delivery plan listed unposted)

theorem Course.acceptance_posted {delivery : DeliveryBudget} {plan : RestorePlan}
    {course : Course} {granule : Granule}
    (reported : ∀ file time, ¬ (course.events delivery plan granule).GivesUpOn
      (Restores.acceptedMessage course.job file time)) :
    ∀ acceptance ∈ course.acceptances granule, acceptance.notice.sending.isPosted = true := by
  intro acceptance made
  rw [← Bool.not_eq_false]
  intro unposted
  have listed : acceptance.publication course.job ∈ course.publications granule :=
    List.mem_cons_of_mem _ (List.mem_append_left _ (List.mem_map.mpr ⟨acceptance, made, rfl⟩))
  exact reported _ _ (course.givesUpOn_events delivery plan listed unposted)

theorem Trace.GivesUpOn.logged {trace : Trace} {message : Message}
    (givesUp : trace.GivesUpOn message) : ∃ record ∈ trace.logs, record.level = .error := by
  obtain ⟨attempt, reasons, within⟩ := givesUp
  have told := within.subset (List.mem_cons_of_mem _ List.mem_cons_self)
  exact ⟨_, List.mem_filterMap.mpr ⟨_, (List.mem_filter.mp told).1, rfl⟩, rfl⟩

theorem Trace.GivesUpOn.refused {trace : Trace} {message : Message}
    (givesUp : trace.GivesUpOn message) :
    ∃ reasons, Event.send message (.refused reasons) ∈ trace := by
  obtain ⟨_, reasons, within⟩ := givesUp
  exact ⟨reasons, (List.mem_filter.mp (within.subset List.mem_cons_self)).1⟩

/-- Whether the report of a turn, if there is one, is posted. -/
def Turn.isPosted : Turn → Bool
  | accepted notice => notice.sending.isPosted
  | _ => true

def Pass.Posted (turns : List Turn) : Prop :=
  ∀ turn ∈ turns, turn.isPosted = true

theorem Pass.failure_eq_none {turns : List Turn} (posted : Pass.Posted turns)
    (usable : ∀ message, .unusable message ∉ turns) : Pass.failure turns = none := by
  apply List.findSome?_eq_none_iff.mpr
  intro turn made
  cases turn with
  | kept => rfl
  | accepted notice => exact Sending.failure_eq_none_iff.mpr (posted _ made)
  | rejected message => rfl
  | unusable message => exact absurd made (usable message)

theorem PassesRun.length_le {passesLeft attempt : Nat} {files : List FileResult}
    {passes : List (List Turn)} (run : PassesRun passesLeft attempt files passes) :
    passes.length ≤ passesLeft := by
  induction run with
  | spent => exact Nat.le_refl 0
  | failed _ _ => exact Nat.succ_le_succ (Nat.zero_le _)
  | last _ _ _ => exact Nat.succ_le_succ (Nat.zero_le _)
  | repeated _ _ _ _ _ _ ih => exact Nat.succ_le_succ ih

theorem PassesRun.failure_eq {passesLeft attempt : Nat} {files : List FileResult}
    {passes : List (List Turn)} (run : PassesRun passesLeft attempt files passes)
    (counted : attempt + passesLeft ≤ passCountBound) :
    Passes.failure attempt passes = passes.findSome? Pass.failure := by
  have bounded := run.length_le
  have room : ¬ passCountBound < attempt + passes.length := by omega
  rw [Passes.failure, if_neg room, Option.or_none]

theorem PassBudget.totalAttempts_eq {budget : PassBudget}
    (counted : budget.maxRetries.toNat ≤ passCountBound - 2) :
    budget.totalAttempts = budget.maxRetries.toNat + 1 := by
  simp only [totalAttempts, passCountBound, UInt32.size] at counted ⊢
  omega

theorem PassBudget.totalAttempts_counted {budget : PassBudget}
    (counted : budget.maxRetries.toNat ≤ passCountBound - 2) :
    1 + budget.totalAttempts ≤ passCountBound := by
  rw [totalAttempts_eq counted]
  simp only [passCountBound, UInt32.size] at counted ⊢
  omega

/-! Every turn of a run belongs to an entry, so every acceptance in a turn is one of the course. -/

theorem PassRuns.length_le {files : List FileResult} {turns : List Turn}
    (run : PassRuns files turns) : turns.length ≤ files.length := by
  induction run with
  | done => exact Nat.le_refl 0
  | kept _ _ ih => exact Nat.succ_le_succ ih
  | accepted _ _ _ ih => exact Nat.succ_le_succ ih
  | rejected _ _ ih => exact Nat.succ_le_succ ih
  | undelivered _ _ => exact Nat.succ_le_succ (Nat.zero_le _)
  | unusable _ => exact Nat.succ_le_succ (Nat.zero_le _)

theorem PassesRun.length_turns_le {passesLeft attempt : Nat} {files : List FileResult}
    {passes : List (List Turn)} (run : PassesRun passesLeft attempt files passes) :
    ∀ turns ∈ passes, turns.length ≤ files.length := by
  induction run with
  | spent => simp
  | failed ran _ =>
      intro turns made
      cases List.mem_singleton.mp made
      exact ran.length_le
  | last ran _ _ =>
      intro turns made
      cases List.mem_singleton.mp made
      exact ran.length_le
  | repeated ran _ _ _ _ _ ih =>
      intro turns made
      rcases List.mem_cons.mp made with rfl | later
      · exact ran.length_le
      · rw [← Pass.length_after]
        exact ih turns later

/-- What is shown of a turn of a run is shown of the run. -/
theorem PassesRun.exists_shown {α : Type} (shown : Nat → RequestedFile → Turn → List α)
    {passesLeft attempt : Nat} {files : List FileResult} {passes : List (List Turn)}
    (run : PassesRun passesLeft attempt files passes) {turns : List Turn} (made : turns ∈ passes)
    {turn : Turn} (turned : turn ∈ turns) :
    ∃ position file, ∀ value ∈ shown position file turn,
      value ∈ Passes.collect shown (files.map FileResult.requested) passes := by
  obtain ⟨index, within, placed⟩ := List.getElem_of_mem turned
  have listed : index < files.length :=
    Nat.lt_of_lt_of_le within (run.length_turns_le turns made)
  refine ⟨index, files[index].requested, fun value seen => ?_⟩
  refine List.mem_flatMap.mpr ⟨turns, made, Pass.mem_collect_iff.mpr ?_⟩
  refine ⟨index, files[index].requested, turn, ?_, ?_, ?_⟩
  · rw [List.getElem?_map, List.getElem?_eq_getElem listed]
    rfl
  · rw [List.getElem?_eq_getElem within, placed]
  · rwa [Nat.zero_add]

theorem PassesRun.exists_acceptance {passesLeft attempt : Nat} {files : List FileResult}
    {passes : List (List Turn)} (run : PassesRun passesLeft attempt files passes)
    {turns : List Turn} (made : turns ∈ passes) {notice : Notice}
    (accepted : .accepted notice ∈ turns) :
    ∃ acceptance ∈ Passes.collect Turn.acceptance (files.map FileResult.requested) passes,
      acceptance.notice = notice := by
  obtain ⟨position, file, seen⟩ := run.exists_shown Turn.acceptance made accepted
  exact ⟨_, seen _ List.mem_cons_self, rfl⟩

theorem PassesRun.posted {passesLeft attempt : Nat} {files : List FileResult}
    {passes : List (List Turn)} (run : PassesRun passesLeft attempt files passes)
    (accepted :
      ∀ acceptance ∈ Passes.collect Turn.acceptance (files.map FileResult.requested) passes,
        acceptance.notice.sending.isPosted = true) :
    ∀ turns ∈ passes, Pass.Posted turns := by
  intro turns made turn turned
  cases turn with
  | accepted notice =>
      obtain ⟨acceptance, listed, rfl⟩ := run.exists_acceptance made turned
      exact accepted acceptance listed
  | _ => rfl

namespace CourseRuns

variable {plan : RestorePlan} {granule : Granule} {course : Course}

theorem passesRun (run : CourseRuns plan granule course) :
    course.passes = [] ∨
      PassesRun plan.passes.totalAttempts 1 granule.results course.passes := by
  cases run with
  | unannounced _ => exact .inl rfl
  | aborted _ ran _ => exact .inr ran
  | reported _ ran _ _ => exact .inr ran

theorem posted (run : CourseRuns plan granule course)
    (accepted : ∀ acceptance ∈ course.acceptances granule,
      acceptance.notice.sending.isPosted = true) :
    ∀ turns ∈ course.passes, Pass.Posted turns := by
  rcases run.passesRun with none | ran
  · simp [none]
  · exact ran.posted accepted

/-- A run is not aborted when the job and all acceptances are posted, no request is unusable, and
the passes can be counted. -/
theorem abort_eq_none (run : CourseRuns plan granule course)
    (counted : plan.passes.maxRetries.toNat ≤ passCountBound - 2)
    (announced : course.announcement.isPosted = true)
    (accepted : ∀ acceptance ∈ course.acceptances granule,
      acceptance.notice.sending.isPosted = true)
    (usable : ∀ turns ∈ course.passes, ∀ message, .unusable message ∉ turns) :
    course.abort = none := by
  have fine : ∀ turns ∈ course.passes, Pass.failure turns = none := fun turns made =>
    Pass.failure_eq_none (run.posted accepted turns made) (usable turns made)
  have room := PassBudget.totalAttempts_counted counted
  cases run with
  | unannounced unposted => cases announced.symm.trans unposted
  | aborted _ ran failed =>
      rw [ran.failure_eq room, List.findSome?_eq_none_iff.mpr fine] at failed
      cases failed
  | reported posted _ passed _ =>
      exact Option.or_eq_none_iff.mpr ⟨Sending.failure_eq_none_iff.mpr posted, passed⟩

theorem exists_publication (run : CourseRuns plan granule course) {notice : Notice}
    (made : notice ∈ course.notices) :
    ∃ publication ∈ course.publications granule, publication.sending = notice.sending := by
  cases run with
  | unannounced _ => cases made
  | aborted _ _ _ => cases made
  | @reported job _ _ _ _ _ _ sameLength =>
      rw [← Granule.map_fst_waiting, List.length_map] at sameLength
      obtain ⟨entry, listed⟩ := Notices.exists_publication job sameLength made
      exact ⟨_, List.mem_cons_of_mem _ (List.mem_append_right _ listed), rfl⟩

theorem passes_eq_nil (run : CourseRuns plan granule course)
    (unannounced : ¬ course.announcement.isPosted = true) : course.passes = [] := by
  cases run with
  | unannounced _ => rfl
  | aborted posted _ _ => exact absurd posted unannounced
  | reported posted _ _ _ => exact absurd posted unannounced

end CourseRuns

/-- Every message of a course is posted. -/
structure Course.Posted (course : Course) : Prop where
  announcement : course.announcement.isPosted = true
  passes : ∀ turns ∈ course.passes, Pass.Posted turns
  notices : ∀ notice ∈ course.notices, notice.sending.isPosted = true

theorem Course.Posted.notices_failure {course : Course} (posted : course.Posted) :
    Notices.failure course.notices = none :=
  List.findSome?_eq_none_iff.mpr fun notice made =>
    Sending.failure_eq_none_iff.mpr (posted.notices notice made)

theorem CourseRuns.posted_of_publications {plan : RestorePlan} {granule : Granule}
    {course : Course} (run : CourseRuns plan granule course)
    (posted : ∀ publication ∈ course.publications granule,
      publication.sending.isPosted = true) :
    course.Posted where
  announcement := posted course.announcementPublication List.mem_cons_self
  passes := by
    refine run.posted fun acceptance made => posted (acceptance.publication course.job) ?_
    exact List.mem_cons_of_mem _ (List.mem_append_left _ (List.mem_map_of_mem made))
  notices := by
    intro notice made
    obtain ⟨publication, listed, same⟩ := run.exists_publication made
    exact same ▸ posted publication listed

theorem CourseRuns.allPosted {delivery : DeliveryBudget} {plan : RestorePlan}
    {granule : Granule} {course : Course} (run : CourseRuns plan granule course)
    (delivered : ∀ message, ¬ (course.events delivery plan granule).GivesUpOn message) :
    course.Posted := by
  refine run.posted_of_publications fun publication listed => ?_
  rw [← Bool.not_eq_false]
  exact fun unposted => delivered _ (Course.givesUpOn_events delivery plan listed unposted)

end GranuleRecall
