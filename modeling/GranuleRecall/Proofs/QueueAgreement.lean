import Mathlib.Data.List.Nodup
import GranuleRecall.Proofs.Course.Failures
import GranuleRecall.Proofs.Course.Waiting

/-! # Result and queue agree

A run publishes the job and each entry at most once, however it ends. When it comes to its end,
the messages that the queue accepted are told by the result: which entries were accepted in the
run, and which were not. -/

set_option autoImplicit false

namespace GranuleRecall

/-! ## What is published in any run -/

/-- A publication without a position announces the job; any other reports on the entry at its
position, either that a restore of it was accepted or that it failed. -/
def Publication.IsAbout (job : Job) (arrived : Granule) (publication : Publication) : Prop :=
  match publication.position? with
  | none => publication.message = .ofJob (.started job)
  | some position =>
    ∃ (file : FileResult) (time : Time.Instant),
      arrived.results[position]?.map FileResult.requested = some file.requested ∧
        (publication.message = Restores.acceptedMessage job file time ∨
          publication.message = Restores.failedMessage job file time)

/-- What a trace shows of deliveries is that some messages were published one after another, each
from its first attempt on, and no two about the same entry. -/
structure PublishedOnce (delivery : DeliveryBudget) (job : Job) (arrived : Granule)
    (trace : Trace) (publications : List Publication) : Prop where
  deliveries :
    trace.deliveries =
      publications.flatMap fun publication => (publication.events delivery).deliveries
  once : (publications.map Publication.position?).Nodup
  subjects : ∀ publication ∈ publications, publication.IsAbout job arrived

/-- The result of a run that came to its end, against the trace of the run. -/
structure AgreesWithQueue (plan : RestorePlan) (job : Job) (arrived final : Granule)
    (trace : Trace) (acceptances : List Acceptance) (failureTimes : List Time.Instant) :
    Prop where
  sameGranule : { final with results := arrived.results } = arrived
  sameFiles :
    final.results.map FileResult.requested = arrived.results.map FileResult.requested
  staysAccepted : ∀ position : Nat,
    arrived.results[position]?.map FileResult.accepted = some true →
      final.results[position]?.map FileResult.accepted = some true
  calls : trace.acceptedCalls = acceptances.map (Acceptance.call plan)
  positionsOnce : (acceptances.map Acceptance.position).Nodup
  positions : ∀ position : Nat,
    position ∈ acceptances.map Acceptance.position ↔
      arrived.results[position]?.map FileResult.accepted = some false ∧
        final.results[position]?.map FileResult.accepted = some true
  files : ∀ acceptance ∈ acceptances,
    arrived.results[acceptance.position]?.map FileResult.requested = some acceptance.file
  failuresTimed : failureTimes.length = final.unaccepted.length
  messages :
    trace.acceptedMessages =
      .ofJob (.started job) ::
        (acceptances.map (Acceptance.message job) ++
          List.zipWith (Restores.failedMessage job) final.unaccepted failureTimes)

/-! ## Publications of a course -/

theorem Notices.positions_sublist (job : Job) (entries : List (FileResult × Nat))
    (notices : List Notice) :
    ((Notices.publications job entries notices).map Publication.position?).Sublist
      ((entries.map Prod.snd).map some) := by
  induction entries generalizing notices with
  | nil => exact .refl _
  | cons entry others ih =>
      cases notices with
      | nil => exact List.nil_sublist _
      | cons notice notices => exact (ih notices).cons_cons (some entry.2)

namespace CourseRuns

variable {plan : RestorePlan} {granule : Granule} {course : Course}

theorem publications_once (run : CourseRuns plan granule course) :
    ((course.publications granule).map Publication.position?).Nodup := by
  have balance := run.waiting_perm
  have distinct := balance.nodup_iff.mp (waitingPositions_nodup 0 granule.results)
  have accepted :
      ((course.acceptances granule).map (Acceptance.publication course.job)).map
          Publication.position? =
        (Acceptance.positions (course.acceptances granule)).map some := by
    rw [List.map_map, Acceptance.positions, List.map_map]
    rfl
  have failed := Notices.positions_sublist course.job (course.final granule).waiting
    course.notices
  have within :
      ((course.publications granule).map Publication.position?).Sublist
        (none :: (Acceptance.positions (course.acceptances granule) ++
          waitingPositions 0 (course.final granule).results).map some) := by
    rw [Course.publications, List.map_cons, List.map_append, accepted, List.map_append]
    exact (failed.append_left _).cons_cons none
  refine within.nodup (List.nodup_cons.mpr ⟨?_, ?_⟩)
  · intro listed
    obtain ⟨position, _, same⟩ := List.mem_map.mp listed
    cases same
  · exact distinct.map fun _ _ => Option.some.inj

theorem publications_subjects (course : Course) (granule : Granule) :
    ∀ publication ∈ course.publications granule,
      publication.IsAbout course.job granule := by
  intro publication member
  rcases List.mem_cons.mp member with rfl | later
  · rfl
  · rcases List.mem_append.mp later with accepted | failed
    · obtain ⟨acceptance, made, rfl⟩ := List.mem_map.mp accepted
      obtain ⟨_, _, _, asked⟩ := Course.mem_acceptances made
      exact ⟨.pending acceptance.file, acceptance.notice.time, asked, .inl rfl⟩
    · obtain ⟨⟨file, position⟩, waits, notice, _, rfl⟩ := Notices.mem_publications failed
      refine ⟨file, notice.time, ?_, .inr rfl⟩
      have listed := List.mem_zipIdx_iff_getElem?.mp (List.mem_filter.mp waits).1
      have same := congrArg (·[position]?) (course.requested_final granule)
      simp only [List.getElem?_map] at same
      rw [← same]
      exact congrArg (Option.map FileResult.requested) listed

theorem length_notices (run : CourseRuns plan granule course) (fine : course.failure = none) :
    course.notices.length = (course.final granule).unaccepted.length := by
  obtain ⟨begun, _⟩ := Option.or_eq_none_iff.mp fine
  obtain ⟨announced, passed⟩ := Option.or_eq_none_iff.mp begun
  cases run with
  | unannounced unposted =>
      rw [Sending.failure_eq_none_iff.mp announced] at unposted
      cases unposted
  | aborted _ _ aborted =>
      rw [passed] at aborted
      cases aborted
  | reported _ _ _ reported => exact reported

end CourseRuns

theorem Course.messages_publications (course : Course) (granule : Granule) :
    (course.publications granule).map Publication.message =
      .ofJob (.started course.job) ::
        ((course.acceptances granule).map (Acceptance.message course.job) ++
          List.zipWith (Restores.failedMessage course.job) (course.final granule).unaccepted
            (course.notices.map Notice.time)) := by
  rw [publications, List.map_cons, List.map_append, List.map_map, ← Granule.map_fst_waiting,
    List.zipWith_map, Notices.publications, List.map_zipWith]
  rfl

/-! ## The agreement -/

theorem CourseRuns.publishedOnce {plan : RestorePlan} {granule : Granule} {course : Course}
    (run : CourseRuns plan granule course) (delivery : DeliveryBudget) :
    PublishedOnce delivery course.job granule (course.events delivery plan granule)
      (course.publications granule) where
  deliveries := course.deliveries_events delivery plan granule
  once := run.publications_once
  subjects := publications_subjects course granule

theorem CourseRuns.agreesWithQueue {plan : RestorePlan} {granule : Granule} {course : Course}
    (run : CourseRuns plan granule course) (delivery : DeliveryBudget)
    (fine : course.failure = none) :
    AgreesWithQueue plan course.job granule (course.final granule)
      (course.events delivery plan granule) (course.acceptances granule)
      (course.notices.map Notice.time) where
  sameGranule := rfl
  sameFiles := course.requested_final granule
  staysAccepted := by
    intro position accepted
    obtain ⟨within, settled⟩ := accepted_iff_not_waiting.mp accepted
    refine accepted_iff_not_waiting.mpr ⟨by rwa [course.length_final], fun waits => settled ?_⟩
    exact run.waiting_perm.mem_iff.mpr (List.mem_append_right _ waits)
  calls := course.acceptedCalls_events delivery plan granule
  positionsOnce :=
    (run.waiting_perm.nodup_iff.mp (waitingPositions_nodup 0 granule.results)).of_append_left
  positions := by
    intro position
    refine (run.mem_acceptances_iff position).trans ?_
    rw [accepted_iff_not_waiting, course.length_final, mem_waitingPositions_iff]
    constructor
    · rintro ⟨waited, settled⟩
      obtain ⟨file, present, _⟩ := Option.map_eq_some_iff.mp waited
      exact ⟨waited, (List.getElem?_eq_some_iff.mp present).1, settled⟩
    · rintro ⟨waited, _, settled⟩
      exact ⟨waited, settled⟩
  files := by
    intro acceptance made
    obtain ⟨_, _, _, asked⟩ := Course.mem_acceptances made
    exact asked
  failuresTimed := by rw [List.length_map, run.length_notices fine]
  messages := by
    rw [Course.acceptedMessages_events delivery plan course granule
      (Course.publications_posted fine), Course.messages_publications]

/-- The job and each entry are published at most once in every run. A run that gives a granule,
as its result or with the files that failed, had accepted by the queue the job, the entries that
were accepted in the run in the order of their acceptance, and the entries that were not in the
order of the list, and nothing else. -/
theorem requestRestores_agrees_with_queue (services : Services) (delivery : DeliveryBudget)
    (plan : RestorePlan) (jobId : String) (granule : Granule) (past : Trace) :
    (∃ publications,
      PublishedOnce delivery ⟨jobId, granule.id, services.clock past, plan.bucket⟩ granule
        (requestRestores services delivery plan jobId granule past).2 publications) ∧
    ∀ final,
      ((requestRestores services delivery plan jobId granule past).1 = .ok final ∨
        ∃ failedId, (requestRestores services delivery plan jobId granule past).1 =
          .error (.incomplete failedId final)) →
      ∃ acceptances failureTimes,
        AgreesWithQueue plan ⟨jobId, granule.id, services.clock past, plan.bucket⟩ granule final
          (requestRestores services delivery plan jobId granule past).2 acceptances
          failureTimes := by
  have run := Course.ofServices_runs services delivery plan jobId granule past
  rw [requestRestores_eq, ← Course.job_ofServices services delivery plan jobId granule past]
  refine ⟨⟨_, run.publishedOnce delivery⟩, ?_⟩
  intro final ended
  obtain ⟨fine, rfl⟩ := Course.ended_of_outcome ended
  exact ⟨_, _, run.agreesWithQueue delivery fine⟩

/-! An archive that accepts one request only, and a queue that refuses the first message. -/

def oneAcceptance : Services where
  probe _ _ _ := .present
  restore past _ := if past.restores.isEmpty then .accepted else .rejected "busy"
  send past _ := if past.sends.isEmpty then .refused ["full"] else .accepted
  clock _ := ⟨0, 0⟩

def threeFiles : Granule where
  id := "granule"
  requested := []
  results := [⟨"a", "target", false, ""⟩, ⟨"b", "target", true, ""⟩, ⟨"c", "target", false, ""⟩]
  extra := []

def twoPasses : RestorePlan := ⟨"archive", 5, .standard, ⟨1, .zero⟩⟩

theorem oneAcceptance_agrees_with_queue :
    ∃ acceptances failureTimes,
      AgreesWithQueue twoPasses ⟨"job", "granule", ⟨0, 0⟩, "archive"⟩ threeFiles
        { threeFiles with
          results := [⟨"a", "target", true, ""⟩, ⟨"b", "target", true, ""⟩,
            ⟨"c", "target", false, "busy"⟩] }
        (requestRestores oneAcceptance (.of 2 .zero) twoPasses "job" threeFiles []).2 acceptances
        failureTimes :=
  (requestRestores_agrees_with_queue oneAcceptance (.of 2 .zero) twoPasses "job" threeFiles
    []).2 _ (.inr ⟨"job", by rw [requestRestores_eq]; rfl⟩)

end GranuleRecall
