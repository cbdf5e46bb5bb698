import GranuleRecall.Command.Basic
import GranuleRecall.Proofs.Course.Completion
import GranuleRecall.Proofs.Course.Tasks
import GranuleRecall.Proofs.Documents.Lines
import GranuleRecall.Proofs.Documents.Reports
import GranuleRecall.Proofs.PassCount
import GranuleRecall.Proofs.RequestFrame

/-! # What a command tells of its run

A command ends with success when everything that its event asks for was requested and told, and it
prints a report when all passes were made and everything was told. Whether that is so can be seen
in the trace of the run: in the probes, the calls and the messages. None of it depends on what
passes for a URL. -/

set_option autoImplicit false

namespace GranuleRecall

/-- The calls for the objects that were found, one for each probe that found one. -/
def Trace.wantedCalls (settings : Settings) (trace : Trace) : List RestoreCall :=
  trace.probes.filterMap fun (asked, reply) =>
    if reply = .present then some ⟨asked.1, asked.2, settings.expireDays, settings.tier⟩ else none

/-- The queue took a message for each of some files that are pending, and one for each of some that
failed. The files are told by their keys. -/
def Trace.TellsOfFiles (trace : Trace) (pending failed : List String) : Prop :=
  ∃ events : List FileEvent,
    events.map (fun event => (event.status, event.key)) =
        pending.map (fun key => (.pending, key)) ++ failed.map (fun key => (.failed, key)) ∧
      (events.map Message.ofFile).Subperm trace.acceptedMessages

theorem Trace.TellsOfFiles.length_lt {trace : Trace} {pending failed : List String}
    (told : trace.TellsOfFiles pending failed) {event : JobEvent}
    (announced : .ofJob event ∈ trace.acceptedMessages) :
    pending.length + failed.length < trace.acceptedMessages.length := by
  obtain ⟨events, listed, taken⟩ := told
  have other : Message.ofJob event ∉ events.map Message.ofFile := by
    intro made
    obtain ⟨_, _, same⟩ := List.mem_map.mp made
    cases congrArg Message.table same
  have all := (List.cons_subperm_of_not_mem_of_mem other announced taken).length_le
  have counted := congrArg List.length listed
  simp only [List.length_cons, List.length_append, List.length_map] at all counted
  omega

/-- When result and queue agree, the queue took a message for each file that was accepted in the run
and for each that was not. -/
theorem AgreesWithQueue.tellsOfFiles {plan : RestorePlan} {job : Job} {arrived final : Granule}
    {trace : Trace} {acceptances : List Acceptance} {failureTimes : List Time.Instant}
    (agrees : AgreesWithQueue plan job arrived final trace acceptances failureTimes) :
    trace.TellsOfFiles (trace.acceptedCalls.map RestoreCall.key)
      (final.unaccepted.map FileResult.key) := by
  let pending (acceptance : Acceptance) : FileEvent :=
    .pending job (.pending acceptance.file) acceptance.notice.time
  let failed (file : FileResult) (time : Time.Instant) : FileEvent :=
    .withStatus job file .failed (some (Restores.failureMessage file)) time
  refine ⟨acceptances.map pending ++ List.zipWith failed final.unaccepted failureTimes, ?_, ?_⟩
  · have told : List.zipWith (fun file (_ : Time.Instant) => (StatusCode.failed, file.key))
        final.unaccepted failureTimes =
          final.unaccepted.map fun file => (StatusCode.failed, file.key) := by
      have timed := List.map_fst_zip agrees.failuresTimed.ge
      rw [← List.map_uncurry_zip_eq_zipWith]
      conv_rhs => rw [← timed, List.map_map]
      rfl
    rw [agrees.calls, List.map_append, List.map_zipWith]
    simp only [List.map_map]
    exact congrArg (_ ++ ·) told
  · rw [agrees.messages, List.map_append, List.map_map, List.map_zipWith]
    exact (List.sublist_cons_self ..).subperm

namespace Command

/-- What an invocation asks for: a request for one granule in a bucket, under some settings. -/
structure Assignment where
  settings : Settings
  request : Request
  bucket : String
  granule : Granule

namespace Assignment

/-- The event can be read and asks for one granule in a bucket that is not blank, and the settings
can be resolved. -/
structure IsGivenBy (checkUrl : Settings.UrlCheck) (invocation : Invocation)
    (assignment : Assignment) : Prop where
  read : readEvent invocation.event = .ok assignment.request
  resolved : ∃ warnings, Settings.resolve checkUrl invocation.environment.value? =
    (.ok assignment.settings, warnings)
  bucket : assignment.request.bucket = some assignment.bucket
  filled : Text.isBlank assignment.bucket = false
  granule : assignment.request.granules = [assignment.granule]

def plan (assignment : Assignment) : RestorePlan :=
  ⟨assignment.bucket, assignment.settings.expireDays, assignment.settings.tier,
    assignment.settings.passes⟩

section

variable (services : Settings → Services) (freshId : String) (assignment : Assignment)

def carriedOut : Except Failure Report × Trace :=
  Task.run (services assignment.settings) assignment.settings freshId assignment.request []

def trace : Trace :=
  (assignment.carriedOut services freshId).2

/-- The restores of the files that were found are requested in all passes that are allowed. -/
def MakesAllPasses : Prop :=
  ∃ files probed,
    Task.presentFiles (services assignment.settings) assignment.bucket
        assignment.granule.requested [] = (.ok files, probed) ∧
      PassesEnd (services assignment.settings) assignment.settings.delivery assignment.plan
        (Task.jobIdOf assignment.request freshId) { assignment.granule with results := files }
        probed

/-- The queue took the job of an assignment. -/
def IsAnnounced : Prop :=
  ∃ time,
    .ofJob (.started ⟨Task.jobIdOf assignment.request freshId, assignment.granule.id, time,
        assignment.bucket⟩) ∈
      (assignment.trace services freshId).acceptedMessages

/-- Every probe tells something, everything that was found was accepted, and the queue took the
job and each acceptance. -/
structure IsFulfilled : Prop where
  known : ∀ asked message, (asked, .unknown message) ∉ (assignment.trace services freshId).probes
  accepted : ((assignment.trace services freshId).wantedCalls assignment.settings).Subperm
    (assignment.trace services freshId).acceptedCalls
  announced : assignment.IsAnnounced services freshId
  reported : (assignment.trace services freshId).TellsOfFiles
    ((assignment.trace services freshId).acceptedCalls.map RestoreCall.key) []

/-- Every probe tells something, all passes were made, and the queue took the job, each acceptance,
and a failure for everything else that was found, but not everything that was found was
accepted. -/
structure IsFulfilledInPart : Prop where
  known : ∀ asked message, (asked, .unknown message) ∉ (assignment.trace services freshId).probes
  passed : assignment.MakesAllPasses services freshId
  announced : assignment.IsAnnounced services freshId
  reported : ∃ failed,
    ((assignment.trace services freshId).acceptedCalls.map RestoreCall.key ++ failed).Perm
        (((assignment.trace services freshId).wantedCalls assignment.settings).map
          RestoreCall.key) ∧
      (assignment.trace services freshId).TellsOfFiles
        ((assignment.trace services freshId).acceptedCalls.map RestoreCall.key) failed
  unaccepted : ¬ ((assignment.trace services freshId).wantedCalls assignment.settings).Subperm
    (assignment.trace services freshId).acceptedCalls

/-- A report tells what became of an assignment: it has the results that the task ended with, one
for each object that was found, and tells of each whether a request for it was accepted. -/
structure IsToldBy (report : Report) : Prop where
  reported : Report.ofOutcome? (assignment.carriedOut services freshId).1 = some report
  keeps : KeepsGranule (services assignment.settings) assignment.bucket assignment.granule
    report.granule [] (assignment.trace services freshId)
  accepted : (assignment.trace services freshId).acceptedCalls.Perm
    ((report.granule.results.filter (·.accepted)).map assignment.plan.callFor)
  announced : ∃ time,
    .ofJob (.started ⟨report.jobId, assignment.granule.id, time, assignment.bucket⟩) ∈
      (assignment.trace services freshId).acceptedMessages

end

/-! ## The course of an assignment -/

section

variable (services : Settings → Services) (freshId : String) (assignment : Assignment)

/-- An assignment is carried out by a course for its granule with the files that were found. Each
probe tells something. -/
structure Follows (replies : List ProbeReply) (begun : Granule) (course : Course) : Prop where
  complete : ProbesComplete assignment.granule.requested replies
  found : begun =
    { assignment.granule with results := Probes.found assignment.granule.requested replies }
  run : CourseRuns assignment.plan begun course
  job : ∃ time, course.job = ⟨Task.jobIdOf assignment.request freshId, assignment.granule.id, time,
    assignment.bucket⟩
  ran : ∃ probed,
    Task.presentFiles (services assignment.settings) assignment.bucket
        assignment.granule.requested [] = (.ok begun.results, probed) ∧
      (requestRestores (services assignment.settings) assignment.settings.delivery assignment.plan
        (Task.jobIdOf assignment.request freshId) begun probed).1 = course.outcome begun
  outcome : (assignment.carriedOut services freshId).1 =
    (course.outcome begun).map fun final => ⟨final, course.job.id⟩
  trace : assignment.trace services freshId =
    Probes.events assignment.bucket assignment.granule.requested replies ++
      course.events assignment.settings.delivery assignment.plan begun

end

end Assignment

end Command

theorem Probes.wantedCalls_exchanges (plan : RestorePlan) (files : List RequestedFile)
    (replies : List ProbeReply) :
    ((exchanges plan.bucket files replies).filterMap fun (asked, reply) =>
        if reply = .present then
          some (⟨asked.1, asked.2, plan.expireDays, plan.tier⟩ : RestoreCall)
        else none) =
      (found files replies).map plan.callFor := by
  rw [exchanges, found, List.filterMap_map, List.map_filterMap]
  refine List.filterMap_congr fun entry _ => ?_
  obtain ⟨file, reply⟩ := entry
  cases reply <;> rfl

theorem Probes.exists_unknown {bucket : String} {files : List RequestedFile}
    {replies : List ProbeReply} {failed : Failure}
    (found : failure bucket files replies = some failed) :
    ∃ asked message, (asked, .unknown message) ∈ (events bucket files replies).probes := by
  rw [probes_events]
  obtain ⟨⟨file, reply⟩, paired, replied⟩ := List.exists_of_findSome?_eq_some found
  cases reply with
  | present => cases replied
  | absent => cases replied
  | unknown message => exact ⟨_, message, List.mem_map.mpr ⟨_, paired, rfl⟩⟩

namespace Command

namespace Assignment

variable {checkUrl : Settings.UrlCheck} {services : Settings → Services} {freshId : String}
  {assignment : Assignment} {invocation : Invocation}

/-- An assignment ends with a probe that tells nothing, or it is carried out by a course. -/
theorem IsGivenBy.cases (given : assignment.IsGivenBy checkUrl invocation)
    (services : Settings → Services) (freshId : String) :
    (∃ failure, (assignment.carriedOut services freshId).1 = .error failure ∧
      failure.partialResult = none ∧
      ∃ asked message, (asked, .unknown message) ∈ (assignment.trace services freshId).probes) ∨
    ∃ replies begun course, assignment.Follows services freshId replies begun course := by
  have stages : Task.Stages (services assignment.settings) assignment.settings freshId
      assignment.request [] (assignment.carriedOut services freshId) := Task.run_stages ..
  generalize same : assignment.carriedOut services freshId = ran at stages
  have outcome := congrArg Prod.fst same
  have trace : assignment.trace services freshId = _ := congrArg Prod.snd same
  cases stages with
  | unchecked wrong _ =>
      rcases wrong with blank | several
      · rw [given.bucket, Option.all_some, given.filled] at blank
        cases blank
      · rw [given.granule] at several
        exact absurd rfl several
  | unknown named _ listed replied failed =>
      cases given.bucket.symm.trans named
      cases given.granule.symm.trans listed
      exact .inl ⟨_, rfl, Probes.failure_partialResult failed, by
        rw [trace]
        exact Probes.exists_unknown failed⟩
  | @requested bucket granule begun replies plan probed named _ listed replied fine planned found
      asked =>
      cases given.bucket.symm.trans named
      cases given.granule.symm.trans listed
      replace planned : plan = assignment.plan := planned
      subst planned
      have job := Course.job_ofServices (services assignment.settings)
        assignment.settings.delivery assignment.plan (Task.jobIdOf assignment.request freshId) begun
        probed
      have complete : ProbesComplete assignment.granule.requested replies := by
        rw [replied] at fine ⊢
        exact (Probes.ofServices_run _ _ _ _).complete fine
      have present := Task.presentFiles_eq (services assignment.settings) assignment.bucket []
        assignment.granule.requested
      rw [← replied, fine] at present
      have ran := requestRestores_eq (services assignment.settings) assignment.settings.delivery
        assignment.plan (Task.jobIdOf assignment.request freshId) begun probed
      rw [ran] at outcome trace
      refine .inr ⟨replies, begun, _, {
        complete, found, trace
        run := Course.ofServices_runs ..
        job := ⟨(services assignment.settings).clock probed, ?job⟩
        ran := ⟨probed, ?present, congrArg Prod.fst ran⟩
        outcome := ?outcome }⟩
      case job =>
        rw [job, found]
        rfl
      case present =>
        rw [present, asked, found]
        rfl
      case outcome => rw [outcome, job]

namespace Follows

variable {replies : List ProbeReply} {begun : Granule} {course : Course}
  (follows : assignment.Follows services freshId replies begun course)

include follows

theorem fresh : ∀ file ∈ begun.results, file.accepted = false := by
  intro file listed
  rw [follows.found] at listed
  obtain ⟨_, _, rfl⟩ := Probes.mem_found listed
  rfl

theorem probes : (assignment.trace services freshId).probes =
    Probes.exchanges assignment.bucket assignment.granule.requested replies := by
  rw [follows.trace, Trace.probes_append, Probes.probes_events, Course.probes_events,
    List.append_nil]

theorem known (asked : String × String) (message : String) :
    (asked, .unknown message) ∉ (assignment.trace services freshId).probes := by
  rw [follows.probes]
  intro listed
  obtain ⟨⟨_, _⟩, paired, replied⟩ := List.mem_map.mp listed
  cases replied
  exact follows.complete.known message (List.of_mem_zip paired).2

theorem wantedCalls : (assignment.trace services freshId).wantedCalls assignment.settings =
    begun.results.map assignment.plan.callFor := by
  rw [Trace.wantedCalls, follows.probes, follows.found]
  exact Probes.wantedCalls_exchanges assignment.plan _ _

theorem restores : (assignment.trace services freshId).restores =
    (course.events assignment.settings.delivery assignment.plan begun).restores := by
  rw [follows.trace, Trace.restores_append, Probes.restores_events, List.nil_append]

theorem acceptedMessages : (assignment.trace services freshId).acceptedMessages =
    (course.events assignment.settings.delivery assignment.plan begun).acceptedMessages := by
  rw [follows.trace, Trace.acceptedMessages_append, Probes.acceptedMessages_events, List.nil_append]

theorem acceptedCalls : (assignment.trace services freshId).acceptedCalls =
    (course.events assignment.settings.delivery assignment.plan begun).acceptedCalls := by
  rw [Trace.acceptedCalls, follows.restores]
  rfl

theorem isAnnounced (announced : course.announcement.isPosted = true) :
    assignment.IsAnnounced services freshId := by
  obtain ⟨time, job⟩ := follows.job
  refine ⟨time, ?_⟩
  rw [follows.acceptedMessages, ← job]
  exact Course.mem_acceptedMessages_of_announced _ _ _ announced

theorem tellsOfFiles (fine : course.failure = none) :
    (assignment.trace services freshId).TellsOfFiles
      ((assignment.trace services freshId).acceptedCalls.map RestoreCall.key)
      ((course.final begun).unaccepted.map FileResult.key) := by
  have agrees := follows.run.agreesWithQueue assignment.settings.delivery fine
  obtain ⟨events, listed, taken⟩ := agrees.tellsOfFiles
  rw [← follows.acceptedCalls] at listed
  rw [← follows.acceptedMessages] at taken
  exact ⟨events, listed, taken⟩

/-- Each file that was found was accepted, or it waits. -/
theorem keys_perm :
    ((assignment.trace services freshId).acceptedCalls.map RestoreCall.key ++
        (course.final begun).unaccepted.map FileResult.key).Perm
      (((assignment.trace services freshId).wantedCalls assignment.settings).map
        RestoreCall.key) := by
  have accepted := (follows.run.acceptedCalls_perm assignment.settings.delivery
    follows.fresh).map RestoreCall.key
  rw [List.map_map] at accepted
  rw [follows.acceptedCalls, follows.wantedCalls, ← CourseRuns.calls_final course, List.map_map]
  refine (accepted.append_right _).trans ?_
  have parted := (List.filter_append_perm FileResult.accepted
    (course.final begun).results).map FileResult.key
  rwa [List.map_append] at parted

variable (counted : assignment.settings.passes.maxRetries.toNat ≤ passCountBound - 2)

include counted

theorem makesAllPasses (fine : course.failure = none)
    (waits : (course.final begun).isComplete = false) :
    assignment.MakesAllPasses services freshId := by
  obtain ⟨probed, present, ran⟩ := follows.ran
  have incomplete : course.outcome begun =
      .error (.incomplete course.job.id (course.final begun)) := by
    simp [Course.outcome, Restores.verdict, fine, waits]
  have ends := passesEnd_of_incomplete counted (ran.trans incomplete)
  refine ⟨begun.results, probed, present, ?_⟩
  rw [follows.found] at ends ⊢
  exact ends

theorem isFulfilled_iff :
    assignment.IsFulfilled services freshId ↔
      course.failure = none ∧ (course.final begun).isComplete = true := by
  have ends := follows.run.ends_complete_iff assignment.settings.delivery follows.fresh counted
  rw [← follows.wantedCalls, ← follows.acceptedCalls, ← follows.acceptedMessages] at ends
  constructor
  · rintro ⟨_, accepted, ⟨time, announced⟩, reported⟩
    refine ends.mpr ⟨accepted, ?_⟩
    simpa using reported.length_lt announced
  · rintro ⟨fine, complete⟩
    have told := follows.tellsOfFiles fine
    rw [(Granule.isComplete_iff_unaccepted_eq_nil _).mp complete] at told
    exact {
      known := follows.known
      accepted := (ends.mp ⟨fine, complete⟩).1
      announced := follows.isAnnounced (Course.announced_of_fine fine)
      reported := told }

theorem isFulfilledInPart_iff :
    assignment.IsFulfilledInPart services freshId ↔
      course.failure = none ∧ (course.final begun).isComplete = false := by
  have ends := follows.run.ends_waiting_iff assignment.settings.delivery follows.fresh
  rw [← follows.wantedCalls, ← follows.acceptedCalls, ← follows.acceptedMessages] at ends
  constructor
  · rintro ⟨_, _, ⟨time, announced⟩, ⟨failed, parted, reported⟩, unaccepted⟩
    refine ends.mpr ⟨unaccepted, ?_⟩
    have parts := parted.length_eq
    have taken := reported.length_lt announced
    rw [follows.wantedCalls] at parts
    simp only [List.length_append, List.length_map] at parts taken
    omega
  · rintro ⟨fine, waits⟩
    exact {
      known := follows.known
      passed := follows.makesAllPasses counted fine waits
      announced := follows.isAnnounced (Course.announced_of_fine fine)
      reported := ⟨_, follows.keys_perm, follows.tellsOfFiles fine⟩
      unaccepted := (ends.mp ⟨fine, waits⟩).1 }

omit counted

theorem ofOutcome?_carriedOut :
    Report.ofOutcome? (assignment.carriedOut services freshId).1 =
      if course.failure = none then some ⟨course.final begun, course.job.id⟩ else none := by
  rw [follows.outcome, Course.ofOutcome?_outcome]

theorem carriedOut_ok_iff :
    (∃ report, (assignment.carriedOut services freshId).1 = .ok report) ↔
      course.failure = none ∧ (course.final begun).isComplete = true := by
  rw [← course.outcome_ok_iff begun, follows.outcome]
  cases course.outcome begun with
  | ok final => simp [Except.map]
  | error failure => simp [Except.map]

theorem isToldBy (given : assignment.IsGivenBy checkUrl invocation) (fine : course.failure = none) :
    assignment.IsToldBy services freshId ⟨course.final begun, course.job.id⟩ := by
  have reported := follows.ofOutcome?_carriedOut
  rw [if_pos fine] at reported
  have keeps := (Task.run_keepsGranule (services assignment.settings) assignment.settings freshId []
    given.bucket given.filled given.granule).1 _ reported
  refine ⟨reported, keeps, ?_, ?_⟩
  · rw [follows.acceptedCalls]
    exact follows.run.acceptedCalls_perm assignment.settings.delivery follows.fresh
  · obtain ⟨time, job⟩ := follows.job
    rw [job]
    exact follows.isAnnounced (Course.announced_of_fine fine)

end Follows

theorem IsGivenBy.unique {assignment' : Assignment}
    (given : assignment.IsGivenBy checkUrl invocation)
    (given' : assignment'.IsGivenBy checkUrl invocation) : assignment = assignment' := by
  obtain ⟨settings, request, bucket, granule⟩ := assignment
  obtain ⟨settings', request', bucket', granule'⟩ := assignment'
  obtain ⟨read, ⟨warnings, resolved⟩, named, _, listed⟩ := given
  obtain ⟨read', ⟨warnings', resolved'⟩, named', _, listed'⟩ := given'
  cases read.symm.trans read'
  cases resolved.symm.trans resolved'
  cases named.symm.trans named'
  cases listed.symm.trans listed'
  rfl

end Assignment

/-! ## Outcomes -/

theorem outcomeOf_exitCode (warnings : List LogRecord)
    (result : Except Failure Report × Trace) :
    (outcomeOf warnings result).exitCode = 0 ↔ ∃ report, result.1 = .ok report := by
  unfold outcomeOf
  cases result.1 with
  | ok report => simp [Outcome.exitCode]
  | error failure => simp [Outcome.exitCode]

theorem outcomeOf_output (warnings : List LogRecord) (result : Except Failure Report × Trace) :
    (outcomeOf warnings result).output = ((Report.ofOutcome? result.1).map printed).getD "" := by
  unfold outcomeOf
  cases result.1 with
  | ok report => rfl
  | error failure =>
      cases reported : Report.ofFailure? failure with
      | some report => simp [Report.ofOutcome?, reported]
      | none => simp [Report.ofOutcome?, reported]

/-- An invocation carries out what it is given, or it ends with nothing printed. -/
theorem run_cases (checkUrl : Settings.UrlCheck) (services : Settings → Services)
    (freshId : String) (invocation : Invocation) :
    (∃ assignment warnings, Assignment.IsGivenBy checkUrl invocation assignment ∧
      run checkUrl services freshId invocation =
        outcomeOf warnings (assignment.carriedOut services freshId)) ∨
    (∀ assignment, ¬ Assignment.IsGivenBy checkUrl invocation assignment) ∧
      (run checkUrl services freshId invocation).exitCode ≠ 0 ∧
      (run checkUrl services freshId invocation).output = "" := by
  unfold run
  cases read : readEvent invocation.event with
  | error chain =>
      refine .inr ⟨fun assignment given => ?_, Nat.one_ne_zero, rfl⟩
      cases read.symm.trans given.read
  | ok request =>
      dsimp only
      cases resolved : Settings.resolve checkUrl invocation.environment.value? with
      | mk settings? warnings =>
          cases settings? with
          | error failure =>
              refine .inr ⟨fun assignment given => ?_, Nat.one_ne_zero, rfl⟩
              obtain ⟨_, resolved'⟩ := given.resolved
              cases resolved.symm.trans resolved'
          | ok settings =>
              have stages := Task.run_stages (services settings) settings freshId request []
              dsimp only
              generalize ran : Task.run (services settings) settings freshId request [] = result
                at stages ⊢
              cases stages with
              | @unchecked failure wrong bare =>
                  refine .inr ⟨fun assignment given => ?_, Nat.one_ne_zero, ?_⟩
                  · cases read.symm.trans given.read
                    rcases wrong with blank | several
                    · rw [given.bucket, Option.all_some, given.filled] at blank
                      cases blank
                    · rw [given.granule] at several
                      exact several rfl
                  · rw [outcomeOf_output, Report.ofOutcome?, Report.ofFailure?, bare]
                    rfl
              | @unknown bucket granule _ _ named filled listed _ _ =>
                  exact .inl ⟨⟨settings, request, bucket, granule⟩, warnings,
                    ⟨read, ⟨warnings, resolved⟩, named, filled, listed⟩,
                    congrArg (outcomeOf warnings) ran.symm⟩
              | @requested bucket granule _ _ _ _ named filled listed _ _ _ _ _ =>
                  exact .inl ⟨⟨settings, request, bucket, granule⟩, warnings,
                    ⟨read, ⟨warnings, resolved⟩, named, filled, listed⟩,
                    congrArg (outcomeOf warnings) ran.symm⟩

theorem exists_parse_of_readEvent {event : EventText} {request : Request}
    (read : readEvent event = .ok request) : ∃ text, Request.parse text = .ok request := by
  have parsed : ∀ {text : String} {wrap : Failure → FailureChain},
      (((Request.parse text).mapError fun problem => Failure.malformed problem.message).mapError
        wrap) = .ok request → Request.parse text = .ok request := by
    intro text wrap made
    cases parsed : Request.parse text with
    | error problem => rw [parsed] at made; cases made
    | ok request' => rw [parsed] at made; cases made; rfl
  match event with
  | .file path (.ok text) => exact ⟨text, parsed read⟩
  | .file path (.error reason) => cases read
  | .standardInput (.ok text) => exact ⟨text, parsed read⟩
  | .standardInput (.error reason) => cases read

/-! ## Exit status and output -/

/-- A report is printed in one line. -/
structure Prints (outcome : Outcome) (report : Report) : Prop where
  line : outcome.output = report.render ++ "\n"
  oneLine : '\n' ∉ report.render.toList
  document : report.toJson.document.IsWrittenAs report.render

/-- What the exit status and the output of a command tell. The command succeeds exactly when what it
is given is fulfilled. It prints a report exactly when what it is given is fulfilled, at least in
part, and the report tells what became of it and whether that is a success. -/
structure TellsTruth (checkUrl : Settings.UrlCheck) (services : Settings → Services)
    (freshId : String) (invocation : Invocation) (outcome : Outcome) : Prop where
  status : outcome.exitCode = 0 ↔ ∃ assignment,
    Assignment.IsGivenBy checkUrl invocation assignment ∧ assignment.IsFulfilled services freshId
  printed : ∀ assignment, Assignment.IsGivenBy checkUrl invocation assignment →
    assignment.IsFulfilled services freshId ∨ assignment.IsFulfilledInPart services freshId →
      ∃ report, Prints outcome report ∧ assignment.IsToldBy services freshId report ∧
        ((∀ result ∈ report.granule.results, result.accepted = true) ↔ outcome.exitCode = 0)
  silent : (∀ assignment, Assignment.IsGivenBy checkUrl invocation assignment →
    ¬ assignment.IsFulfilled services freshId ∧
      ¬ assignment.IsFulfilledInPart services freshId) → outcome.output = ""

namespace Assignment.IsGivenBy

variable {checkUrl : Settings.UrlCheck} {services : Settings → Services} {freshId : String}
  {assignment : Assignment} {invocation : Invocation}

theorem tellsTruth_of_unknown (given : assignment.IsGivenBy checkUrl invocation)
    (unknown : ∃ failure, (assignment.carriedOut services freshId).1 = .error failure ∧
      failure.partialResult = none ∧
      ∃ asked message, (asked, .unknown message) ∈ (assignment.trace services freshId).probes)
    (warnings : List LogRecord) :
    TellsTruth checkUrl services freshId invocation
      (outcomeOf warnings (assignment.carriedOut services freshId)) := by
  obtain ⟨failure, ended, bare, asked, message, probed⟩ := unknown
  have unfulfilled : ¬ assignment.IsFulfilled services freshId :=
    fun fulfilled => fulfilled.known asked message probed
  refine ⟨⟨fun succeeded => ?_, ?_⟩, ?_, fun _ => ?_⟩
  · obtain ⟨report, reported⟩ := (outcomeOf_exitCode _ _).mp succeeded
    cases ended.symm.trans reported
  · rintro ⟨assignment', given', fulfilled⟩
    cases given.unique given'
    exact absurd fulfilled unfulfilled
  · rintro assignment' given' (fulfilled | inPart)
    · cases given.unique given'
      exact absurd fulfilled unfulfilled
    · cases given.unique given'
      exact absurd probed (inPart.known asked message)
  · rw [outcomeOf_output, ended, Report.ofOutcome?, Report.ofFailure?, bare]
    rfl

theorem tellsTruth_of_follows (given : assignment.IsGivenBy checkUrl invocation)
    {replies : List ProbeReply} {begun : Granule} {course : Course}
    (follows : assignment.Follows services freshId replies begun course)
    (counted : assignment.settings.passes.maxRetries.toNat ≤ passCountBound - 2)
    (warnings : List LogRecord) :
    TellsTruth checkUrl services freshId invocation
      (outcomeOf warnings (assignment.carriedOut services freshId)) := by
  have fulfilled := follows.isFulfilled_iff counted
  have inPart := follows.isFulfilledInPart_iff counted
  have status : (outcomeOf warnings (assignment.carriedOut services freshId)).exitCode = 0 ↔
      course.failure = none ∧ (course.final begun).isComplete = true := by
    rw [outcomeOf_exitCode, follows.carriedOut_ok_iff]
  have output := outcomeOf_output warnings (assignment.carriedOut services freshId)
  rw [follows.ofOutcome?_carriedOut] at output
  refine ⟨?_, ?_, ?_⟩
  · rw [status, ← fulfilled]
    refine ⟨fun fulfilled => ⟨assignment, given, fulfilled⟩, ?_⟩
    rintro ⟨assignment', given', fulfilled⟩
    cases given.unique given'
    exact fulfilled
  · intro assignment' given' ends
    cases given.unique given'
    have fine : course.failure = none := by
      rw [fulfilled, inPart] at ends
      exact ends.elim And.left And.left
    have told := follows.isToldBy given fine
    obtain ⟨text, parsed⟩ := exists_parse_of_readEvent given.read
    refine ⟨⟨course.final begun, course.job.id⟩, ⟨?_, ?_, ?_⟩, told, ?_⟩
    · rw [output, if_pos fine]
      rfl
    · exact Json.newline_not_mem_render _
    · exact Report.isWrittenAs_of_run parsed told.reported
    · rw [status, and_iff_right fine, Granule.isComplete, List.all_eq_true]
  · intro unfulfilled
    obtain ⟨notWhole, notInPart⟩ := unfulfilled assignment given
    have failed : course.failure ≠ none := by
      intro fine
      cases ended : (course.final begun).isComplete with
      | true => exact notWhole (fulfilled.mpr ⟨fine, ended⟩)
      | false => exact notInPart (inPart.mpr ⟨fine, ended⟩)
    rw [output, if_neg failed]
    rfl

end Assignment.IsGivenBy

theorem run_tellsTruth (checkUrl : Settings.UrlCheck) (services : Settings → Services)
    (freshId : String) (invocation : Invocation)
    (counted : ∀ settings warnings,
      Settings.resolve checkUrl invocation.environment.value? = (.ok settings, warnings) →
        settings.passes.maxRetries.toNat ≤ passCountBound - 2) :
    TellsTruth checkUrl services freshId invocation (run checkUrl services freshId invocation) := by
  rcases run_cases checkUrl services freshId invocation with
    ⟨assignment, warnings, given, ran⟩ | ⟨notGiven, failed, unprinted⟩
  · rw [ran]
    rcases given.cases services freshId with unknown | ⟨replies, begun, course, follows⟩
    · exact given.tellsTruth_of_unknown unknown warnings
    · obtain ⟨_, resolved⟩ := given.resolved
      exact given.tellsTruth_of_follows follows (counted _ _ resolved) warnings
  · refine ⟨⟨fun succeeded => absurd succeeded failed, ?_⟩, ?_, fun _ => unprinted⟩
    · rintro ⟨assignment, given, _⟩
      exact absurd given (notGiven assignment)
    · exact fun assignment given => absurd given (notGiven assignment)

/-! A busy archive, in an environment that allows one pass. -/

def busyInvocation : Invocation where
  event := .standardInput (.ok (sizedReport.event "archive").render)
  environment := [("DB_QUEUE_URL", "queue:status"), ("RESTORE_REQUEST_RETRIES", "0")]

def busySettings : Settings :=
  { oneTry with queueUrl := "queue:status" }

/-- A check that looks for the end of a scheme only. -/
def schemeCheck : Settings.UrlCheck := fun text =>
  if text.toList.contains ':' then .ok () else .error "relative URL without a base"

set_option maxRecDepth 10000 in
theorem busyInvocation_resolves :
    Settings.resolve schemeCheck busyInvocation.environment.value? = (.ok busySettings, []) := rfl

theorem busyInvocation_reads :
    readEvent busyInvocation.event = .ok ⟨some "archive", [sizedGranule], some "job"⟩ := by
  have parsed := @Report.parse_event sizedReport (sizedGranule_isReadable (by decide))
    sizedGranule_hasWholeNumbers "archive"
  rw [busyInvocation, readEvent]
  dsimp only
  rw [parsed]
  rfl

/-- The command fails, and prints that nothing was accepted. -/
theorem busyInvocation_tellsTruth :
    TellsTruth schemeCheck (fun _ => busyArchive) "fresh" busyInvocation
        (run schemeCheck (fun _ => busyArchive) "fresh" busyInvocation) ∧
      (run schemeCheck (fun _ => busyArchive) "fresh" busyInvocation).exitCode = 1 ∧
      (run schemeCheck (fun _ => busyArchive) "fresh" busyInvocation).output =
        busyReport.render ++ "\n" := by
  refine ⟨run_tellsTruth schemeCheck _ "fresh" busyInvocation ?_, ?_⟩
  · intro settings warnings resolved
    cases busyInvocation_resolves.symm.trans resolved
    decide
  · have carried := Task.carryOut_eq busyArchive busySettings "archive" "job" sizedGranule [] rfl
      (by decide)
    have failed : ∃ failure, (Task.run busyArchive busySettings "fresh"
        ⟨some "archive", [sizedGranule], some "job"⟩ []).1 = .error failure ∧
        Report.ofFailure? failure = some busyReport :=
      ⟨_, congrArg Prod.fst carried, rfl⟩
    obtain ⟨failure, ended, reported⟩ := failed
    rw [run, busyInvocation_reads]
    dsimp only
    rw [busyInvocation_resolves]
    dsimp only
    rw [outcomeOf, ended]
    dsimp only
    rw [reported]
    exact ⟨rfl, rfl⟩

end Command

end GranuleRecall
