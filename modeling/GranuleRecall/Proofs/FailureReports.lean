import GranuleRecall.Proofs.Course.Answered
import GranuleRecall.Proofs.Course.Attempts
import GranuleRecall.Proofs.Course.Failures
import GranuleRecall.Proofs.PassStructure

/-! # The reports on files that failed

After the last pass there is one report for each file that was never accepted, each with a budget
of its own. The first report that cannot be delivered decides how the run fails, and only when all
of them are delivered does the run fail with the results. -/

set_option autoImplicit false

namespace GranuleRecall

/-- A report on a file that failed: when it was made, and how its message was sent. -/
structure FailureReport where
  file : FileResult
  time : Time.Instant
  sending : Sending
deriving DecidableEq, Repr

namespace FailureReport

variable (delivery : DeliveryBudget) (job : Job) (report : FailureReport)

/-- What a report says. The file is complete at the time of its last update. -/
def payload : Json :=
  .object [("job_id", .text job.id), ("granule_id", .text job.granuleId),
    ("filename", .text report.file.filename), ("key_path", .text report.file.key),
    ("restore_destination", .text report.file.destination), ("status_id", .natural 3),
    ("error_message", .text
      (if report.file.rejection = "" then Restores.unknownRejection else report.file.rejection)),
    ("request_time", timeJson job.requestTime), ("last_update", timeJson report.time),
    ("completion_time", timeJson report.time)]

def message : Message :=
  .build .file .updateFile (report.payload job)

def events : Trace :=
  report.sending.events delivery (report.message job) 1

theorem failureMessage_eq (file : FileResult) :
    Restores.failureMessage file =
      if file.rejection = "" then Restores.unknownRejection else file.rejection := by
  by_cases empty : file.rejection = ""
  · simp [Restores.failureMessage, empty]
  · simp [Restores.failureMessage, empty]

theorem message_eq :
    report.message job = Restores.failedMessage job report.file report.time := by
  have given : (some (Restores.failureMessage report.file)).filter (!·.isEmpty) =
      some (Restores.failureMessage report.file) := by
    simp [Option.filter, Restores.failureMessage_ne_empty]
  have same : report.payload job =
      (FileEvent.withStatus job report.file .failed
        (some (Restores.failureMessage report.file)) report.time).toJson := by
    rw [payload, ← failureMessage_eq, FileEvent.toJson]
    simp only [FileEvent.withStatus, given]
    rfl
  exact congrArg (Message.build .file .updateFile) same

end FailureReport

/-- Files are reported as failed after some past. There is a report for each file, in order, and
nothing else happens. Each is made when the reports before it were sent or given up, and may use its
budget up. What is kept is the failure of the first report that is not accepted. -/
structure ReportsFailures (services : Services) (delivery : DeliveryBudget) (job : Job)
    (past : Trace) (files : List FileResult) (failure? : Option Failure) (added : Trace)
    (reports : List FailureReport) : Prop where
  files : reports.map FailureReport.file = files
  trace : added = reports.flatMap (FailureReport.events delivery job)
  answered : services.Answered past added
  timed : ∀ before report after, reports = before ++ report :: after →
    report.time = services.clock (past ++ before.flatMap (FailureReport.events delivery job))
  budget : ∀ report ∈ reports, report.sending.KeepsBudget delivery.attempts
  delivered : failure? = none ↔ ∀ report ∈ reports, report.sending.isPosted = true
  failed : ∀ failure, failure? = some failure ↔
    ∃ before report after reasons, reports = before ++ report :: after ∧
      (∀ earlier ∈ before, earlier.sending.isPosted = true) ∧
      report.sending.refusal? = some reasons ∧
      failure = .undelivered Table.file.name delivery.attempts (reasonsText reasons)

/-! ## Reports one by one -/

section

variable (services : Services) (delivery : DeliveryBudget) (job : Job)

/-- The reports that come of the services' answers. -/
def FailureReport.ofServices (past : Trace) (files : List FileResult) : List FailureReport :=
  List.zipWith (fun file (notice : Notice) => ⟨file, notice.time, notice.sending⟩) files
    (Notices.ofServices services delivery job past files)

theorem FailureReport.ofServices_cons (past : Trace) (file : FileResult)
    (others : List FileResult) :
    ∃ report, report.file = file ∧ report.time = services.clock past ∧
      report.sending = Sending.ofDelivery services delivery (report.message job) past ∧
      ofServices services delivery job past (file :: others) =
        report :: ofServices services delivery job (past ++ report.events delivery job)
          others := by
  refine ⟨⟨file, services.clock past, Sending.ofDelivery services delivery
    (Restores.failedMessage job file (services.clock past)) past⟩, rfl, rfl, ?_, ?_⟩
  · rw [message_eq]
  · rw [events, message_eq]
    rfl

theorem FailureReport.map_file_ofServices (past : Trace) (files : List FileResult) :
    (ofServices services delivery job past files).map FailureReport.file = files := by
  induction files generalizing past with
  | nil => rfl
  | cons file others ih =>
      obtain ⟨report, about, _, _, made⟩ := ofServices_cons services delivery job past file others
      rw [made, List.map_cons, about, ih]

theorem FailureReport.events_ofServices (past : Trace) (files : List FileResult) :
    Notices.events delivery job files (Notices.ofServices services delivery job past files) =
      (ofServices services delivery job past files).flatMap (events delivery job) := by
  induction files generalizing past with
  | nil => rfl
  | cons file others ih =>
      obtain ⟨report, about, timed, sent, made⟩ :=
        ofServices_cons services delivery job past file others
      rw [made, List.flatMap_cons, ← ih, events, sent, message_eq, about, timed]
      rfl

theorem FailureReport.failure_ofServices (past : Trace) (files : List FileResult) :
    Notices.failure (Notices.ofServices services delivery job past files) =
      (ofServices services delivery job past files).findSome? fun report =>
        report.sending.failure .file 1 := by
  induction files generalizing past with
  | nil => rfl
  | cons file others ih =>
      obtain ⟨report, about, timed, sent, made⟩ :=
        ofServices_cons services delivery job past file others
      have rest := ih (past ++ report.events delivery job)
      rw [made, List.findSome?_cons, ← rest, events, sent, message_eq, about, timed]
      rfl

theorem FailureReport.timed_ofServices (past : Trace) (files : List FileResult)
    {before after : List FailureReport} {report : FailureReport}
    (split : ofServices services delivery job past files = before ++ report :: after) :
    report.time = services.clock (past ++ before.flatMap (events delivery job)) := by
  induction files generalizing past before with
  | nil => simp [ofServices] at split
  | cons file others ih =>
      obtain ⟨first, _, timed, _, made⟩ := ofServices_cons services delivery job past file others
      rw [made] at split
      cases before with
      | nil =>
          obtain ⟨rfl, _⟩ := List.cons.inj split
          rw [timed, List.flatMap_nil, List.append_nil]
      | cons earlier before =>
          obtain ⟨rfl, rest⟩ := List.cons.inj split
          rw [ih _ rest, List.flatMap_cons, List.append_assoc]

theorem FailureReport.budget_ofServices (past : Trace) (files : List FileResult) :
    ∀ report ∈ ofServices services delivery job past files,
      report.sending.KeepsBudget delivery.attempts := by
  induction files generalizing past with
  | nil =>
      intro report made
      cases made
  | cons file others ih =>
      obtain ⟨first, _, _, sent, made⟩ := ofServices_cons services delivery job past file others
      rw [made]
      intro report listed
      rcases List.mem_cons.mp listed with rfl | later
      · rw [sent]
        exact Sending.ofDelivery_keepsBudget ..
      · exact ih _ report later

end

/-! ## Which failure is kept -/

namespace FailureReport

variable {delivery : DeliveryBudget} {reports : List FailureReport}

theorem failure_eq_some_iff {report : FailureReport}
    (kept : report.sending.KeepsBudget delivery.attempts) (failure : Failure) :
    report.sending.failure .file 1 = some failure ↔
      ∃ reasons, report.sending.refusal? = some reasons ∧
        failure = .undelivered Table.file.name delivery.attempts (reasonsText reasons) := by
  have last (unposted : report.sending.isPosted = false) :
      1 + (report.sending.count - 1) = delivery.attempts := by
    have made := report.sending.count_pos
    have spent := kept.spent unposted
    omega
  rw [Sending.failure_eq, Option.map_eq_some_iff]
  constructor
  · rintro ⟨reasons, refused, rfl⟩
    exact ⟨reasons, refused, by rw [last (Sending.isPosted_eq_false_of_refusal refused)]⟩
  · rintro ⟨reasons, refused, rfl⟩
    exact ⟨reasons, refused, by rw [last (Sending.isPosted_eq_false_of_refusal refused)]⟩

theorem findSome_failure_eq_none_iff :
    reports.findSome? (fun report => report.sending.failure .file 1) = none ↔
      ∀ report ∈ reports, report.sending.isPosted = true := by
  rw [List.findSome?_eq_none_iff]
  exact forall₂_congr fun report _ => Sending.failure_eq_none_iff

theorem findSome_failure_eq_some_iff
    (kept : ∀ report ∈ reports, report.sending.KeepsBudget delivery.attempts)
    (failure : Failure) :
    reports.findSome? (fun report => report.sending.failure .file 1) = some failure ↔
      ∃ before report after reasons, reports = before ++ report :: after ∧
        (∀ earlier ∈ before, earlier.sending.isPosted = true) ∧
        report.sending.refusal? = some reasons ∧
        failure = .undelivered Table.file.name delivery.attempts (reasonsText reasons) := by
  rw [List.findSome?_eq_some_iff]
  constructor
  · rintro ⟨before, report, after, rfl, failed, fine⟩
    obtain ⟨reasons, refused, told⟩ :=
      (failure_eq_some_iff (kept report (by simp)) failure).mp failed
    exact ⟨before, report, after, reasons, rfl,
      fun earlier listed => Sending.failure_eq_none_iff.mp (fine earlier listed), refused, told⟩
  · rintro ⟨before, report, after, reasons, rfl, posted, refused, told⟩
    have failed :=
      (failure_eq_some_iff (kept report (by simp)) failure).mpr ⟨reasons, refused, told⟩
    exact ⟨before, report, after, rfl, failed,
      fun earlier listed => Sending.failure_eq_none_iff.mpr (posted earlier listed)⟩

end FailureReport

theorem Restores.reportFailed_reports (services : Services) (delivery : DeliveryBudget)
    (job : Job) (files : List FileResult) (past : Trace) :
    ∃ failure? added reports,
      reportFailed services delivery job files past = (.ok failure?, added) ∧
        ReportsFailures services delivery job past files failure? added reports := by
  have reported := reportFailed_eq services delivery job past files
  have answered := reportFailed_records services delivery job files past
  have kept := FailureReport.budget_ofServices services delivery job past files
  rw [FailureReport.failure_ofServices, FailureReport.events_ofServices] at reported
  rw [reported] at answered
  refine ⟨_, _, FailureReport.ofServices services delivery job past files, reported, ?_⟩
  exact {
    files := FailureReport.map_file_ofServices services delivery job past files
    trace := rfl
    answered := answered
    timed := fun before report after split =>
      FailureReport.timed_ofServices services delivery job past files split
    budget := kept
    delivered := FailureReport.findSome_failure_eq_none_iff
    failed := FailureReport.findSome_failure_eq_some_iff kept }

/-! ## The end of a run -/

section

variable (services : Services) (delivery : DeliveryBudget) (plan : RestorePlan) (jobId : String)
  (granule : Granule) (past : Trace)

/-- A run comes to its reports: the job is announced, and the passes leave some granule. -/
def ComesToReports (final : Granule) (passed : Trace) : Prop :=
  let job : Job := ⟨jobId, granule.id, services.clock past, plan.bucket⟩
  ∃ announced requested files,
    deliver services delivery (.ofJob (.started job)) past = (.ok (), announced) ∧
      Restores.passesFrom services delivery plan job plan.passes.totalAttempts 1 granule.results
          (past ++ announced) = (.ok files, requested) ∧
      final = { granule with results := files } ∧ passed = announced ++ requested

/-- What a run gives after its reports: the failure that was kept of them, or else the granule, as
a failure when a file of it was never accepted. -/
structure EndsByReports (final : Granule) (failure? : Option Failure)
    (outcome : Except Failure Granule) : Prop where
  undelivered : ∀ failure, failure? = some failure → outcome = .error failure
  complete : failure? = none → final.unaccepted = [] → outcome = .ok final
  incomplete : failure? = none → final.unaccepted ≠ [] →
    outcome = .error (.incomplete jobId final)

variable {services delivery plan jobId granule past} {final : Granule} {passed : Trace}

theorem Restores.verdict_endsByReports (job : Job) (failure? : Option Failure)
    (final : Granule) : EndsByReports job.id final failure? (verdict job failure? final) := by
  cases failure? with
  | some failure => exact ⟨fun _ same => congrArg _ (Option.some.inj same), nofun, nofun⟩
  | none =>
      refine ⟨nofun, fun _ complete => ?_, fun _ waits => ?_⟩
      · exact if_pos (final.isComplete_iff_unaccepted_eq_nil.mpr complete)
      · exact if_neg (mt final.isComplete_iff_unaccepted_eq_nil.mp waits)

theorem ComesToReports.requestRestores_eq
    (comes : ComesToReports services delivery plan jobId granule past final passed) :
    requestRestores services delivery plan jobId granule past =
      ((Restores.conclude services delivery plan
          ⟨jobId, granule.id, services.clock past, plan.bucket⟩ final (past ++ passed)).1,
        passed ++ (Restores.conclude services delivery plan
          ⟨jobId, granule.id, services.clock past, plan.bucket⟩ final (past ++ passed)).2) := by
  obtain ⟨announced, requested, files, delivered, ended, rfl, rfl⟩ := comes
  unfold requestRestores
  rw [Procedure.bind_of_ok (services.now_apply past), List.append_nil,
    Procedure.bind_of_ok delivered, Procedure.bind_of_ok ended]
  simp only [List.nil_append, List.append_assoc]

theorem ComesToReports.ends
    (comes : ComesToReports services delivery plan jobId granule past final passed)
    {failure? : Option Failure} {added : Trace}
    (reported : Restores.reportFailed services delivery
      ⟨jobId, granule.id, services.clock past, plan.bucket⟩ final.unaccepted (past ++ passed) =
        (.ok failure?, added)) :
    ∃ (outcome : Except Failure Granule) (records : List LogRecord),
      requestRestores services delivery plan jobId granule past =
          (outcome, passed ++ added ++ records.map Event.log) ∧
        EndsByReports jobId final failure? outcome := by
  have concluded := Restores.conclude_eq services delivery plan
    ⟨jobId, granule.id, services.clock past, plan.bucket⟩ final (past ++ passed) rfl
  have made := Restores.reportFailed_eq services delivery
    ⟨jobId, granule.id, services.clock past, plan.bucket⟩ (past ++ passed) final.unaccepted
  obtain ⟨sameFailure, sameEvents⟩ := Prod.mk.inj (reported.symm.trans made)
  rw [← Except.ok.inj sameFailure, ← sameEvents] at concluded
  obtain ⟨records, told⟩ : ∃ records : List LogRecord,
      Restores.verdictEvents plan ⟨jobId, granule.id, services.clock past, plan.bucket⟩ failure?
        final = records.map Event.log := by
    unfold Restores.verdictEvents
    cases failure? with
    | some failure => exact ⟨[], rfl⟩
    | none =>
        cases final.isComplete with
        | true => exact ⟨[], rfl⟩
        | false => exact ⟨[_], rfl⟩
  refine ⟨_, records, ?_, Restores.verdict_endsByReports
    ⟨jobId, granule.id, services.clock past, plan.bucket⟩ failure? final⟩
  rw [comes.requestRestores_eq, concluded, told, List.append_assoc]

/-- Only a run that comes to its reports gives results along with a failure. -/
theorem ComesToReports.of_incomplete {id : String}
    (ended : (requestRestores services delivery plan jobId granule past).1 =
      .error (.incomplete id final)) :
    ∃ left passed, ComesToReports services delivery plan jobId granule past left passed := by
  unfold requestRestores at ended
  rw [Procedure.bind_of_ok (services.now_apply past), List.append_nil] at ended
  dsimp only at ended
  rcases announced : deliver services delivery
    (.ofJob (.started ⟨jobId, granule.id, services.clock past, plan.bucket⟩)) past with
    ⟨failed | _, events⟩
  · obtain ⟨attempts, reasons, rfl⟩ := deliver_error_eq_undelivered announced
    rw [Procedure.bind_of_error announced] at ended
    cases ended
  · rw [Procedure.bind_of_ok announced] at ended
    rcases passed : Restores.passesFrom services delivery plan
      ⟨jobId, granule.id, services.clock past, plan.bucket⟩ plan.passes.totalAttempts 1
      granule.results (past ++ events) with ⟨failed | files, requested⟩
    · have bare := Restores.passesFrom_error_partialResult (by decide) passed
      rw [Procedure.bind_of_error passed] at ended
      cases ended
      cases bare
    · exact ⟨_, _, events, requested, files, announced, passed, rfl, rfl⟩

theorem requestRestores_eq_incomplete_iff {id : String} :
    (requestRestores services delivery plan jobId granule past).1 =
        .error (.incomplete id final) ↔
      id = jobId ∧ final.unaccepted ≠ [] ∧ ∃ passed,
        ComesToReports services delivery plan jobId granule past final passed ∧
        (Restores.reportFailed services delivery
          ⟨jobId, granule.id, services.clock past, plan.bucket⟩ final.unaccepted
          (past ++ passed)).1 = .ok none := by
  constructor
  · intro ended
    obtain ⟨left, passed, comes⟩ := ComesToReports.of_incomplete ended
    obtain ⟨failure?, added, reports, reported, made⟩ := Restores.reportFailed_reports services
      delivery ⟨jobId, granule.id, services.clock past, plan.bucket⟩ left.unaccepted
      (past ++ passed)
    obtain ⟨outcome, records, ran, ends⟩ := comes.ends reported
    rw [ran] at ended
    dsimp only at ended
    subst ended
    cases failure? with
    | some failure =>
        obtain ⟨_, _, _, _, _, _, _, told⟩ := (made.failed failure).mp rfl
        have same := ends.undelivered failure rfl
        rw [told] at same
        cases same
    | none =>
        by_cases complete : left.unaccepted = []
        · have same := ends.complete rfl complete
          cases same
        · have same := ends.incomplete rfl complete
          cases same
          exact ⟨rfl, complete, passed, comes, by rw [reported]⟩
  · rintro ⟨rfl, waits, passed, comes, delivered⟩
    rcases reported : Restores.reportFailed services delivery
      ⟨id, granule.id, services.clock past, plan.bucket⟩ final.unaccepted
      (past ++ passed) with ⟨outcome, added⟩
    rw [reported] at delivered
    dsimp only at delivered
    subst delivered
    obtain ⟨outcome, records, ran, ends⟩ := comes.ends reported
    rw [ran]
    exact ends.incomplete rfl waits

end

/-- After the passes each file that was never accepted is reported, whatever becomes of the reports
before. The first report that is not accepted decides how the run fails; the results come with a
failure exactly when all reports are accepted and there is one. -/
theorem requestRestores_reports_failures (services : Services) (delivery : DeliveryBudget)
    (plan : RestorePlan) (jobId : String) (granule : Granule) (past : Trace) :
    (∀ job files begun, ∃ failure? added reports,
      Restores.reportFailed services delivery job files begun = (.ok failure?, added) ∧
        ReportsFailures services delivery job begun files failure? added reports) ∧
    (∀ final passed failure? added,
      ComesToReports services delivery plan jobId granule past final passed →
      Restores.reportFailed services delivery
          ⟨jobId, granule.id, services.clock past, plan.bucket⟩ final.unaccepted
          (past ++ passed) = (.ok failure?, added) →
        ∃ (outcome : Except Failure Granule) (records : List LogRecord),
          requestRestores services delivery plan jobId granule past =
              (outcome, passed ++ added ++ records.map Event.log) ∧
            EndsByReports jobId final failure? outcome) ∧
    ∀ id final,
      (requestRestores services delivery plan jobId granule past).1 =
          .error (.incomplete id final) ↔
        id = jobId ∧ final.unaccepted ≠ [] ∧ ∃ passed,
          ComesToReports services delivery plan jobId granule past final passed ∧
          (Restores.reportFailed services delivery
            ⟨jobId, granule.id, services.clock past, plan.bucket⟩ final.unaccepted
            (past ++ passed)).1 = .ok none := by
  refine ⟨fun job files begun => ?_, fun final passed failure? added comes reported => ?_,
    fun id final => ?_⟩
  · exact Restores.reportFailed_reports services delivery job files begun
  · exact comes.ends reported
  · exact requestRestores_eq_incomplete_iff

/-! A queue that accepts the job and refuses the reports, and an archive that rejects everything. -/

def deafQueue : Services where
  probe _ _ _ := .present
  restore _ _ := .rejected ""
  send past message :=
    match message.table with
    | .job => .accepted
    | .file => .refused [if past.sends.length = 1 then "first" else "later"]
  clock _ := ⟨0, 0⟩

example :
    (requestRestores deafQueue (.of 1 .zero) ⟨"archive", 5, .standard, ⟨0, .zero⟩⟩ "job"
      twoFiles []).1 = .error (.undelivered "orca_recoverfile" 1 "first") := by
  rw [requestRestores_eq]
  rfl

end GranuleRecall
