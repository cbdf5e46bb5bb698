import GranuleRecall.Proofs.Course.Passes

/-! # How the restores of a granule go

The reports after the last pass, and a whole run as data: its course. A run does what its course
says, and ends as its course says. -/
set_option autoImplicit false

namespace GranuleRecall

/-! ## Reports after the last pass -/

namespace Notices

/-- The first failure to deliver one of some reports. -/
def failure (notices : List Notice) : Option Failure :=
  notices.findSome? fun notice => notice.sending.failure .file 1

variable (services : Services) (delivery : DeliveryBudget) (job : Job)

/-- What happens when files are reported as failed. -/
def events (files : List FileResult) (notices : List Notice) : Trace :=
  (List.zipWith (fun file notice =>
    notice.sending.events delivery (Restores.failedMessage job file notice.time) 1)
    files notices).flatten

/-- The reports that come of the services' answers. -/
def ofServices (past : Trace) : List FileResult → List Notice
  | [] => []
  | file :: others =>
    let time := services.clock past
    let message := Restores.failedMessage job file time
    let sending := Sending.ofDelivery services delivery message past
    ⟨time, sending⟩ :: ofServices (past ++ sending.events delivery message 1) others

@[simp] theorem length_ofServices (past : Trace) (files : List FileResult) :
    (ofServices services delivery job past files).length = files.length := by
  induction files generalizing past with
  | nil => rfl
  | cons file others ih => simp [ofServices, ih]

end Notices

theorem Restores.failureMessage_ne_empty (file : FileResult) :
    Restores.failureMessage file ≠ "" := by
  unfold Restores.failureMessage
  split
  next => decide
  next given => simpa using given

section

variable (services : Services) (delivery : DeliveryBudget) (job : Job)

/-- A report on a failed file always has a message, so none is refused as an event. -/
theorem Restores.reportFile_eq (past : Trace) (file : FileResult) {message : Message}
    (told : message = Restores.failedMessage job file (services.clock past)) :
    Restores.reportFile services delivery job file past =
      (.ok (Procedure.endedBy
        ((Sending.ofDelivery services delivery message past).failure .file 1) ()),
        (Sending.ofDelivery services delivery message past).events delivery message 1) := by
  subst told
  unfold Restores.reportFile
  rw [Procedure.bind_of_ok (services.now_apply past),
    FileEvent.failed_eq_ok (Restores.failureMessage_ne_empty file), List.append_nil]
  dsimp only
  rw [Procedure.attempt_apply, deliver_eq]
  rfl

theorem Restores.reportFailed_eq (past : Trace) (files : List FileResult) :
    Restores.reportFailed services delivery job files past =
      (.ok (Notices.failure (Notices.ofServices services delivery job past files)),
        Notices.events delivery job files
          (Notices.ofServices services delivery job past files)) := by
  induction files generalizing past with
  | nil => rfl
  | cons file others ih =>
      have reported := Restores.reportFile_eq services delivery job past file rfl
      simp only [Restores.reportFailed, Notices.ofServices]
      generalize Sending.ofDelivery services delivery
        (Restores.failedMessage job file (services.clock past)) past = sending at reported
      rw [Procedure.bind_of_ok reported, Procedure.bind_of_ok (ih _)]
      cases failed : sending.failure .file 1 with
      | some failure => simp [Procedure.endedBy, Notices.failure, Notices.events, failed]
      | none => simp [Procedure.endedBy, Notices.failure, Notices.events, failed]

end

/-! ## The end of a run -/

namespace Restores

def verdict (job : Job) (failure : Option Failure) (final : Granule) : Except Failure Granule :=
  match failure with
  | some failure => .error failure
  | none => if final.isComplete then .ok final else .error (.incomplete job.id final)

def verdictEvents (plan : RestorePlan) (job : Job) (failure : Option Failure)
    (final : Granule) : Trace :=
  match failure with
  | some _ => []
  | none => if final.isComplete then [] else [.log (incompleteRecord plan job final)]

theorem conclude_eq (services : Services) (delivery : DeliveryBudget) (plan : RestorePlan)
    (job : Job) (final : Granule) (past : Trace) {notices : List Notice}
    (reported : notices = Notices.ofServices services delivery job past final.unaccepted) :
    conclude services delivery plan job final past =
      (verdict job (Notices.failure notices) final,
        Notices.events delivery job final.unaccepted notices ++
          verdictEvents plan job (Notices.failure notices) final) := by
  subst reported
  unfold conclude
  rw [Procedure.bind_of_ok (reportFailed_eq services delivery job past _)]
  cases failed : Notices.failure
      (Notices.ofServices services delivery job past final.unaccepted) with
  | some failure => rfl
  | none =>
      cases complete : final.isComplete with
      | true => simp [verdict, verdictEvents, complete]
      | false =>
          simp only [Bool.false_eq_true, ↓reduceIte]
          rw [Procedure.bind_of_ok (Procedure.tell_apply _ _)]
          simp [verdict, verdictEvents, complete]

end Restores

/-! ## The whole course -/

/-- How the restores of a granule go: the announcement of the job, the passes, and the reports on
files that were never accepted. What comes after a failure is empty. -/
structure Course where
  job : Job
  announcement : Sending
  passes : List (List Turn)
  notices : List Notice
deriving DecidableEq, Repr

namespace Course

/-! A course is aborted by a failure to announce the job or by a failure in a pass. A failure to
deliver a report after the last pass is remembered, but does not abort. -/

def abort (course : Course) : Option Failure :=
  (course.announcement.failure .job 1).or (Passes.failure 1 course.passes)

def failure (course : Course) : Option Failure :=
  course.abort.or (Notices.failure course.notices)

section

variable (delivery : DeliveryBudget) (plan : RestorePlan) (course : Course) (granule : Granule)

/-- The granule after all passes that were made. -/
def final : Granule :=
  { granule with results := Passes.after granule.results course.passes }

def outcome : Except Failure Granule :=
  Restores.verdict course.job course.failure (course.final granule)

def announcementEvents : Trace :=
  course.announcement.events delivery (.ofJob (.started course.job)) 1

def passEvents : Trace :=
  Passes.events delivery plan course.job 1 granule.results course.passes

def noticeEvents : Trace :=
  Notices.events delivery course.job (course.final granule).unaccepted course.notices

def verdictEvents : Trace :=
  Restores.verdictEvents plan course.job course.failure (course.final granule)

theorem verdictEvents_eq :
    course.verdictEvents plan granule = [] ∨
      course.verdictEvents plan granule =
        [.log (Restores.incompleteRecord plan course.job (course.final granule))] := by
  unfold verdictEvents Restores.verdictEvents
  cases course.failure with
  | some failure => exact .inl rfl
  | none =>
      cases (course.final granule).isComplete with
      | true => exact .inl rfl
      | false => exact .inr rfl

theorem view_verdictEvents {α : Type} {view : Trace → List α} (isView : Trace.IsView view)
    (quiet : view [.log (Restores.incompleteRecord plan course.job (course.final granule))] = []) :
    view (course.verdictEvents plan granule) = [] := by
  rcases course.verdictEvents_eq plan granule with none | told
  · rw [none]
    exact isView.nil
  · rw [told]
    exact quiet

theorem exists_verdictEvents_eq_logs :
    ∃ records : List LogRecord, course.verdictEvents plan granule = records.map Event.log := by
  rcases course.verdictEvents_eq plan granule with none | told
  · exact ⟨[], none⟩
  · exact ⟨[_], told⟩

def events : Trace :=
  course.announcementEvents delivery ++ course.passEvents delivery plan granule ++
    course.noticeEvents delivery granule ++ course.verdictEvents plan granule

/-! The outcome and the trace of a course that ends with the announcement, with a pass, or after
all passes. -/

variable {job : Job} {announcement : Sending} {passes : List (List Turn)} {failed : Failure}

theorem ran_unannounced (unannounced : announcement.failure .job 1 = some failed) :
    (outcome ⟨job, announcement, [], []⟩ granule,
        events delivery plan ⟨job, announcement, [], []⟩ granule) =
      (.error failed, announcement.events delivery (.ofJob (.started job)) 1) := by
  simp [outcome, failure, abort, unannounced, Restores.verdict, events, announcementEvents,
    passEvents, noticeEvents, verdictEvents, Restores.verdictEvents, Passes.events,
    Passes.traces, Notices.events]

variable (announced : announcement.failure .job 1 = none)

include announced

theorem ran_aborted (aborted : Passes.failure 1 passes = some failed) :
    (outcome ⟨job, announcement, passes, []⟩ granule,
        events delivery plan ⟨job, announcement, passes, []⟩ granule) =
      (.error failed,
        announcement.events delivery (.ofJob (.started job)) 1 ++
          Passes.events delivery plan job 1 granule.results passes) := by
  simp [outcome, failure, abort, announced, aborted, Restores.verdict, events,
    announcementEvents, passEvents, noticeEvents, verdictEvents, Restores.verdictEvents,
    Notices.events]

theorem ran_reported (passed : Passes.failure 1 passes = none) (notices : List Notice)
    {final : Granule}
    (ended : final = { granule with results := Passes.after granule.results passes }) :
    (outcome ⟨job, announcement, passes, notices⟩ granule,
        events delivery plan ⟨job, announcement, passes, notices⟩ granule) =
      (Restores.verdict job (Notices.failure notices) final,
        announcement.events delivery (.ofJob (.started job)) 1 ++
          Passes.events delivery plan job 1 granule.results passes ++
          (Notices.events delivery job final.unaccepted notices ++
            Restores.verdictEvents plan job (Notices.failure notices) final)) := by
  subst ended
  simp [outcome, failure, abort, announced, passed, events, announcementEvents, passEvents,
    noticeEvents, verdictEvents, Course.final]

end

/-- The course that comes of the services' answers. -/
def ofServices (services : Services) (delivery : DeliveryBudget) (plan : RestorePlan)
    (jobId : String) (granule : Granule) (past : Trace) : Course :=
  let job : Job := ⟨jobId, granule.id, services.clock past, plan.bucket⟩
  let announcement := Sending.ofDelivery services delivery (.ofJob (.started job)) past
  match announcement.failure .job 1 with
  | some _ => ⟨job, announcement, [], []⟩
  | none =>
    let announced := past ++ announcement.events delivery (.ofJob (.started job)) 1
    let passes := Passes.ofServices services delivery plan job plan.passes.totalAttempts 1
      announced granule.results
    match Passes.failure 1 passes with
    | some _ => ⟨job, announcement, passes, []⟩
    | none =>
      let passed := announced ++ Passes.events delivery plan job 1 granule.results passes
      let final : Granule := { granule with results := Passes.after granule.results passes }
      ⟨job, announcement, passes, Notices.ofServices services delivery job passed final.unaccepted⟩

end Course

/-- The courses that a run for a granule can have. -/
inductive CourseRuns (plan : RestorePlan) (granule : Granule) : Course → Prop
  | unannounced {job : Job} {announcement : Sending} :
      announcement.isPosted = false → CourseRuns plan granule ⟨job, announcement, [], []⟩
  | aborted {job : Job} {announcement : Sending} {passes : List (List Turn)}
      {failure : Failure} :
      announcement.isPosted = true →
      PassesRun plan.passes.totalAttempts 1 granule.results passes →
      Passes.failure 1 passes = some failure →
      CourseRuns plan granule ⟨job, announcement, passes, []⟩
  | reported {job : Job} {announcement : Sending} {passes : List (List Turn)}
      {notices : List Notice} :
      announcement.isPosted = true →
      PassesRun plan.passes.totalAttempts 1 granule.results passes →
      Passes.failure 1 passes = none →
      notices.length =
        (Granule.unaccepted
          { granule with results := Passes.after granule.results passes }).length →
      CourseRuns plan granule ⟨job, announcement, passes, notices⟩

section

variable (services : Services) (delivery : DeliveryBudget) (plan : RestorePlan)

@[simp] theorem Course.job_ofServices (jobId : String) (granule : Granule) (past : Trace) :
    (Course.ofServices services delivery plan jobId granule past).job =
      ⟨jobId, granule.id, services.clock past, plan.bucket⟩ := by
  simp only [ofServices]
  split
  · rfl
  · split <;> rfl

theorem Course.ofServices_runs (jobId : String) (granule : Granule) (past : Trace) :
    CourseRuns plan granule (ofServices services delivery plan jobId granule past) := by
  simp only [ofServices]
  generalize (⟨jobId, granule.id, services.clock past, plan.bucket⟩ : Job) = job
  cases undelivered : (Sending.ofDelivery services delivery (.ofJob (.started job))
      past).failure .job 1 with
  | some failure =>
      apply CourseRuns.unannounced
      rw [Bool.eq_false_iff]
      intro posted
      rw [Sending.failure_eq_none_iff.mpr posted] at undelivered
      cases undelivered
  | none =>
      have posted := Sending.failure_eq_none_iff.mp undelivered
      have run := Passes.ofServices_run services delivery plan job plan.passes.totalAttempts 1
        (past ++ (Sending.ofDelivery services delivery (.ofJob (.started job)) past).events
          delivery (.ofJob (.started job)) 1) granule.results
      dsimp only
      split
      next aborted => exact .aborted posted run aborted
      next fine => exact .reported posted run fine (Notices.length_ofServices ..)

theorem requestRestores_eq (jobId : String) (granule : Granule) (past : Trace) :
    requestRestores services delivery plan jobId granule past =
      ((Course.ofServices services delivery plan jobId granule past).outcome granule,
        (Course.ofServices services delivery plan jobId granule past).events
          delivery plan granule) := by
  unfold requestRestores
  rw [Procedure.bind_of_ok (services.now_apply past), List.append_nil]
  simp only [Course.ofServices]
  generalize made : (⟨jobId, granule.id, services.clock past, plan.bucket⟩ : Job) = job
  have announced := deliver_eq services delivery (.ofJob (.started job)) past
  generalize Sending.ofDelivery services delivery (.ofJob (.started job)) past = announcement
    at announced ⊢
  change _ = (Procedure.endedBy (announcement.failure .job 1) (), _) at announced
  cases undelivered : announcement.failure .job 1 with
  | some failure =>
      rw [undelivered] at announced
      rw [Procedure.bind_of_error announced]
      exact (Course.ran_unannounced delivery plan granule undelivered).symm
  | none =>
      rw [undelivered] at announced
      rw [Procedure.bind_of_ok announced]
      have passed := Restores.passesFrom_eq services delivery plan job plan.passes.totalAttempts
        1 (past ++ announcement.events delivery (.ofJob (.started job)) 1) granule.results
        (by decide)
      dsimp only
      generalize Passes.ofServices services delivery plan job plan.passes.totalAttempts 1
        (past ++ announcement.events delivery (.ofJob (.started job)) 1) granule.results = passes
        at passed ⊢
      cases aborted : Passes.failure 1 passes with
      | some failure =>
          rw [aborted] at passed
          rw [Procedure.bind_of_error passed]
          exact (Course.ran_aborted delivery plan granule undelivered aborted).symm
      | none =>
          rw [aborted] at passed
          rw [Procedure.bind_of_ok passed,
            Restores.conclude_eq services delivery plan job _ _ rfl]
          dsimp only
          rw [Course.ran_reported delivery plan granule undelivered aborted _ rfl]
          simp only [List.append_assoc, List.nil_append]

/-- A run ends with the announcement, with a pass, or with the reports on failed files. -/
theorem requestRestores_eq_stages (jobId : String) (granule : Granule) (past : Trace)
    {job : Job} {announcement : Sending} {passes : List (List Turn)} {notices : List Notice}
    {final : Granule}
    (made : job = ⟨jobId, granule.id, services.clock past, plan.bucket⟩)
    (announced :
      announcement = Sending.ofDelivery services delivery (.ofJob (.started job)) past)
    (passed : passes =
      Passes.ofServices services delivery plan job plan.passes.totalAttempts 1
        (past ++ announcement.events delivery (.ofJob (.started job)) 1) granule.results)
    (ended : final = { granule with results := Passes.after granule.results passes })
    (reported : notices =
      Notices.ofServices services delivery job
        (past ++ announcement.events delivery (.ofJob (.started job)) 1 ++
          Passes.events delivery plan job 1 granule.results passes) final.unaccepted) :
    requestRestores services delivery plan jobId granule past =
      match announcement.failure .job 1 with
      | some failure => (.error failure, announcement.events delivery (.ofJob (.started job)) 1)
      | none =>
          match Passes.failure 1 passes with
          | some failure =>
              (.error failure,
                announcement.events delivery (.ofJob (.started job)) 1 ++
                  Passes.events delivery plan job 1 granule.results passes)
          | none =>
              (Restores.verdict job (Notices.failure notices) final,
                announcement.events delivery (.ofJob (.started job)) 1 ++
                  Passes.events delivery plan job 1 granule.results passes ++
                  (Notices.events delivery job final.unaccepted notices ++
                    Restores.verdictEvents plan job (Notices.failure notices) final)) := by
  rw [requestRestores_eq]
  simp only [Course.ofServices, ← made, ← announced, ← passed, ← ended, ← reported]
  cases unannounced : announcement.failure .job 1 with
  | some failure => exact Course.ran_unannounced delivery plan granule unannounced
  | none =>
      cases aborted : Passes.failure 1 passes with
      | some failure => exact Course.ran_aborted delivery plan granule unannounced aborted
      | none => exact Course.ran_reported delivery plan granule unannounced aborted notices ended

end

end GranuleRecall
