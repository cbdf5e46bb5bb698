import GranuleRecall.Proofs.Course.Fates
import GranuleRecall.Proofs.QueueAgreement

/-! # Entries do not depend on each other

All entries of a granule share the passes: one count of passes serves them all, and passes are made
until the last of them is accepted. Still, with an archive that replies by the key and the number
of earlier requests for it, and a queue that accepts every message in time, each entry fares as if
it were the only one. -/

set_option autoImplicit false

namespace GranuleRecall

/-! ## Fates -/

/-- What the event of a file reports: its status, and the text of an error. -/
def FileEvent.report (event : FileEvent) : StatusCode × Option String :=
  (event.status, event.errorMessage)

/-- How an entry fares in a run: what it is after it, the replies to the requests for it, and what
the events about it report. -/
structure Fate where
  result : FileResult
  replies : List RestoreReply
  reports : List (StatusCode × Option String)
deriving DecidableEq, Repr

/-- What is reported on an entry that a run makes into another one. -/
def FileResult.reports (file result : FileResult) : List (StatusCode × Option String) :=
  if file.accepted then []
  else if result.accepted then [(.pending, none)]
  else [(.failed, some (Restores.failureMessage result))]

def FileResult.fate (rule : String → Nat → RestoreReply) (passes : Nat) (file : FileResult) :
    Fate where
  result := file.afterPasses rule passes 0
  replies := file.replies rule passes 0
  reports := file.reports (file.afterPasses rule passes 0)

/-- A run comes to its end, and the entries fare in it as told, in the order of the list. -/
structure HasFates (job : Job) (granule : Granule) (ran : Except Failure Granule × Trace)
    (fates : List Fate) : Prop where
  files :
    fates.map (·.result.requested) = granule.results.map FileResult.requested
  outcome :
    ran.1 =
      let final : Granule := { granule with results := fates.map Fate.result }
      if final.isComplete then .ok final else .error (.incomplete job.id final)
  replies : ∀ fate ∈ fates, ran.2.repliesFor fate.result.key = fate.replies
  reports : ∃ events : List FileEvent,
    ran.2.acceptedMessages = .ofJob (.started job) :: events.map Message.ofFile ∧
      ∀ fate ∈ fates,
        (events.filter (·.key = fate.result.key)).map FileEvent.report = fate.reports

/-- In a run no request was made before it, the archive accepts or rejects by the key and the
number of earlier requests for it, and every message is accepted within its budget. -/
structure RunsByCount (rule : String → Nat → RestoreReply) (services : Services)
    (delivery : DeliveryBudget) (plan : RestorePlan) (jobId : String) (granule : Granule)
    (past : Trace) : Prop where
  fresh : past.restores = []
  byCount : services.RepliesByCount rule
  answers : services.AnswersRestores
  delivered : ∀ message,
    ¬ (requestRestores services delivery plan jobId granule past).2.GivesUpOn message

/-! ## Reports -/

def Restores.acceptedEvent (job : Job) (acceptance : Acceptance) : FileEvent :=
  .pending job (.pending acceptance.file) acceptance.notice.time

def Restores.failedEvent (job : Job) (file : FileResult) (time : Time.Instant) : FileEvent :=
  .withStatus job file .failed (some (failureMessage file)) time

theorem Restores.report_failedEvent (job : Job) (file : FileResult) (time : Time.Instant) :
    (failedEvent job file time).report = (.failed, some (failureMessage file)) := by
  have told := failureMessage_ne_empty file
  simp [failedEvent, FileEvent.report, FileEvent.withStatus, Option.filter, told]

theorem Restores.reports_failedEvents (job : Job) (key : String) {files : List FileResult}
    {times : List Time.Instant} (timed : times.length = files.length) :
    ((List.zipWith (failedEvent job) files times).filter (·.key = key)).map FileEvent.report =
      (files.filter (·.key = key)).map fun file => (.failed, some (failureMessage file)) := by
  induction files generalizing times with
  | nil => rfl
  | cons file others ih =>
      cases times with
      | nil => cases timed
      | cons time times =>
          have rest := ih (Nat.succ.inj timed)
          have eventKey : (failedEvent job file time).key = file.key := rfl
          rw [List.zipWith_cons_cons]
          by_cases same : file.key = key
          · rw [List.filter_cons_of_pos (by simpa [eventKey] using same),
              List.filter_cons_of_pos (by simpa using same), List.map_cons, List.map_cons,
              report_failedEvent, rest]
          · rw [List.filter_cons_of_neg (by simpa [eventKey] using same),
              List.filter_cons_of_neg (by simpa using same), rest]

namespace AgreesWithQueue

variable {plan : RestorePlan} {job : Job} {arrived final : Granule} {trace : Trace}
  {acceptances : List Acceptance} {failureTimes : List Time.Instant}
  (agrees : AgreesWithQueue plan job arrived final trace acceptances failureTimes)
  (distinct : (arrived.results.map FileResult.key).Nodup)

include agrees

theorem acceptedMessages_eq :
    trace.acceptedMessages =
      .ofJob (.started job) ::
        (acceptances.map (Restores.acceptedEvent job) ++
          List.zipWith (Restores.failedEvent job) final.unaccepted failureTimes).map
            Message.ofFile := by
  rw [agrees.messages, List.map_append, List.map_map, List.map_zipWith]
  rfl

theorem keys_eq : final.results.map FileResult.key = arrived.results.map FileResult.key :=
  keys_eq_of_requested_eq agrees.sameFiles

include distinct

/-- With distinct keys an acceptance is of the entry at a position when it is of its key. -/
theorem filter_acceptances {position : Nat} {file : FileResult}
    (listed : arrived.results[position]? = some file) :
    acceptances.filter (·.file.key = file.key) =
      acceptances.filter (·.position = position) := by
  refine List.filter_congr fun acceptance made => decide_eq_decide.mpr ?_
  have asked := agrees.files acceptance made
  obtain ⟨other, found, sameFile⟩ := Option.map_eq_some_iff.mp asked
  constructor
  · intro sameKey
    have within : acceptance.position < (arrived.results.map FileResult.key).length := by
      rw [List.length_map]
      exact (List.getElem?_eq_some_iff.mp found).1
    refine (List.getElem?_inj within distinct).mp ?_
    rw [List.getElem?_map, List.getElem?_map, found, listed]
    exact congrArg some ((congrArg RequestedFile.key sameFile).trans sameKey)
  · rintro rfl
    rw [listed] at found
    cases found
    rw [← sameFile]
    rfl

theorem reports_acceptances {position : Nat} {file result : FileResult}
    (listed : arrived.results[position]? = some file)
    (ended : final.results[position]? = some result) :
    ((acceptances.map (Restores.acceptedEvent job)).filter (·.key = file.key)).map
        FileEvent.report =
      if file.accepted = false ∧ result.accepted = true then [(.pending, none)] else [] := by
  have sameKey : acceptances.filter ((fun event : FileEvent => decide (event.key = file.key)) ∘
      Restores.acceptedEvent job) = acceptances.filter (·.position = position) :=
    agrees.filter_acceptances distinct listed
  have accepted := agrees.positions position
  rw [listed, ended, Option.map_some, Option.map_some, Option.some_inj, Option.some_inj]
    at accepted
  rw [List.filter_map, sameKey]
  split
  next inRun =>
    obtain ⟨acceptance, made, rfl⟩ := List.mem_map.mp (accepted.mpr inRun)
    rw [filter_key_eq_singleton agrees.positionsOnce made]
    rfl
  next notInRun =>
    have none : acceptances.filter (·.position = position) = [] := by
      refine List.filter_eq_nil_iff.mpr fun acceptance made same => notInRun ?_
      exact accepted.mp (List.mem_map.mpr ⟨acceptance, made, of_decide_eq_true same⟩)
    rw [none]
    rfl

theorem reports_unaccepted {position : Nat} {file result : FileResult}
    (listed : arrived.results[position]? = some file)
    (ended : final.results[position]? = some result) :
    ((List.zipWith (Restores.failedEvent job) final.unaccepted failureTimes).filter
        (·.key = file.key)).map FileEvent.report =
      if result.accepted then [] else [(.failed, some (Restores.failureMessage result))] := by
  have sameKey : file.key = result.key := by
    have same := congrArg (·[position]?) agrees.keys_eq
    simp only [List.getElem?_map, listed, ended] at same
    exact (Option.some.inj same).symm
  have once : (final.results.map FileResult.key).Nodup := agrees.keys_eq ▸ distinct
  have alone := filter_key_eq_singleton once (List.mem_of_getElem? ended)
  rw [Restores.reports_failedEvents job file.key agrees.failuresTimed, Granule.unaccepted,
    List.filter_comm, sameKey, alone]
  cases settled : result.accepted with
  | true => simp [settled]
  | false => simp [settled]

theorem reports {position : Nat} {file result : FileResult}
    (listed : arrived.results[position]? = some file)
    (ended : final.results[position]? = some result) :
    ((acceptances.map (Restores.acceptedEvent job) ++
        List.zipWith (Restores.failedEvent job) final.unaccepted failureTimes).filter
          (·.key = file.key)).map FileEvent.report =
      file.reports result := by
  rw [List.filter_append, List.map_append, agrees.reports_acceptances distinct listed ended,
    agrees.reports_unaccepted distinct listed ended, FileResult.reports]
  cases settled : file.accepted with
  | true =>
      have stays := agrees.staysAccepted position (by rw [listed, Option.map_some, settled])
      rw [ended, Option.map_some, Option.some_inj] at stays
      simp [stays]
  | false =>
      cases result.accepted with
      | true => rfl
      | false => rfl

end AgreesWithQueue

/-! ## A whole run -/

theorem Course.ofServices_tellsFates {services : Services} {rule : String → Nat → RestoreReply}
    (byCount : services.RepliesByCount rule) (delivery : DeliveryBudget) (plan : RestorePlan)
    (jobId : String) (granule : Granule) (past : Trace)
    (counted : plan.passes.maxRetries.toNat ≤ passCountBound - 2)
    (distinct : (granule.results.map FileResult.key).Nodup)
    (unaborted : (ofServices services delivery plan jobId granule past).abort = none) :
    TellsFates rule (plan.passes.maxRetries.toNat + 1)
      (fun key => (past.repliesFor key).length) granule.results
      ((ofServices services delivery plan jobId granule past).final granule).results
      ((ofServices services delivery plan jobId granule past).passEvents delivery plan
        granule) := by
  obtain ⟨announced, passed⟩ := Option.or_eq_none_iff.mp unaborted
  have posted := Sending.failure_eq_none_iff.mp announced
  have fine := List.findSome?_eq_none_iff.mp (Option.or_eq_none_iff.mp passed).1
  have room := PassBudget.totalAttempts_counted counted
  have made := passes_ofServices delivery plan jobId granule past posted
  have quiet : ((ofServices services delivery plan jobId granule past).announcementEvents
      delivery).restores = [] := Sending.restores_events ..
  rw [made] at fine
  rw [PassBudget.totalAttempts_eq counted] at fine made room
  have told := Passes.ofServices_tellsFates byCount delivery plan _ _ 1 _ distinct room fine
  simp only [Trace.repliesFor_append, Trace.repliesFor_of_restores_eq_nil quiet,
    List.append_nil] at told
  rw [final, passEvents, made, job_ofServices]
  exact told

theorem Course.repliesFor_events (delivery : DeliveryBudget) (plan : RestorePlan)
    (course : Course) (granule : Granule) (key : String) :
    (course.events delivery plan granule).repliesFor key =
      (course.passEvents delivery plan granule).repliesFor key := by
  rw [Trace.repliesFor, Course.restores_events]
  rfl

/-- The fates of entries in a run that nothing cuts short. -/
theorem requestRestores_hasFates {rule : String → Nat → RestoreReply} {services : Services}
    {delivery : DeliveryBudget} {plan : RestorePlan} {jobId : String} {granule : Granule}
    {past : Trace} (counted : plan.passes.maxRetries.toNat ≤ passCountBound - 2)
    (distinct : (granule.results.map FileResult.key).Nodup)
    (served : RunsByCount rule services delivery plan jobId granule past) :
    HasFates ⟨jobId, granule.id, services.clock past, plan.bucket⟩ granule
      (requestRestores services delivery plan jobId granule past)
      (granule.results.map (FileResult.fate rule (plan.passes.maxRetries.toNat + 1))) := by
  have run := Course.ofServices_runs services delivery plan jobId granule past
  have delivered := served.delivered
  rw [requestRestores_eq] at delivered
  have posted := run.allPosted delivered
  have unaborted := run.abort_eq_none counted posted.announcement
    (Course.acceptance_posted fun _ _ => delivered _)
    (Course.unusable_not_mem served.answers delivery plan jobId granule past)
  have told := Course.ofServices_tellsFates served.byCount delivery plan jobId granule past
    counted distinct unaborted
  simp only [Trace.repliesFor_of_restores_eq_nil served.fresh, List.length_nil] at told
  rw [requestRestores_eq, ← Course.job_ofServices services delivery plan jobId granule past]
  generalize Course.ofServices services delivery plan jobId granule past = course at *
  have fine : course.failure = none :=
    Option.or_eq_none_iff.mpr ⟨unaborted, posted.notices_failure⟩
  have agrees := run.agreesWithQueue delivery fine
  have results : (granule.results.map
      (FileResult.fate rule (plan.passes.maxRetries.toNat + 1))).map Fate.result =
        (course.final granule).results := by
    rw [told.after, List.map_map]
    rfl
  refine ⟨?_, ?_, ?_, _, agrees.acceptedMessages_eq, ?_⟩
  · rw [List.map_map]
    exact List.map_congr_left fun file _ => file.afterReplies_requested _
  · rw [results]
    dsimp only
    unfold Course.outcome Restores.verdict
    rw [fine]
    rfl
  · intro fate made
    obtain ⟨file, listed, rfl⟩ := List.mem_map.mp made
    rw [Course.repliesFor_events]
    exact (congrArg (Trace.repliesFor · _) (FileResult.afterReplies_key ..)).trans
      (told.replies file listed)
  · intro fate made
    obtain ⟨file, listed, rfl⟩ := List.mem_map.mp made
    obtain ⟨position, found⟩ := List.getElem?_of_mem listed
    have ended : (course.final granule).results[position]? =
        some (file.afterPasses rule (plan.passes.maxRetries.toNat + 1) 0) := by
      rw [told.after, List.getElem?_map, found]
      rfl
    have sameKey : (FileResult.fate rule (plan.passes.maxRetries.toNat + 1) file).result.key =
        file.key := FileResult.afterReplies_key ..
    rw [sameKey]
    exact agrees.reports distinct found ended

/-- How an entry fares is told by the entry alone. It fares among others as in a run in which it is
the only one, and in whichever order the entries are listed, whatever the queues and the clocks
of the runs. -/
theorem requestRestores_fate_of_entry_alone {rule : String → Nat → RestoreReply}
    {plan : RestorePlan} (counted : plan.passes.maxRetries.toNat ≤ passCountBound - 2)
    {fateOf : FileResult → Fate}
    (fated : fateOf = FileResult.fate rule (plan.passes.maxRetries.toNat + 1))
    {services : Services} {delivery : DeliveryBudget} {jobId : String} {granule : Granule}
    {past : Trace} (distinct : (granule.results.map FileResult.key).Nodup)
    (served : RunsByCount rule services delivery plan jobId granule past) :
    HasFates ⟨jobId, granule.id, services.clock past, plan.bucket⟩ granule
        (requestRestores services delivery plan jobId granule past)
        (granule.results.map fateOf) ∧
      (∀ file ∈ granule.results, ∀ services delivery jobId past,
        RunsByCount rule services delivery plan jobId { granule with results := [file] } past →
          HasFates ⟨jobId, granule.id, services.clock past, plan.bucket⟩
            { granule with results := [file] }
            (requestRestores services delivery plan jobId { granule with results := [file] } past)
            [fateOf file]) ∧
      ∀ results, results.Perm granule.results → ∀ services delivery jobId past,
        RunsByCount rule services delivery plan jobId { granule with results := results } past →
          HasFates ⟨jobId, granule.id, services.clock past, plan.bucket⟩
            { granule with results := results }
            (requestRestores services delivery plan jobId { granule with results := results } past)
            (results.map fateOf) := by
  subst fated
  refine ⟨requestRestores_hasFates counted distinct served, ?_, ?_⟩
  · intro file _ services delivery jobId past alone
    have single : ([file].map FileResult.key).Nodup := List.nodup_singleton file.key
    exact requestRestores_hasFates counted single alone
  · intro results reordered services delivery jobId past served
    have sameKeys := reordered.map FileResult.key
    exact requestRestores_hasFates counted (sameKeys.nodup_iff.mpr distinct) served

/-! An archive that rejects the first request for each key, and one key every time: three entries,
the second of them alone, and the three in another order. -/

def patientRule (key : String) (earlier : Nat) : RestoreReply :=
  if key = "c" then .rejected "gone" else if earlier = 0 then .rejected "busy" else .accepted

def patientArchive : Services where
  probe _ _ _ := .present
  restore past call := patientRule call.key (past.repliesFor call.key).length
  send _ _ := .accepted
  clock past := ⟨past.length, 0⟩

def entriesOf (keys : List String) : Granule where
  id := "granule"
  requested := []
  results := keys.map fun key => .pending ⟨key, "target"⟩
  extra := []

theorem patientArchive_runs (keys : List String) :
    RunsByCount patientRule patientArchive (.of 1 .zero)
      ⟨"archive", 5, .standard, ⟨1, .zero⟩⟩ "job" (entriesOf keys) [] where
  fresh := rfl
  byCount := fun _ _ => rfl
  answers := by
    intro past call
    change patientRule _ _ = _ ∨ ∃ message, patientRule _ _ = _
    unfold patientRule
    split
    · exact .inr ⟨"gone", rfl⟩
    · split
      · exact .inr ⟨"busy", rfl⟩
      · exact .inl rfl
  delivered := requestRestores_not_givesUpOn (fun _ _ => rfl) _ _ _ _ _

theorem patientArchive_fate_of_entry_alone :
    HasFates ⟨"job", "granule", ⟨0, 0⟩, "archive"⟩ (entriesOf ["a", "b", "c"])
        (requestRestores patientArchive (.of 1 .zero) ⟨"archive", 5, .standard, ⟨1, .zero⟩⟩ "job"
          (entriesOf ["a", "b", "c"]) [])
        [⟨⟨"a", "target", true, ""⟩, [.rejected "busy", .accepted], [(.pending, none)]⟩,
          ⟨⟨"b", "target", true, ""⟩, [.rejected "busy", .accepted], [(.pending, none)]⟩,
          ⟨⟨"c", "target", false, "gone"⟩, [.rejected "gone", .rejected "gone"],
            [(.failed, some "gone")]⟩] ∧
      HasFates ⟨"job", "granule", ⟨0, 0⟩, "archive"⟩ (entriesOf ["b"])
        (requestRestores patientArchive (.of 1 .zero) ⟨"archive", 5, .standard, ⟨1, .zero⟩⟩ "job"
          (entriesOf ["b"]) [])
        [⟨⟨"b", "target", true, ""⟩, [.rejected "busy", .accepted], [(.pending, none)]⟩] ∧
      HasFates ⟨"job", "granule", ⟨0, 0⟩, "archive"⟩ (entriesOf ["c", "b", "a"])
        (requestRestores patientArchive (.of 1 .zero) ⟨"archive", 5, .standard, ⟨1, .zero⟩⟩ "job"
          (entriesOf ["c", "b", "a"]) [])
        [⟨⟨"c", "target", false, "gone"⟩, [.rejected "gone", .rejected "gone"],
            [(.failed, some "gone")]⟩,
          ⟨⟨"b", "target", true, ""⟩, [.rejected "busy", .accepted], [(.pending, none)]⟩,
          ⟨⟨"a", "target", true, ""⟩, [.rejected "busy", .accepted], [(.pending, none)]⟩] := by
  have told := requestRestores_fate_of_entry_alone (by decide) rfl
    (by decide : ((entriesOf ["a", "b", "c"]).results.map FileResult.key).Nodup)
    (patientArchive_runs ["a", "b", "c"])
  obtain ⟨together, alone, reordered⟩ := told
  refine ⟨together, ?_, ?_⟩
  · exact alone (.pending ⟨"b", "target"⟩) (by decide) patientArchive (.of 1 .zero) "job" []
      (patientArchive_runs ["b"])
  · exact reordered (entriesOf ["c", "b", "a"]).results (by decide) patientArchive
      (.of 1 .zero) "job" [] (patientArchive_runs ["c", "b", "a"])

end GranuleRecall
