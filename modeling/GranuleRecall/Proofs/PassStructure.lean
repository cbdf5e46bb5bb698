import GranuleRecall.Proofs.Course.Answers
import GranuleRecall.Proofs.Course.Requests

/-! # The structure of the passes

When nothing aborts a run, its trace falls into the announcement of the job, the passes with one
wait between each two of them, and the reports on failed files. A pass requests every entry that
is not settled, and passes are made until all entries are settled or the budget is used up. -/

set_option autoImplicit false

namespace GranuleRecall

/-! ## How many passes there are -/

/-- The number of the first pass, out of some count, after which all entries are settled, or that
count when there is none. -/
def Granule.passCount (granule : Granule) (attempts : Nat) (passes : List (List FileRequest)) :
    Nat :=
  ((List.range' 1 attempts).find? fun count =>
    (granule.unsettled (passes.take count)).isEmpty).getD attempts

theorem waitingPositions_eq_nil_iff {files : List FileResult} :
    waitingPositions 0 files = [] ↔ files.all (·.accepted) = true := by
  rw [waitingPositions_eq_filter, List.filter_eq_nil_iff, List.all_eq_true]
  constructor
  · intro settled file member
    obtain ⟨position, within, rfl⟩ := List.getElem_of_mem member
    simpa [within] using settled position (List.mem_range.mpr within)
  · intro accepted position listed
    have within := List.mem_range.mp listed
    simpa [within] using accepted files[position] (List.getElem_mem within)

namespace PassesRun

variable {passesLeft attempt : Nat} {files : List FileResult} {passes : List (List Turn)}

theorem pass_runs (run : PassesRun passesLeft attempt files passes) {pass : Nat}
    {turns : List Turn} (made : passes[pass]? = some turns) :
    PassRuns (Passes.after files (passes.take pass)) turns := by
  induction run generalizing pass with
  | spent => cases made
  | failed ran _ =>
      cases pass with
      | zero =>
          cases made
          exact ran
      | succ pass => cases made
  | last ran _ _ =>
      cases pass with
      | zero =>
          cases made
          exact ran
      | succ pass => cases made
  | repeated ran _ _ _ _ _ ih =>
      cases pass with
      | zero =>
          cases made
          exact ran
      | succ pass => exact ih made

/-- Before the last pass some entry still waits. -/
theorem waiting_of_lt (run : PassesRun passesLeft attempt files passes) {count : Nat}
    (made : 0 < count) (more : count < passes.length) :
    waitingPositions 0 (Passes.after files (passes.take count)) ≠ [] := by
  induction run generalizing count with
  | spent => cases more
  | failed _ _ =>
      rw [List.length_singleton] at more
      omega
  | last _ _ _ =>
      rw [List.length_singleton] at more
      omega
  | repeated _ _ _ _ waits _ ih =>
      rcases count with _ | _ | count
      · cases made
      · intro settled
        have complete := waitingPositions_eq_nil_iff.mp settled
        rw [List.take_succ_cons, List.take_zero] at complete
        cases waits.symm.trans complete
      · exact ih (Nat.succ_pos count) (Nat.lt_of_succ_lt_succ more)

/-- After the last pass no entry waits, or the budget is used up. -/
theorem settled_or_spent (run : PassesRun passesLeft attempt files passes)
    (fine : ∀ turns ∈ passes, Pass.failure turns = none)
    (counted : attempt + passesLeft ≤ passCountBound) :
    passes.length = passesLeft ∨ waitingPositions 0 (Passes.after files passes) = [] := by
  induction run with
  | spent => exact .inl rfl
  | failed _ failed =>
      rw [fine _ List.mem_cons_self] at failed
      cases failed
  | last _ _ stops =>
      rcases stops with uncounted | spent | settled
      · omega
      · exact .inl (by simp [spent])
      · exact .inr (waitingPositions_eq_nil_iff.mpr settled)
  | repeated _ _ _ _ _ _ ih =>
      rcases ih (fun turns made => fine turns (List.mem_cons_of_mem _ made)) (by omega) with
        spent | settled
      · exact .inl (congrArg (· + 1) spent)
      · exact .inr settled

end PassesRun

theorem Granule.passCount_eq {granule : Granule} {attempts : Nat}
    {passes : List (List FileRequest)} (positive : 0 < passes.length)
    (bounded : passes.length ≤ attempts)
    (unfinished : ∀ count, 0 < count → count < passes.length →
      granule.unsettled (passes.take count) ≠ [])
    (ended : passes.length = attempts ∨ granule.unsettled passes = []) :
    granule.passCount attempts passes = passes.length := by
  unfold passCount
  by_cases settled : granule.unsettled passes = []
  · have first : (List.range' 1 attempts).find? (fun count =>
        (granule.unsettled (passes.take count)).isEmpty) = some passes.length := by
      refine List.find?_range'_eq_some.mpr ⟨?_, ?_, ?_⟩
      · rw [List.take_length, settled]
        rfl
      · exact List.mem_range'_1.mpr (by omega)
      · intro count made more
        simpa using unfinished count (by omega) more
    rw [first]
    rfl
  · have spent : passes.length = attempts := ended.resolve_right settled
    have never : (List.range' 1 attempts).find? (fun count =>
        (granule.unsettled (passes.take count)).isEmpty) = none := by
      refine List.find?_range'_eq_none.mpr fun count made within => ?_
      by_cases more : count < passes.length
      · simpa using unfinished count (by omega) more
      · rw [List.take_of_length_le (by omega)]
        simpa using settled
    rw [never, spent]
    rfl

/-! ## The structure of a run -/

/-- What happens in each pass, given its requests. -/
def passTraces (delivery : DeliveryBudget) (plan : RestorePlan) (job : Job)
    (attempt : Nat) (passes : List (List FileRequest)) : List Trace :=
  (passes.zipIdx attempt).map fun (requests, number) =>
    requests.flatMap (FileRequest.events delivery plan job number)

/-- A trace falls into the publication of the job, passes with one wait between each two of them,
and further publications and records. The passes are as many as it takes to settle all entries,
or as may be made, and each requests the entries that the passes before it have not settled. -/
structure HasPasses (delivery : DeliveryBudget) (plan : RestorePlan) (job : Job)
    (granule : Granule) (trace : Trace) (announcement : Sending)
    (passes : List (List FileRequest)) (reports : List Publication)
    (records : List LogRecord) : Prop where
  trace :
    trace =
      announcement.events delivery (.ofJob (.started job)) 1 ++
        ((passTraces delivery plan job 1 passes).intersperse
          [.sleep plan.passes.sleep]).flatten ++
        reports.flatMap (Publication.events delivery) ++ records.map Event.log
  count :
    passes.length = granule.passCount (plan.passes.maxRetries.toNat + 1) passes
  requests : ∀ (pass : Nat) (requests : List FileRequest), passes[pass]? = some requests →
    requests.map FileRequest.position = granule.unsettled (passes.take pass)
  neverAgain : ∀ (pass : Nat) (requests : List FileRequest), passes[pass]? = some requests →
    ∀ request ∈ requests, granule.settled (passes.take pass) request.position = false
  onceEach : ∀ requests ∈ passes, (requests.map FileRequest.position).Nodup
  files : ∀ requests ∈ passes, ∀ request ∈ requests,
    granule.results[request.position]?.map FileResult.requested = some request.file

theorem PassesRun.traces_eq {passesLeft attempt : Nat} {files : List FileResult}
    {passes : List (List Turn)} (run : PassesRun passesLeft attempt files passes)
    (fine : ∀ turns ∈ passes, Pass.failure turns = none) (delivery : DeliveryBudget)
    (plan : RestorePlan) (job : Job) :
    Passes.traces delivery plan job attempt files passes =
      passTraces delivery plan job attempt
        (passes.map (Pass.requests (files.map FileResult.requested))) := by
  induction run with
  | spent => rfl
  | failed ran _ =>
      have passed := fine _ List.mem_cons_self
      simp [Passes.traces, passTraces, Pass.requests,
        ran.events_eq passed delivery plan job _ 0]
  | last ran _ _ =>
      have passed := fine _ List.mem_cons_self
      simp [Passes.traces, passTraces, Pass.requests,
        ran.events_eq passed delivery plan job _ 0]
  | repeated ran passed _ _ _ _ ih =>
      have rest := ih fun turns made => fine turns (List.mem_cons_of_mem _ made)
      rw [Pass.requested_after] at rest
      rw [Passes.traces, ran.events_eq passed delivery plan job _ 0, rest]
      rfl

theorem CourseRuns.passes_run {plan : RestorePlan} {granule : Granule} {course : Course}
    (run : CourseRuns plan granule course) (announced : course.announcement.isPosted = true) :
    PassesRun plan.passes.totalAttempts 1 granule.results course.passes := by
  cases run with
  | unannounced unposted => cases announced.symm.trans unposted
  | aborted _ ran _ => exact ran
  | reported _ ran _ _ => exact ran

/-- A pass of a run requests the entries that the passes before it have not settled. -/
theorem PassesRun.positions_requests {passesLeft attempt : Nat} {granule : Granule}
    {passes : List (List Turn)} (run : PassesRun passesLeft attempt granule.results passes)
    (fine : ∀ turns ∈ passes, Pass.failure turns = none) {pass : Nat}
    {requests : List FileRequest}
    (made : (passes.map (Pass.requests (granule.results.map FileResult.requested)))[pass]? =
      some requests) :
    requests.map FileRequest.position =
      granule.unsettled
        ((passes.map (Pass.requests (granule.results.map FileResult.requested))).take pass) := by
  rw [List.getElem?_map] at made
  obtain ⟨turns, turned, rfl⟩ := Option.map_eq_some_iff.mp made
  rw [← List.map_take, Granule.unsettled_eq,
    ← (run.pass_runs turned).positions_requests (fine turns (List.mem_of_getElem? turned)) 0,
    Passes.requested_after]
  rfl

theorem CourseRuns.hasPasses {plan : RestorePlan} {granule : Granule} {course : Course}
    (run : CourseRuns plan granule course)
    (counted : plan.passes.maxRetries.toNat ≤ passCountBound - 2)
    (unaborted : course.abort = none) (delivery : DeliveryBudget) :
    ∃ records,
      HasPasses delivery plan course.job granule (course.events delivery plan granule)
        course.announcement
        (course.passes.map (Pass.requests (granule.results.map FileResult.requested)))
        (Notices.publications course.job (course.final granule).waiting course.notices)
        records := by
  obtain ⟨announced, passed⟩ := Option.or_eq_none_iff.mp unaborted
  have fine : ∀ turns ∈ course.passes, Pass.failure turns = none :=
    List.findSome?_eq_none_iff.mp (Option.or_eq_none_iff.mp passed).1
  have ran := run.passes_run (Sending.failure_eq_none_iff.mp announced)
  have room := PassBudget.totalAttempts_counted counted
  rw [PassBudget.totalAttempts_eq counted] at ran room
  obtain ⟨records, told⟩ := course.exists_verdictEvents_eq_logs plan granule
  refine ⟨records, ?_, ?_, fun _ _ made => ran.positions_requests fine made, ?_, ?_, ?_⟩
  · rw [← ran.traces_eq fine, ← course.noticeEvents_eq, ← told]
    rfl
  · refine (Granule.passCount_eq ?_ ?_ ?_ ?_).symm
    · rw [List.length_map]
      exact List.length_pos_iff.mpr (ran.ne_nil (Nat.succ_ne_zero _))
    · rw [List.length_map]
      exact ran.length_le
    · intro count made more
      rw [List.length_map] at more
      rw [← List.map_take, Granule.unsettled_eq]
      exact ran.waiting_of_lt made more
    · rw [List.length_map, Granule.unsettled_eq]
      exact ran.settled_or_spent fine room
  · intro pass requests made request listed
    have place := List.mem_map_of_mem (f := FileRequest.position) listed
    rw [ran.positions_requests fine made] at place
    simpa using (List.mem_filter.mp place).2
  · intro requests made
    obtain ⟨pass, turned⟩ := List.getElem?_of_mem made
    rw [ran.positions_requests fine turned]
    exact List.nodup_range.filter _
  · intro requests made request listed
    obtain ⟨turns, _, rfl⟩ := List.mem_map.mp made
    obtain ⟨index, file, turn, asked, _, shown⟩ := Pass.mem_collect_iff.mp listed
    obtain ⟨place, rfl⟩ := Turn.mem_request shown
    rw [place, Nat.zero_add, ← List.getElem?_map, asked]

/-- The structure of a run whose queue accepts the job and all acceptances within their budgets
and whose archive answers every request. -/
theorem requestRestores_has_passes (services : Services) (delivery : DeliveryBudget)
    (plan : RestorePlan) (jobId : String) (granule : Granule) (past : Trace)
    (counted : plan.passes.maxRetries.toNat ≤ passCountBound - 2)
    (answers : services.AnswersRestores)
    (announced :
      ¬ (requestRestores services delivery plan jobId granule past).2.GivesUpOn
        (.ofJob (.started ⟨jobId, granule.id, services.clock past, plan.bucket⟩)))
    (reported : ∀ file time,
      ¬ (requestRestores services delivery plan jobId granule past).2.GivesUpOn
        (Restores.acceptedMessage ⟨jobId, granule.id, services.clock past, plan.bucket⟩ file
          time)) :
    ∃ announcement passes reports records,
      HasPasses delivery plan ⟨jobId, granule.id, services.clock past, plan.bucket⟩ granule
        (requestRestores services delivery plan jobId granule past).2 announcement passes
        reports records := by
  have run := Course.ofServices_runs services delivery plan jobId granule past
  rw [requestRestores_eq] at announced reported ⊢
  rw [← Course.job_ofServices services delivery plan jobId granule past] at announced reported ⊢
  have unaborted := run.abort_eq_none counted (Course.announcement_posted announced)
    (Course.acceptance_posted reported)
    (Course.unusable_not_mem answers delivery plan jobId granule past)
  obtain ⟨records, structured⟩ := run.hasPasses counted unaborted delivery
  exact ⟨_, _, _, records, structured⟩

/-! An archive that rejects the first request, and a queue that accepts everything. -/

def oneRejection : Services where
  probe _ _ _ := .present
  restore past _ := if past.restores.isEmpty then .rejected "busy" else .accepted
  send _ _ := .accepted
  clock _ := ⟨0, 0⟩

def twoFiles : Granule where
  id := "granule"
  requested := []
  results := [⟨"a", "target", false, ""⟩, ⟨"b", "target", false, ""⟩]
  extra := []

theorem oneRejection_answers : oneRejection.AnswersRestores := by
  intro past call
  unfold oneRejection
  by_cases first : past.restores.isEmpty = true
  · exact .inr ⟨"busy", if_pos first⟩
  · exact .inl (if_neg first)

theorem oneRejection_accepts : oneRejection.AcceptsSends := fun _ _ => rfl

theorem oneRejection_has_passes :
    ∃ announcement passes reports records,
      HasPasses (.of 1 .zero) ⟨"archive", 5, .standard, ⟨3, .zero⟩⟩
        ⟨"job", "granule", ⟨0, 0⟩, "archive"⟩ twoFiles
        (requestRestores oneRejection (.of 1 .zero) ⟨"archive", 5, .standard, ⟨3, .zero⟩⟩ "job"
          twoFiles []).2 announcement passes reports records := by
  have unrefused := requestRestores_not_givesUpOn oneRejection_accepts (.of 1 .zero)
    ⟨"archive", 5, .standard, ⟨3, .zero⟩⟩ "job" twoFiles []
  exact requestRestores_has_passes oneRejection (.of 1 .zero)
    ⟨"archive", 5, .standard, ⟨3, .zero⟩⟩ "job" twoFiles [] (by decide) oneRejection_answers
    (unrefused _) (fun _ _ => unrefused _)

end GranuleRecall
