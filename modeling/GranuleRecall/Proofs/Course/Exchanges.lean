import GranuleRecall.Proofs.Course.Replies
import GranuleRecall.Proofs.Course.Requests

/-! # What an archive that goes by a rule is asked

When the archive replies by a rule, the queue accepts everything and the passes can be counted,
the files and the rule alone tell which restores are requested and what becomes of the files. -/

set_option autoImplicit false

namespace GranuleRecall

/-- What was asked and replied, and the files after it. -/
structure Exchanges where
  asked : List (RestoreCall × RestoreReply)
  files : List FileResult

def Exchanges.followedBy (first next : Exchanges) : Exchanges :=
  ⟨first.asked ++ next.asked, next.files⟩

/-! ## By the rule alone -/

section

variable (rule : List (RestoreCall × RestoreReply) → RestoreCall → RestoreReply)
  (callFor : FileResult → RestoreCall)

/-- A pass after some history. -/
def Pass.byRule (history : List (RestoreCall × RestoreReply)) :
    List FileResult → Exchanges
  | [] => ⟨[], []⟩
  | file :: others =>
    if file.accepted then
      let later := byRule history others
      ⟨later.asked, file :: later.files⟩
    else
      let exchange := (callFor file, rule history (callFor file))
      let later := byRule (history ++ [exchange]) others
      ⟨exchange :: later.asked, Turn.answered file (some exchange.2) :: later.files⟩

theorem Pass.byRule_of_accepted (history : List (RestoreCall × RestoreReply))
    {files : List FileResult} (accepted : files.all (·.accepted) = true) :
    byRule rule callFor history files = ⟨[], files⟩ := by
  induction files with
  | nil => rfl
  | cons file others ih =>
      obtain ⟨settled, later⟩ := Bool.and_eq_true_iff.mp accepted
      rw [byRule, if_pos settled, ih later]

/-- Passes after some history, until all files are accepted or none is left. -/
def Passes.byRule : (passesLeft : Nat) → List (RestoreCall × RestoreReply) →
    List FileResult → Exchanges
  | 0, _, files => ⟨[], files⟩
  | passesLeft + 1, history, files =>
    let passed := Pass.byRule rule callFor history files
    if passed.files.all (·.accepted) then passed
    else passed.followedBy (byRule passesLeft (history ++ passed.asked) passed.files)

/-- The files are all that a pass hands on to the next one, so passes that were interrupted while
a file waited can be taken up from the files. -/
theorem Passes.byRule_add_of_waiting (early late : Nat)
    (history : List (RestoreCall × RestoreReply)) {files : List FileResult}
    (waiting : files.all (·.accepted) = false) :
    byRule rule callFor (early + late) history files =
      let first := byRule rule callFor early history files
      if first.files.all (·.accepted) then first
      else first.followedBy (byRule rule callFor late (history ++ first.asked) first.files) := by
  induction early generalizing history files with
  | zero => simp [byRule, waiting, Exchanges.followedBy]
  | succ early ih =>
      rw [Nat.succ_add, byRule, byRule]
      generalize Pass.byRule rule callFor history files = passed
      cases settled : passed.files.all (·.accepted) with
      | true => simp [settled]
      | false =>
          simp only [Bool.false_eq_true, ↓reduceIte, ih _ settled]
          generalize byRule rule callFor early (history ++ passed.asked) passed.files = first
          cases ended : first.files.all (·.accepted) with
          | true => simp [Exchanges.followedBy, ended]
          | false => simp [Exchanges.followedBy, ended]

/-- A first pass is made in any case, so its files need not wait before it. -/
theorem Passes.byRule_add {early : Nat} (positive : 0 < early) (late : Nat)
    (history : List (RestoreCall × RestoreReply)) (files : List FileResult) :
    byRule rule callFor (early + late) history files =
      let first := byRule rule callFor early history files
      if first.files.all (·.accepted) then first
      else first.followedBy (byRule rule callFor late (history ++ first.asked) first.files) := by
  obtain ⟨early, rfl⟩ := Nat.exists_eq_succ_of_ne_zero (Nat.pos_iff_ne_zero.mp positive)
  cases waiting : files.all (·.accepted) with
  | false => exact byRule_add_of_waiting rule callFor (early + 1) late history waiting
  | true =>
      have settled := Pass.byRule_of_accepted rule callFor history waiting
      rw [Nat.succ_add, byRule, byRule, settled]
      simp [waiting]

/-! What is accepted stays accepted. -/

theorem Pass.byRule_accepted (history : List (RestoreCall × RestoreReply))
    (files : List FileResult) {position : Nat}
    (accepted : files[position]?.any (·.accepted) = true) :
    (byRule rule callFor history files).files[position]?.any (·.accepted) = true := by
  induction files generalizing history position with
  | nil => cases accepted
  | cons file others ih =>
      unfold byRule
      cases settled : file.accepted with
      | true =>
          cases position with
          | zero => exact accepted
          | succ position => exact ih history accepted
      | false =>
          cases position with
          | zero => cases settled.symm.trans accepted
          | succ position => exact ih _ accepted

theorem Passes.byRule_accepted (passesLeft : Nat) (history : List (RestoreCall × RestoreReply))
    (files : List FileResult) {position : Nat}
    (accepted : files[position]?.any (·.accepted) = true) :
    (byRule rule callFor passesLeft history files).files[position]?.any (·.accepted) = true := by
  induction passesLeft generalizing history files with
  | zero => exact accepted
  | succ passesLeft ih =>
      have passed := Pass.byRule_accepted rule callFor history files accepted
      unfold byRule
      dsimp only
      split
      · exact passed
      · exact ih _ _ passed

end

/-! ## What the services make of it -/

section

variable {services : Services}
  {rule : List (RestoreCall × RestoreReply) → RestoreCall → RestoreReply}
  (replies : services.RepliesBy rule) (delivery : DeliveryBudget) (plan : RestorePlan)
  (job : Job)

include replies

theorem Pass.ofServices_byRule (attempt : Nat) (past : Trace) (files : List FileResult)
    (fine : Pass.failure (Pass.ofServices services delivery plan job attempt past files) = none) :
    (⟨(Pass.events delivery plan job attempt files
          (Pass.ofServices services delivery plan job attempt past files)).restores,
        Pass.after files (Pass.ofServices services delivery plan job attempt past files)⟩ :
      Exchanges) = Pass.byRule rule plan.callFor past.restores files := by
  induction files generalizing past with
  | nil => rfl
  | cons file others ih =>
      have replied := Turn.reply_ofServices services delivery plan job attempt past file
      rw [replies] at replied
      simp only [Pass.ofServices] at fine ⊢
      generalize Turn.ofServices services delivery plan job attempt past file = turn
        at fine replied ⊢
      cases turned : turn.failure with
      | some failure =>
          rw [turned] at fine
          cases (PassRuns.failure_cons_eq_none fine).1.symm.trans turned
      | none =>
          rw [turned] at fine
          have later := ih _ (PassRuns.failure_cons_eq_none fine).2
          have asked := Turn.restores_events turn file delivery plan job attempt
          rw [Trace.restores_append, asked, replied] at later
          simp only [Pass.events, Pass.after, List.zipWith_cons_cons, List.flatten_cons,
            Trace.restores_append, asked, replied, Turn.result_eq_answered, Pass.byRule]
            at later ⊢
          cases settled : file.accepted with
          | true =>
              simp only [settled, ↓reduceIte, Option.map_none, Option.toList_none,
                List.append_nil] at later ⊢
              rw [← later]
              rfl
          | false =>
              simp only [settled, Bool.false_eq_true, ↓reduceIte, Option.map_some,
                Option.toList_some] at later ⊢
              rw [← later]
              rfl

theorem Passes.ofServices_byRule (passesLeft attempt : Nat) (past : Trace)
    (files : List FileResult) (counted : attempt + passesLeft ≤ passCountBound)
    (fine : ∀ turns ∈ Passes.ofServices services delivery plan job passesLeft attempt past files,
      Pass.failure turns = none) :
    (⟨(Passes.events delivery plan job attempt files
          (Passes.ofServices services delivery plan job passesLeft attempt past
            files)).restores,
        Passes.after files
          (Passes.ofServices services delivery plan job passesLeft attempt past files)⟩ :
      Exchanges) = Passes.byRule rule plan.callFor passesLeft past.restores files := by
  induction passesLeft generalizing attempt past files with
  | zero => rfl
  | succ passesLeft ih =>
      have passed := Pass.ofServices_byRule replies delivery plan job attempt past files
      simp only [Passes.ofServices, byRule] at fine ⊢
      generalize Pass.ofServices services delivery plan job attempt past files = turns
        at passed fine ⊢
      have fineHere : Pass.failure turns = none := by
        refine fine turns ?_
        split
        · exact List.mem_cons_self
        · exact List.mem_cons_self
      have room : ¬ passCountBound ≤ attempt := by omega
      rw [← passed fineHere]
      cases settled : (Pass.after files turns).all (·.accepted) with
      | true => simp [after]
      | false =>
          simp only [fineHere, room, settled, Option.isSome_none, Bool.false_eq_true, false_or,
            or_false, ↓reduceIte] at fine ⊢
          by_cases spent : passesLeft = 0
          · subst spent
            simp [byRule, Exchanges.followedBy, after]
          · rw [if_neg spent] at fine ⊢
            have more := (Passes.ofServices_run services delivery plan job passesLeft
              (attempt + 1) (past ++ Pass.events delivery plan job attempt files turns ++
                [.sleep plan.passes.sleep]) (Pass.after files turns)).ne_nil spent
            have rest := ih (attempt + 1)
              (past ++ Pass.events delivery plan job attempt files turns ++
                [.sleep plan.passes.sleep])
              (Pass.after files turns) (by omega)
              fun later made => fine later (List.mem_cons_of_mem _ made)
            have slept : Trace.restores [.sleep plan.passes.sleep] = [] := rfl
            rw [Trace.restores_append, Trace.restores_append, slept, List.append_nil] at rest
            rw [Passes.events_cons _ _ _ _ _ _ more, ← rest, ← List.singleton_append,
              Trace.restores_append, Trace.restores_append, slept, List.nil_append]
            rfl

end

/-! ## Whole runs -/

/-- Services whose archive replies by a rule and whose queue accepts everything. -/
structure Services.Obliging (services : Services)
    (rule : List (RestoreCall × RestoreReply) → RestoreCall → RestoreReply) : Prop where
  replies : services.RepliesBy rule
  accepts : services.AcceptsSends

/-- How a run ends whose files are these after the last pass. -/
def Exchanges.outcome (exchanges : Exchanges) (jobId : String) (granule : Granule) :
    Except Failure Granule :=
  if exchanges.files.all (·.accepted) then .ok { granule with results := exchanges.files }
  else .error (.incomplete jobId { granule with results := exchanges.files })

theorem requestRestores_byRule {services : Services}
    {rule : List (RestoreCall × RestoreReply) → RestoreCall → RestoreReply}
    (answers : ∀ history call, rule history call = .accepted ∨
      ∃ message, rule history call = .rejected message)
    (obliging : services.Obliging rule) (delivery : DeliveryBudget) (plan : RestorePlan)
    (counted : plan.passes.totalAttempts < passCountBound) (jobId : String) (granule : Granule)
    (past : Trace) {exchanges : Exchanges}
    (told : exchanges =
      Passes.byRule rule plan.callFor plan.passes.totalAttempts past.restores granule.results) :
    (requestRestores services delivery plan jobId granule past).2.restores = exchanges.asked ∧
      (requestRestores services delivery plan jobId granule past).1 =
        exchanges.outcome jobId granule := by
  have run := Course.ofServices_runs services delivery plan jobId granule past
  have delivered := requestRestores_not_givesUpOn obliging.accepts delivery plan jobId granule past
  have usable : services.AnswersRestores := fun past call => by
    rw [obliging.replies]
    exact answers past.restores call
  have few : plan.passes.maxRetries.toNat ≤ passCountBound - 2 := by
    simp only [PassBudget.totalAttempts] at counted
    omega
  rw [requestRestores_eq] at delivered ⊢
  have posted := run.allPosted delivered
  have unaborted := run.abort_eq_none few posted.announcement
    (Course.acceptance_posted fun _ _ => delivered _)
    (Course.unusable_not_mem usable delivery plan jobId granule past)
  have fine := List.findSome?_eq_none_iff.mp
    (Option.or_eq_none_iff.mp (Option.or_eq_none_iff.mp unaborted).2).1
  have failure : (Course.ofServices services delivery plan jobId granule past).failure = none := by
    rw [Course.failure, unaborted, posted.notices_failure]
    rfl
  have job := Course.job_ofServices services delivery plan jobId granule past
  have announced : (past ++ (Course.ofServices services delivery plan jobId granule
      past).announcementEvents delivery).restores = past.restores := by
    rw [Trace.restores_append, Course.announcementEvents, Sending.restores_events,
      List.append_nil]
  have passes := Course.passes_ofServices delivery plan jobId granule past posted.announcement
  have passed := Passes.ofServices_byRule obliging.replies delivery plan
    ⟨jobId, granule.id, services.clock past, plan.bucket⟩ plan.passes.totalAttempts 1
    (past ++ (Course.ofServices services delivery plan jobId granule past).announcementEvents
      delivery) granule.results (by omega) (passes ▸ fine)
  rw [← passes, announced, ← told, ← job] at passed
  have asked := congrArg Exchanges.asked passed
  have files := congrArg Exchanges.files passed
  dsimp only at asked files
  refine ⟨(Course.restores_events ..).trans asked, ?_⟩
  rw [Course.outcome, failure, Course.final, files, job]
  rfl

end GranuleRecall
