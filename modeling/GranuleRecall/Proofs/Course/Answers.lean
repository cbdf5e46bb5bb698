import GranuleRecall.Proofs.Course.Answered
import GranuleRecall.Proofs.Course.Failures

/-! # What the services make of a course

Every turn of a course comes of the services' answers. So a course has no unusable request when
the archive accepts or rejects every request, and gives up on no message when the queue accepts
every message. -/

set_option autoImplicit false

namespace GranuleRecall

/-- The archive accepts or rejects every request. -/
def Services.AnswersRestores (services : Services) : Prop :=
  ∀ past call, services.restore past call = .accepted ∨
    ∃ message, services.restore past call = .rejected message

/-- The archive replies by a rule that sees only what it was asked before. -/
def Services.RepliesBy (services : Services)
    (rule : List (RestoreCall × RestoreReply) → RestoreCall → RestoreReply) : Prop :=
  ∀ past call, services.restore past call = rule past.restores call

/-- The queue accepts every message. -/
def Services.AcceptsSends (services : Services) : Prop :=
  ∀ past message, services.send past message = .accepted

/-! ## Where turns come from -/

section

variable {services : Services} {delivery : DeliveryBudget} {plan : RestorePlan} {job : Job}

theorem Pass.mem_ofServices {attempt : Nat} {past : Trace} {files : List FileResult}
    {turn : Turn} (made : turn ∈ Pass.ofServices services delivery plan job attempt past files) :
    ∃ past file, turn = Turn.ofServices services delivery plan job attempt past file := by
  induction files generalizing past with
  | nil => cases made
  | cons file others ih =>
      simp only [Pass.ofServices] at made
      split at made
      · exact ⟨past, file, List.mem_singleton.mp made⟩
      · rcases List.mem_cons.mp made with rfl | later
        · exact ⟨past, file, rfl⟩
        · exact ih later

theorem Passes.mem_ofServices {passesLeft attempt : Nat} {past : Trace}
    {files : List FileResult} {turns : List Turn}
    (made : turns ∈
      Passes.ofServices services delivery plan job passesLeft attempt past files) :
    ∃ attempt past files,
      turns = Pass.ofServices services delivery plan job attempt past files := by
  induction passesLeft generalizing attempt past files with
  | zero => cases made
  | succ passesLeft ih =>
      simp only [Passes.ofServices] at made
      split at made
      · exact ⟨attempt, past, files, List.mem_singleton.mp made⟩
      · rcases List.mem_cons.mp made with rfl | later
        · exact ⟨attempt, past, files, rfl⟩
        · exact ih later

theorem Course.mem_ofServices {jobId : String} {granule : Granule} {past : Trace}
    {turns : List Turn} {turn : Turn}
    (made : turns ∈ (Course.ofServices services delivery plan jobId granule past).passes)
    (turned : turn ∈ turns) :
    ∃ job attempt past file,
      turn = Turn.ofServices services delivery plan job attempt past file := by
  have ofPasses {job : Job} {passesLeft attempt : Nat} {past : Trace}
      {files : List FileResult}
      (made : turns ∈
        Passes.ofServices services delivery plan job passesLeft attempt past files) :
      ∃ job attempt past file,
        turn = Turn.ofServices services delivery plan job attempt past file := by
    obtain ⟨attempt, past, files, rfl⟩ := Passes.mem_ofServices made
    exact ⟨job, attempt, Pass.mem_ofServices turned⟩
  simp only [Course.ofServices] at made
  split at made
  · cases made
  · split at made
    · exact ofPasses made
    · exact ofPasses made

theorem Course.announcement_ofServices (services : Services) (delivery : DeliveryBudget)
    (plan : RestorePlan) (jobId : String) (granule : Granule) (past : Trace) :
    (Course.ofServices services delivery plan jobId granule past).announcement =
      Sending.ofDelivery services delivery
        (.ofJob (.started ⟨jobId, granule.id, services.clock past, plan.bucket⟩)) past := by
  simp only [Course.ofServices]
  split
  · rfl
  · split <;> rfl

theorem Course.passes_ofServices {services : Services} (delivery : DeliveryBudget)
    (plan : RestorePlan) (jobId : String) (granule : Granule) (past : Trace)
    (announced :
      (Course.ofServices services delivery plan jobId granule past).announcement.isPosted =
        true) :
    (Course.ofServices services delivery plan jobId granule past).passes =
      Passes.ofServices services delivery plan
        ⟨jobId, granule.id, services.clock past, plan.bucket⟩ plan.passes.totalAttempts 1
        (past ++ (Course.ofServices services delivery plan jobId granule
          past).announcementEvents delivery)
        granule.results := by
  have fine : (Course.ofServices services delivery plan jobId granule past).announcement.failure
      .job 1 = none := Sending.failure_eq_none_iff.mpr announced
  rw [Course.announcementEvents, Course.job_ofServices]
  rw [Course.announcement_ofServices] at fine ⊢
  simp only [Course.ofServices, fine]
  split <;> rfl

end

/-! ## An archive that answers -/

theorem Turn.ofServices_ne_unusable {services : Services} (answers : services.AnswersRestores)
    (delivery : DeliveryBudget) (plan : RestorePlan) (job : Job) (attempt : Nat) (past : Trace)
    (file : FileResult) (message : String) :
    Turn.ofServices services delivery plan job attempt past file ≠ .unusable message := by
  unfold Turn.ofServices
  cases file.accepted with
  | true => simp
  | false =>
      rcases answers past (plan.callFor file) with accepted | ⟨reason, rejected⟩
      · simp [accepted]
      · simp [rejected]

theorem Course.unusable_not_mem {services : Services} (answers : services.AnswersRestores)
    (delivery : DeliveryBudget) (plan : RestorePlan) (jobId : String) (granule : Granule)
    (past : Trace) :
    ∀ turns ∈ (Course.ofServices services delivery plan jobId granule past).passes,
      ∀ message, .unusable message ∉ turns := by
  intro turns made message turned
  obtain ⟨job, attempt, past, file, same⟩ := Course.mem_ofServices made turned
  exact Turn.ofServices_ne_unusable answers delivery plan job attempt past file message same.symm

/-! ## A queue that accepts everything -/

theorem requestRestores_not_givesUpOn {services : Services} (accepts : services.AcceptsSends)
    (delivery : DeliveryBudget) (plan : RestorePlan) (jobId : String) (granule : Granule)
    (past : Trace) (message : Message) :
    ¬ (requestRestores services delivery plan jobId granule past).2.GivesUpOn message := by
  intro givesUp
  obtain ⟨reasons, sent⟩ := givesUp.refused
  have answered := requestRestores_records services delivery plan jobId granule past
  obtain ⟨before, given⟩ := answered.gives sent
  cases given.trans (accepts before message)

end GranuleRecall
