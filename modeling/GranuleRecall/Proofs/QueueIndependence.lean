import GranuleRecall.Proofs.Course.Replies

/-! # The queue does not steer the restores

Two runs for the same granule whose archives reply by the same rule, but whose queues and clocks
differ. As long as neither queue fails the job or an acceptance, both runs request the same
restores. A failure of the queue only cuts a run short. -/

set_option autoImplicit false

namespace GranuleRecall

/-! ## Cutting short -/

/-- Lists of lists of which the first ends early: with a part of one of the lists of the second,
or without any of it. -/
inductive CutShort {α : Type} : List (List α) → List (List α) → Prop
  | unbegun (lists : List (List α)) : CutShort [] lists
  | within {part whole : List α} (lists : List (List α)) :
      part <+: whole → CutShort [part] (whole :: lists)
  | later (list : List α) {parts wholes : List (List α)} :
      CutShort parts wholes → CutShort (list :: parts) (list :: wholes)

namespace CutShort

variable {α : Type} {parts wholes : List (List α)}

theorem eq_nil (cut : CutShort parts []) : parts = [] := by
  cases cut with
  | unbegun _ => rfl

theorem antisymm (cut : CutShort parts wholes) (back : CutShort wholes parts) :
    parts = wholes := by
  induction cut with
  | unbegun _ => exact back.eq_nil.symm
  | within _ shorter =>
      cases back with
      | within _ longer => rw [shorter.eq_of_length_le longer.length_le]
      | later _ rest => rw [rest.eq_nil]
  | later list rest ih =>
      cases back with
      | within _ _ => rw [rest.eq_nil]
      | later _ backRest => rw [ih backRest]

end CutShort

section

variable {first second : Services}
  {rule : List (RestoreCall × RestoreReply) → RestoreCall → RestoreReply}
  (firstReplies : first.RepliesBy rule) (secondReplies : second.RepliesBy rule)
  (delivery : DeliveryBudget) (plan : RestorePlan) (job job' : Job)

/-! ## One pass -/

include firstReplies secondReplies

theorem Turn.reply_ofServices_congr {past past' : Trace}
    (sameHistory : past.restores = past'.restores) (attempt : Nat) (file : FileResult) :
    (Turn.ofServices first delivery plan job attempt past file).reply? =
      (Turn.ofServices second delivery plan job' attempt past' file).reply? := by
  rw [Turn.reply_ofServices, Turn.reply_ofServices, firstReplies, secondReplies, sameHistory]

theorem Pass.replies_isPrefix {past past' : Trace}
    (sameHistory : past.restores = past'.restores) (attempt : Nat) (files : List FileResult)
    (posted :
      Pass.Posted (Pass.ofServices second delivery plan job' attempt past' files)) :
    Pass.replies (Pass.ofServices first delivery plan job attempt past files) <+:
      Pass.replies (Pass.ofServices second delivery plan job' attempt past' files) := by
  induction files generalizing past past' with
  | nil => exact List.prefix_rfl
  | cons file others ih =>
      have sameReply := Turn.reply_ofServices_congr firstReplies secondReplies delivery plan job
        job' sameHistory attempt file
      simp only [Pass.ofServices] at posted ⊢
      generalize Turn.ofServices first delivery plan job attempt past file = turn at *
      generalize Turn.ofServices second delivery plan job' attempt past' file = turn' at *
      cases failed : turn.failure with
      | some failure =>
          dsimp only
          split
          · exact List.cons_prefix_cons.mpr ⟨sameReply, List.prefix_rfl⟩
          · exact List.cons_prefix_cons.mpr ⟨sameReply, List.nil_prefix⟩
      | none =>
          have posted' : turn'.isPosted = true := by
            refine posted turn' ?_
            split
            · exact List.mem_cons_self
            · exact List.mem_cons_self
          have fine' : turn'.failure = none := by
            rw [Turn.failure_eq_replyFailure posted', ← sameReply,
              ← Turn.failure_eq_replyFailure (Turn.isPosted_of_fine failed), failed]
          rw [fine'] at posted ⊢
          have sameLater :
              (past ++ turn.events delivery plan job attempt file).restores =
                (past' ++ turn'.events delivery plan job' attempt file).restores := by
            rw [Trace.restores_append, Trace.restores_append, Turn.restores_events,
              Turn.restores_events, sameHistory, sameReply]
          exact List.cons_prefix_cons.mpr ⟨sameReply,
            ih sameLater fun later made => posted later (List.mem_cons_of_mem _ made)⟩

/-- When neither queue fails a report, the archive replies the same in both passes. -/
theorem Pass.replies_congr {past past' : Trace} (sameHistory : past.restores = past'.restores)
    (attempt : Nat) (files : List FileResult)
    (posted : Pass.Posted (Pass.ofServices first delivery plan job attempt past files))
    (posted' : Pass.Posted (Pass.ofServices second delivery plan job' attempt past' files)) :
    Pass.replies (Pass.ofServices first delivery plan job attempt past files) =
      Pass.replies (Pass.ofServices second delivery plan job' attempt past' files) := by
  have forth := Pass.replies_isPrefix firstReplies secondReplies delivery plan job job' sameHistory
    attempt files posted'
  have back := Pass.replies_isPrefix secondReplies firstReplies delivery plan job' job
    sameHistory.symm attempt files posted
  exact forth.eq_of_length_le back.length_le

/-! ## All passes -/

theorem Passes.replies_cutShort {past past' : Trace}
    (sameHistory : past.restores = past'.restores) (passesLeft attempt : Nat)
    (files : List FileResult)
    (posted : ∀ turns ∈
      Passes.ofServices second delivery plan job' passesLeft attempt past' files,
      Pass.Posted turns) :
    CutShort
      ((Passes.ofServices first delivery plan job passesLeft attempt past files).map
        Pass.replies)
      ((Passes.ofServices second delivery plan job' passesLeft attempt past' files).map
        Pass.replies) := by
  induction passesLeft generalizing attempt past past' files with
  | zero => exact .unbegun _
  | succ passesLeft ih =>
      have shorter := Pass.replies_isPrefix firstReplies secondReplies delivery plan job job'
        sameHistory attempt files
      have same := Pass.replies_congr firstReplies secondReplies delivery plan job job'
        sameHistory attempt files
      simp only [Passes.ofServices] at posted ⊢
      generalize Pass.ofServices first delivery plan job attempt past files = turns at *
      generalize Pass.ofServices second delivery plan job' attempt past' files = turns' at *
      have posted' : Pass.Posted turns' := by
        refine posted turns' ?_
        split
        · exact List.mem_cons_self
        · exact List.mem_cons_self
      by_cases reported : Pass.Posted turns
      · have sameReplies := same reported posted'
        have sameAfter := Pass.after_congr sameReplies files
        have sameFailure := Pass.failure_congr sameReplies reported posted'
        rw [sameAfter, sameFailure]
        by_cases stops : (Pass.failure turns').isSome = true ∨ passCountBound ≤ attempt ∨
            passesLeft = 0 ∨ ((Pass.after files turns').all (·.accepted)) = true
        · rw [if_pos stops, if_pos stops]
          exact .within [] (shorter posted')
        · rw [if_neg stops] at posted ⊢
          rw [if_neg stops, List.map_cons, List.map_cons, sameReplies]
          refine .later _ (ih ?_ (attempt + 1) _ fun later made =>
            posted later (List.mem_cons_of_mem _ made))
          simp only [Trace.restores_append, Pass.restores_events, sameHistory,
            Pass.exchanges_congr plan 0 _ sameReplies]
      · have failed := Pass.failure_isSome_of_not_posted reported
        rw [if_pos (.inl failed)]
        split
        · exact .within [] (shorter posted')
        · exact .within _ (shorter posted')

/-! ## Whole runs -/

theorem Course.replies_cutShort (jobId : String) (granule : Granule) (past : Trace)
    (announced' :
      (Course.ofServices second delivery plan jobId granule past).announcement.isPosted = true)
    (posted' : ∀ turns ∈ (Course.ofServices second delivery plan jobId granule past).passes,
      Pass.Posted turns) :
    CutShort
      ((Course.ofServices first delivery plan jobId granule past).passes.map Pass.replies)
      ((Course.ofServices second delivery plan jobId granule past).passes.map Pass.replies) := by
  by_cases announced :
      (Course.ofServices first delivery plan jobId granule past).announcement.isPosted = true
  · rw [Course.passes_ofServices delivery plan jobId granule past announced'] at posted' ⊢
    rw [Course.passes_ofServices delivery plan jobId granule past announced]
    refine Passes.replies_cutShort firstReplies secondReplies delivery plan _ _ ?_ _ _ _ posted'
    rw [Trace.restores_append, Trace.restores_append, Course.announcementEvents,
      Course.announcementEvents, Sending.restores_events, Sending.restores_events]
  · have none := (Course.ofServices_runs first delivery plan jobId granule past).passes_eq_nil
      announced
    rw [none]
    exact .unbegun _

end

theorem CutShort.exchanges_isPrefix {passes passes' : List (List Turn)}
    (cut : CutShort (passes.map Pass.replies) (passes'.map Pass.replies))
    (plan : RestorePlan) (files : List RequestedFile) :
    Passes.collect (Turn.exchange plan) files passes <+:
      Passes.collect (Turn.exchange plan) files passes' := by
  generalize shown : passes.map Pass.replies = parts at cut
  generalize shown' : passes'.map Pass.replies = wholes at cut
  induction cut generalizing passes passes' with
  | unbegun _ =>
      rw [List.map_eq_nil_iff.mp shown]
      exact List.nil_prefix
  | within _ shorter =>
      obtain ⟨turns, later, rfl, rfl, rest⟩ := List.map_eq_cons_iff.mp shown
      obtain ⟨turns', later', rfl, rfl, _⟩ := List.map_eq_cons_iff.mp shown'
      rw [List.map_eq_nil_iff.mp rest, Passes.collect, Passes.collect, List.flatMap_cons,
        List.flatMap_cons, List.flatMap_nil, List.append_nil]
      exact (Pass.exchanges_isPrefix plan 0 files shorter).trans (List.prefix_append _ _)
  | later list _ ih =>
      obtain ⟨turns, later, rfl, same, rest⟩ := List.map_eq_cons_iff.mp shown
      obtain ⟨turns', later', rfl, same', rest'⟩ := List.map_eq_cons_iff.mp shown'
      rw [Passes.collect, Passes.collect, List.flatMap_cons, List.flatMap_cons,
        Pass.exchanges_congr plan 0 files (same.trans same'.symm)]
      exact List.prefix_append_right_inj _ |>.mpr (ih rest rest')

theorem Course.restores_eq_exchanges (delivery : DeliveryBudget) (plan : RestorePlan)
    (course : Course) (granule : Granule) :
    (course.events delivery plan granule).restores =
      Passes.collect (Turn.exchange plan) (granule.results.map FileResult.requested)
        course.passes := by
  rw [Course.restores_events]
  exact Passes.restores_events delivery plan course.job 1 granule.results course.passes

/-- Of the job only its id is part of an outcome, so two courses whose reports are all posted and
whose archives reply the same have the same outcome. -/
theorem Course.outcome_congr {course course' : Course} {granule : Granule}
    (sameId : course.job.id = course'.job.id)
    (sameReplies : course.passes.map Pass.replies = course'.passes.map Pass.replies)
    (posted : course.Posted) (posted' : course'.Posted) :
    course.outcome granule = course'.outcome granule := by
  have sameFailure : course.failure = course'.failure := by
    rw [Course.failure, Course.failure, Course.abort, Course.abort,
      Sending.failure_eq_none_iff.mpr posted.announcement,
      Sending.failure_eq_none_iff.mpr posted'.announcement,
      Passes.failure_congr sameReplies posted.passes posted'.passes, posted.notices_failure,
      posted'.notices_failure]
  have sameFinal : course.final granule = course'.final granule := by
    rw [Course.final, Course.final, Passes.after_congr sameReplies]
  unfold Course.outcome Restores.verdict
  rw [sameFailure, sameFinal, sameId]

/-- The restores of a run are at most those of a run with a queue that accepts everything. They
are the same when the queue accepts the job and all acceptances in time, and so is the outcome
when it accepts all messages in time. -/
theorem requestRestores_independent_of_queue (first second : Services)
    (rule : List (RestoreCall × RestoreReply) → RestoreCall → RestoreReply)
    (firstReplies : first.RepliesBy rule) (secondReplies : second.RepliesBy rule)
    (accepts : second.AcceptsSends) (delivery : DeliveryBudget) (plan : RestorePlan)
    (jobId : String) (granule : Granule) (past : Trace) :
    (requestRestores first delivery plan jobId granule past).2.restores <+:
        (requestRestores second delivery plan jobId granule past).2.restores ∧
      (¬ (requestRestores first delivery plan jobId granule past).2.GivesUpOn
            (.ofJob (.started ⟨jobId, granule.id, first.clock past, plan.bucket⟩)) →
        (∀ file time,
          ¬ (requestRestores first delivery plan jobId granule past).2.GivesUpOn
            (Restores.acceptedMessage ⟨jobId, granule.id, first.clock past, plan.bucket⟩ file
              time)) →
        (requestRestores first delivery plan jobId granule past).2.restores =
          (requestRestores second delivery plan jobId granule past).2.restores) ∧
      ((∀ message, ¬ (requestRestores first delivery plan jobId granule past).2.GivesUpOn
          message) →
        (requestRestores first delivery plan jobId granule past).1 =
          (requestRestores second delivery plan jobId granule past).1) := by
  have run := Course.ofServices_runs first delivery plan jobId granule past
  have run' := Course.ofServices_runs second delivery plan jobId granule past
  have delivered' := requestRestores_not_givesUpOn accepts delivery plan jobId granule past
  simp only [requestRestores_eq] at delivered' ⊢
  have announced' := Course.announcement_posted (delivered' _)
  have posted' := run'.posted (Course.acceptance_posted fun _ _ => delivered' _)
  have cut := Course.replies_cutShort firstReplies secondReplies delivery plan jobId granule past
    announced' posted'
  have back (announced : (Course.ofServices first delivery plan jobId granule
        past).announcement.isPosted = true)
      (posted : ∀ turns ∈ (Course.ofServices first delivery plan jobId granule past).passes,
        Pass.Posted turns) :=
    Course.replies_cutShort secondReplies firstReplies delivery plan jobId granule past announced
      posted
  rw [← Course.job_ofServices first delivery plan jobId granule past]
  refine ⟨?_, ?_, ?_⟩
  · rw [Course.restores_eq_exchanges, Course.restores_eq_exchanges]
    exact cut.exchanges_isPrefix plan _
  · intro announced reported
    have longer := (back (Course.announcement_posted announced)
      (run.posted (Course.acceptance_posted reported))).exchanges_isPrefix plan
        (granule.results.map FileResult.requested)
    rw [Course.restores_eq_exchanges, Course.restores_eq_exchanges]
    exact (cut.exchanges_isPrefix plan _).eq_of_length_le longer.length_le
  · intro delivered
    have posted := run.allPosted delivered
    have sameReplies := cut.antisymm (back posted.announcement posted.passes)
    refine Course.outcome_congr ?_ sameReplies posted (run'.allPosted delivered')
    rw [Course.job_ofServices, Course.job_ofServices]

/-! The same archive behind a queue that refuses the first message and behind one that accepts
everything. -/

def hesitantQueue : Services where
  probe _ _ _ := .present
  restore past _ := if past.restores.isEmpty then .rejected "busy" else .accepted
  send past _ := if past.sends.isEmpty then .refused ["full"] else .accepted
  clock past := ⟨past.length, 0⟩

def willingQueue : Services where
  probe _ _ _ := .present
  restore past _ := if past.restores.isEmpty then .rejected "busy" else .accepted
  send _ _ := .accepted
  clock past := ⟨past.length, 0⟩

theorem hesitantQueue_not_givesUpOn (message : Message) :
    ¬ (requestRestores hesitantQueue (.of 2 .zero) ⟨"archive", 5, .standard, ⟨1, .zero⟩⟩ "job"
      ⟨"granule", [], [.pending ⟨"a", "target"⟩, .pending ⟨"b", "target"⟩], []⟩
      []).2.GivesUpOn message := by
  intro givesUp
  obtain ⟨record, told, urgent⟩ := givesUp.logged
  have calm : ((requestRestores hesitantQueue (.of 2 .zero)
      ⟨"archive", 5, .standard, ⟨1, .zero⟩⟩ "job"
      ⟨"granule", [], [.pending ⟨"a", "target"⟩, .pending ⟨"b", "target"⟩], []⟩ []).2.logs.all
        fun record => record.level != .error) = true := by
    rw [requestRestores_eq]
    rfl
  simpa [urgent] using List.all_eq_true.mp calm record told

theorem hesitantQueue_independent :
    (requestRestores hesitantQueue (.of 2 .zero) ⟨"archive", 5, .standard, ⟨1, .zero⟩⟩ "job"
        ⟨"granule", [], [.pending ⟨"a", "target"⟩, .pending ⟨"b", "target"⟩], []⟩ []).1 =
      (requestRestores willingQueue (.of 2 .zero) ⟨"archive", 5, .standard, ⟨1, .zero⟩⟩ "job"
        ⟨"granule", [], [.pending ⟨"a", "target"⟩, .pending ⟨"b", "target"⟩], []⟩ []).1 :=
  (requestRestores_independent_of_queue hesitantQueue willingQueue
    (fun history _ => if history.isEmpty then .rejected "busy" else .accepted)
    (fun _ _ => rfl) (fun _ _ => rfl) (fun _ _ => rfl) _ _ _ _ _).2.2
    hesitantQueue_not_givesUpOn

end GranuleRecall
