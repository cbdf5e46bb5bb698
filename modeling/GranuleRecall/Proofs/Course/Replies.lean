import GranuleRecall.Proofs.Course.Answers

/-! # What the archive's replies decide

Of all that happens in a turn only the reply of the archive decides what becomes of the entry,
and how the turn fails when its report is posted. So courses with the same replies request the
same restores and end with the same entries, whatever else differs in them. -/

set_option autoImplicit false

namespace GranuleRecall

/-! ## Turns -/

namespace Turn

/-- A file after a reply of the archive. -/
def answered (file : FileResult) : Option RestoreReply → FileResult
  | none => file
  | some .accepted => file.accept
  | some (.rejected message) => file.reject message
  | some (.unusable _) => file

theorem result_eq_answered (turn : Turn) (file : FileResult) :
    turn.result file = answered file turn.reply? := by
  cases turn <;> rfl

/-- How a reply of the archive fails a turn. -/
def replyFailure : Option RestoreReply → Option Failure
  | some (.unusable message) => some (.configuration message)
  | _ => none

theorem failure_eq_replyFailure {turn : Turn} (posted : turn.isPosted = true) :
    turn.failure = replyFailure turn.reply? := by
  cases turn with
  | accepted notice => exact Sending.failure_eq_none_iff.mpr posted
  | _ => rfl

theorem isPosted_of_fine {turn : Turn} (fine : turn.failure = none) : turn.isPosted = true := by
  cases turn with
  | accepted notice => exact Sending.failure_eq_none_iff.mp fine
  | _ => rfl

theorem reply_ofServices (services : Services) (delivery : DeliveryBudget) (plan : RestorePlan)
    (job : Job) (attempt : Nat) (past : Trace) (file : FileResult) :
    (ofServices services delivery plan job attempt past file).reply? =
      if file.accepted then none else some (services.restore past (plan.callFor file)) := by
  unfold ofServices
  cases file.accepted with
  | true => rfl
  | false => cases services.restore past (plan.callFor file) <;> rfl

/-- What is asked of the archive in a turn, and the reply. -/
def exchange (plan : RestorePlan) (_ : Nat) (file : RequestedFile) (turn : Turn) :
    List (RestoreCall × RestoreReply) :=
  (turn.reply?.map fun reply => (plan.callFor (.pending file), reply)).toList

end Turn

/-! ## Passes -/

namespace Pass

variable {turns turns' : List Turn}

def replies (turns : List Turn) : List (Option RestoreReply) :=
  turns.map Turn.reply?

theorem after_congr (same : replies turns = replies turns') (files : List FileResult) :
    after files turns = after files turns' := by
  induction files generalizing turns turns' with
  | nil => rfl
  | cons file others ih =>
      cases turns with
      | nil =>
          rw [List.map_eq_nil_iff.mp same.symm]
      | cons turn turns =>
          cases turns' with
          | nil => cases same
          | cons turn' turns' =>
              obtain ⟨sameReply, sameLater⟩ := List.cons.inj same
              rw [after, after, Turn.result_eq_answered, Turn.result_eq_answered, sameReply,
                ih sameLater]

theorem failure_congr (same : replies turns = replies turns') (posted : Posted turns)
    (posted' : Posted turns') : failure turns = failure turns' := by
  have byReplies {turns : List Turn} (posted : Posted turns) :
      failure turns = (replies turns).findSome? Turn.replyFailure := by
    rw [replies, List.findSome?_map]
    induction turns with
    | nil => rfl
    | cons turn turns ih =>
        have now := Turn.failure_eq_replyFailure (posted turn List.mem_cons_self)
        have later := ih fun turn made => posted turn (List.mem_cons_of_mem _ made)
        rw [failure] at later ⊢
        rw [List.findSome?_cons, List.findSome?_cons, now, later]
        rfl
  rw [byReplies posted, byReplies posted', same]

theorem failure_isSome_of_not_posted (unposted : ¬ Posted turns) :
    (failure turns).isSome = true := by
  rw [← Option.ne_none_iff_isSome]
  intro fine
  refine unposted fun turn made => Turn.isPosted_of_fine ?_
  exact List.findSome?_eq_none_iff.mp fine turn made

theorem exchanges_isPrefix (plan : RestorePlan) (position : Nat) (files : List RequestedFile)
    (shorter : replies turns <+: replies turns') :
    collect (Turn.exchange plan) position files turns <+:
      collect (Turn.exchange plan) position files turns' := by
  induction files generalizing position turns turns' with
  | nil => exact List.prefix_rfl
  | cons file others ih =>
      cases turns with
      | nil => exact List.nil_prefix
      | cons turn turns =>
          cases turns' with
          | nil => cases List.prefix_nil.mp shorter
          | cons turn' turns' =>
              obtain ⟨sameReply, later⟩ := List.cons_prefix_cons.mp shorter
              rw [collect, collect, Turn.exchange, Turn.exchange, sameReply]
              exact List.prefix_append_right_inj _ |>.mpr (ih (position + 1) later)

theorem exchanges_congr (plan : RestorePlan) (position : Nat) (files : List RequestedFile)
    (same : replies turns = replies turns') :
    collect (Turn.exchange plan) position files turns =
      collect (Turn.exchange plan) position files turns' := by
  have forth := exchanges_isPrefix plan position files (same ▸ List.prefix_rfl :
    replies turns <+: replies turns')
  have back := exchanges_isPrefix plan position files (same ▸ List.prefix_rfl :
    replies turns' <+: replies turns)
  exact forth.eq_of_length_le back.length_le

theorem restores_events (delivery : DeliveryBudget) (plan : RestorePlan) (job : Job)
    (attempt : Nat) (files : List FileResult) (turns : List Turn) :
    (events delivery plan job attempt files turns).restores =
      collect (Turn.exchange plan) 0 (files.map FileResult.requested) turns :=
  view_events Trace.isView_restores
    (fun attempt _ turn file => Turn.restores_events turn file delivery plan job attempt)
    attempt 0 files turns

end Pass

namespace Passes

theorem restores_events (delivery : DeliveryBudget) (plan : RestorePlan) (job : Job)
    (attempt : Nat) (files : List FileResult) (passes : List (List Turn)) :
    (events delivery plan job attempt files passes).restores =
      collect (Turn.exchange plan) (files.map FileResult.requested) passes :=
  view_events Trace.isView_restores
    (fun attempt _ turn file => Turn.restores_events turn file delivery plan job attempt)
    rfl attempt files passes

theorem failure_congr {attempt : Nat} {passes passes' : List (List Turn)}
    (same : passes.map Pass.replies = passes'.map Pass.replies)
    (posted : ∀ turns ∈ passes, Pass.Posted turns)
    (posted' : ∀ turns ∈ passes', Pass.Posted turns) :
    failure attempt passes = failure attempt passes' := by
  have sameLength : passes.length = passes'.length := by
    have counted := congrArg List.length same
    rwa [List.length_map, List.length_map] at counted
  have sameFirst : passes.findSome? Pass.failure = passes'.findSome? Pass.failure := by
    clear sameLength
    induction passes generalizing passes' with
    | nil =>
        rw [List.map_eq_nil_iff.mp same.symm]
    | cons turns later ih =>
        cases passes' with
        | nil => cases same
        | cons turns' later' =>
            obtain ⟨sameNow, sameLater⟩ := List.cons.inj same
            have now := Pass.failure_congr sameNow (posted turns List.mem_cons_self)
              (posted' turns' List.mem_cons_self)
            have rest := ih sameLater
              (fun turns made => posted turns (List.mem_cons_of_mem _ made))
              (fun turns made => posted' turns (List.mem_cons_of_mem _ made))
            rw [List.findSome?_cons, List.findSome?_cons, now, rest]
  rw [failure, failure, sameFirst, sameLength]

theorem after_congr {passes passes' : List (List Turn)}
    (same : passes.map Pass.replies = passes'.map Pass.replies) (files : List FileResult) :
    after files passes = after files passes' := by
  induction passes generalizing files passes' with
  | nil =>
      rw [List.map_eq_nil_iff.mp same.symm]
  | cons turns later ih =>
      cases passes' with
      | nil => cases same
      | cons turns' later' =>
          obtain ⟨sameNow, sameLater⟩ := List.cons.inj same
          rw [after, after, List.foldl_cons, List.foldl_cons, Pass.after_congr sameNow]
          exact ih sameLater _

end Passes

end GranuleRecall
