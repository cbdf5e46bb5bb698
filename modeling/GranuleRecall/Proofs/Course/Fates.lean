import GranuleRecall.Proofs.Course.Replies
import GranuleRecall.Proofs.Course.Requests

/-! # What becomes of one entry

An archive may reply by the key and the number of earlier requests for it. Then what becomes of an
entry in some passes can be told from the entry alone, and in a run over entries with distinct
keys that is what becomes of each. -/

set_option autoImplicit false

namespace GranuleRecall

/-! ## The requests for a key -/

namespace Trace

/-- The replies to the requests for a key, in order. -/
def repliesFor (key : String) (trace : Trace) : List RestoreReply :=
  (trace.restores.filter (·.1.key = key)).map Prod.snd

@[simp] theorem repliesFor_append (key : String) (left right : Trace) :
    repliesFor key (left ++ right) = repliesFor key left ++ repliesFor key right := by
  simp [repliesFor]

theorem repliesFor_of_restores_eq_nil {trace : Trace} (none : trace.restores = [])
    (key : String) : trace.repliesFor key = [] := by
  rw [repliesFor, none]
  rfl

end Trace

/-- The archive replies by a rule that sees the key of a request and the number of earlier
requests for it. -/
def Services.RepliesByCount (services : Services) (rule : String → Nat → RestoreReply) : Prop :=
  ∀ past call, services.restore past call = rule call.key (past.repliesFor call.key).length

/-! ## One entry -/

@[simp] theorem Turn.answered_requested (file : FileResult) (reply? : Option RestoreReply) :
    (answered file reply?).requested = file.requested := by
  rcases reply? with _ | _ | _ | _ <;> rfl

theorem Turn.answered_key (file : FileResult) (reply? : Option RestoreReply) :
    (answered file reply?).key = file.key :=
  congrArg RequestedFile.key (answered_requested file reply?)

namespace FileResult

variable (rule : String → Nat → RestoreReply)

/-- The reply to the request for an entry in a pass. None is made for one that is accepted. -/
def reply? (earlier : Nat) (file : FileResult) : Option RestoreReply :=
  if file.accepted then none else some (rule file.key earlier)

/-- The replies to the requests for an entry in so many passes. -/
def replies : (passes earlier : Nat) → FileResult → List RestoreReply
  | 0, _, _ => []
  | passes + 1, earlier, file =>
    if file.accepted then []
    else
      let reply := rule file.key earlier
      reply :: replies passes (earlier + 1) (Turn.answered file (some reply))

/-- An entry after some replies. -/
def afterReplies (file : FileResult) (replies : List RestoreReply) : FileResult :=
  replies.foldl (fun file reply => Turn.answered file (some reply)) file

/-- An entry after so many passes. -/
def afterPasses (passes earlier : Nat) (file : FileResult) : FileResult :=
  file.afterReplies (file.replies rule passes earlier)

variable {rule} {file : FileResult}

theorem replies_of_accepted (settled : file.accepted = true) (passes earlier : Nat) :
    file.replies rule passes earlier = [] := by
  cases passes with
  | zero => rfl
  | succ passes => rw [replies, if_pos settled]

variable (rule)

theorem replies_succ (passes earlier : Nat) (file : FileResult) :
    file.replies rule (passes + 1) earlier =
      (file.reply? rule earlier).toList ++
        (Turn.answered file (file.reply? rule earlier)).replies rule passes
          (earlier + (file.reply? rule earlier).toList.length) := by
  cases settled : file.accepted with
  | true =>
      have unasked : file.reply? rule earlier = none := if_pos settled
      rw [replies_of_accepted settled, unasked]
      exact (replies_of_accepted settled passes earlier).symm
  | false =>
      have asked : file.reply? rule earlier = some (rule file.key earlier) :=
        if_neg (by rw [settled]; exact Bool.false_ne_true)
      rw [replies, settled, asked]
      rfl

theorem afterReplies_toList_append (file : FileResult) (reply? : Option RestoreReply)
    (later : List RestoreReply) :
    file.afterReplies (reply?.toList ++ later) =
      (Turn.answered file reply?).afterReplies later := by
  cases reply? with
  | none => rfl
  | some reply => rfl

theorem afterPasses_succ (passes earlier : Nat) (file : FileResult) :
    file.afterPasses rule (passes + 1) earlier =
      (Turn.answered file (file.reply? rule earlier)).afterPasses rule passes
        (earlier + (file.reply? rule earlier).toList.length) := by
  rw [afterPasses, replies_succ, afterReplies_toList_append]
  rfl

example :
    (pending ⟨"a", "target"⟩).replies
        (fun _ earlier => if earlier < 2 then .rejected "busy" else .accepted) 5 0 =
      [.rejected "busy", .rejected "busy", .accepted] := rfl

@[simp] theorem afterReplies_requested (file : FileResult) (replies : List RestoreReply) :
    (file.afterReplies replies).requested = file.requested := by
  induction replies generalizing file with
  | nil => rfl
  | cons reply later ih => exact (ih _).trans (Turn.answered_requested file (some reply))

theorem afterReplies_key (file : FileResult) (replies : List RestoreReply) :
    (file.afterReplies replies).key = file.key :=
  congrArg RequestedFile.key (file.afterReplies_requested replies)

end FileResult

/-! ## One pass -/

theorem keys_eq_of_requested_eq {files files' : List FileResult}
    (same : files.map FileResult.requested = files'.map FileResult.requested) :
    files.map FileResult.key = files'.map FileResult.key := by
  have sameKeys := congrArg (List.map RequestedFile.key) same
  rwa [List.map_map, List.map_map] at sameKeys

/-- Of values with distinct keys one has the key of each. -/
theorem filter_key_eq_singleton {α β : Type} [DecidableEq β] {key : α → β} {values : List α}
    (distinct : (values.map key).Nodup) {value : α} (listed : value ∈ values) :
    values.filter (key · = key value) = [value] := by
  induction values with
  | nil => cases listed
  | cons first later ih =>
      obtain ⟨unlisted, rest⟩ := List.nodup_cons.mp distinct
      rcases List.mem_cons.mp listed with rfl | inLater
      · have others : later.filter (key · = key value) = [] := by
          refine List.filter_eq_nil_iff.mpr fun other made same => ?_
          exact unlisted (List.mem_map.mpr ⟨other, made, of_decide_eq_true same⟩)
        rw [List.filter_cons_of_pos (by simp), others]
      · have different : key first ≠ key value := fun same =>
          unlisted (same ▸ List.mem_map_of_mem inLater)
        rw [List.filter_cons_of_neg (by simpa using different)]
        exact ih rest inLater

section

variable {services : Services} {rule : String → Nat → RestoreReply}
  (byCount : services.RepliesByCount rule) (delivery : DeliveryBudget) (plan : RestorePlan)
  (job : Job)

theorem Turn.repliesFor_events (attempt : Nat) (file : FileResult) (turn : Turn)
    (key : String) :
    (turn.events delivery plan job attempt file).repliesFor key =
      if file.key = key then turn.reply?.toList else [] := by
  rw [Trace.repliesFor, Turn.restores_events]
  cases turn.reply? with
  | none => simp
  | some reply =>
      by_cases same : file.key = key
      · simp [RestorePlan.callFor, same]
      · simp [RestorePlan.callFor, same]

theorem Pass.repliesFor_events (attempt : Nat) {files : List FileResult} {turns : List Turn}
    {reply? : FileResult → Option RestoreReply}
    (answered : Pass.replies turns = files.map reply?) (key : String) :
    (Pass.events delivery plan job attempt files turns).repliesFor key =
      (files.filter (·.key = key)).flatMap fun file => (reply? file).toList := by
  induction files generalizing turns with
  | nil => rfl
  | cons file others ih =>
      cases turns with
      | nil => cases answered
      | cons turn turns =>
          obtain ⟨now, later⟩ := List.cons.inj answered
          have rest := ih later
          rw [Pass.events, List.zipWith_cons_cons, List.flatten_cons, Trace.repliesFor_append,
            Turn.repliesFor_events, now]
          rw [Pass.events] at rest
          rw [rest]
          by_cases same : file.key = key
          · rw [if_pos same, List.filter_cons_of_pos (by simpa using same),
              List.flatMap_cons]
          · rw [if_neg same, List.filter_cons_of_neg (by simpa using same), List.nil_append]

theorem Pass.after_eq_answered {files : List FileResult} {turns : List Turn}
    {reply? : FileResult → Option RestoreReply}
    (answered : Pass.replies turns = files.map reply?) :
    Pass.after files turns = files.map fun file => Turn.answered file (reply? file) := by
  induction files generalizing turns with
  | nil => rfl
  | cons file others ih =>
      cases turns with
      | nil => cases answered
      | cons turn turns =>
          obtain ⟨now, later⟩ := List.cons.inj answered
          rw [Pass.after, Turn.result_eq_answered, now, ih later]
          rfl

include byCount

/-- In a pass that does not fail, what was requested in it before does not count for an entry. -/
theorem Pass.replies_ofServices (attempt : Nat) (past : Trace) {files : List FileResult}
    (distinct : (files.map FileResult.key).Nodup)
    (fine : Pass.failure (Pass.ofServices services delivery plan job attempt past files) = none) :
    Pass.replies (Pass.ofServices services delivery plan job attempt past files) =
      files.map fun file => file.reply? rule (past.repliesFor file.key).length := by
  induction files generalizing past with
  | nil => rfl
  | cons file others ih =>
      obtain ⟨unlisted, rest⟩ := List.nodup_cons.mp distinct
      have replied := Turn.reply_ofServices services delivery plan job attempt past file
      rw [byCount] at replied
      simp only [Pass.ofServices] at fine ⊢
      generalize Turn.ofServices services delivery plan job attempt past file = turn
        at fine replied ⊢
      cases turned : turn.failure with
      | some failure =>
          rw [turned] at fine
          cases (PassRuns.failure_cons_eq_none fine).1.symm.trans turned
      | none =>
          rw [turned] at fine
          have later := ih _ rest (PassRuns.failure_cons_eq_none fine).2
          refine List.cons_eq_cons.mpr ⟨replied, later.trans ?_⟩
          refine List.map_congr_left fun other made => ?_
          have different : file.key ≠ other.key := fun same =>
            unlisted (same ▸ List.mem_map_of_mem made)
          rw [Trace.repliesFor_append, Turn.repliesFor_events, if_neg different, List.append_nil]

end

/-! ## All passes -/

/-- Entries after some passes, and the requests in them, are what the entries tell one by one. -/
structure TellsFates (rule : String → Nat → RestoreReply) (passes : Nat)
    (earlier : String → Nat) (files after : List FileResult) (trace : Trace) : Prop where
  after : after = files.map fun file => file.afterPasses rule passes (earlier file.key)
  replies : ∀ file ∈ files,
    trace.repliesFor file.key = file.replies rule passes (earlier file.key)

section

variable {rule : String → Nat → RestoreReply} (delivery : DeliveryBudget) (plan : RestorePlan)
  (job : Job) (attempt : Nat) {passesLeft : Nat} {earlier : String → Nat}
  {files : List FileResult} {turns : List Turn}
  (distinct : (files.map FileResult.key).Nodup)
  (answered : Pass.replies turns = files.map fun file => file.reply? rule (earlier file.key))

include distinct answered

theorem Pass.repliesFor_key {file : FileResult} (listed : file ∈ files) :
    (Pass.events delivery plan job attempt files turns).repliesFor file.key =
      (file.reply? rule (earlier file.key)).toList := by
  rw [Pass.repliesFor_events delivery plan job attempt answered,
    filter_key_eq_singleton distinct listed, List.flatMap_singleton]

theorem TellsFates.of_last
    (stops : passesLeft = 0 ∨ (Pass.after files turns).all (·.accepted) = true) :
    TellsFates rule (passesLeft + 1) earlier files (Pass.after files turns)
      (Pass.events delivery plan job attempt files turns) := by
  have after := Pass.after_eq_answered answered
  have last (file : FileResult) (listed : file ∈ files) (count : Nat) :
      (Turn.answered file (file.reply? rule (earlier file.key))).replies rule passesLeft count =
        [] := by
    rcases stops with spent | settled
    · rw [spent]
      rfl
    · refine FileResult.replies_of_accepted ?_ passesLeft count
      refine List.all_eq_true.mp settled _ ?_
      rw [after]
      exact List.mem_map_of_mem listed
  refine ⟨after.trans (List.map_congr_left fun file listed => ?_), fun file listed => ?_⟩
  · rw [FileResult.afterPasses_succ, FileResult.afterPasses, last file listed]
    rfl
  · rw [Pass.repliesFor_key delivery plan job attempt distinct answered listed,
      FileResult.replies_succ, last file listed, List.append_nil]

theorem TellsFates.of_more {after : List FileResult} {later : Trace}
    (rest : TellsFates rule passesLeft
      (fun key => earlier key +
        ((Pass.events delivery plan job attempt files turns).repliesFor key).length)
      (Pass.after files turns) after later) :
    TellsFates rule (passesLeft + 1) earlier files after
      (Pass.events delivery plan job attempt files turns ++
        .sleep plan.passes.sleep :: later) := by
  have passed := Pass.after_eq_answered answered
  have asked {file : FileResult} (listed : file ∈ files) :=
    Pass.repliesFor_key delivery plan job attempt distinct answered listed
  refine ⟨?_, fun file listed => ?_⟩
  · rw [rest.after, passed, List.map_map]
    refine List.map_congr_left fun file listed => ?_
    dsimp only [Function.comp_apply]
    rw [Turn.answered_key, asked listed, FileResult.afterPasses_succ]
  · have told := rest.replies _ (passed ▸ List.mem_map_of_mem listed)
    rw [Turn.answered_key, asked listed] at told
    have slept : Trace.repliesFor file.key [.sleep plan.passes.sleep] = [] :=
      Trace.repliesFor_of_restores_eq_nil rfl file.key
    rw [← List.singleton_append, Trace.repliesFor_append, Trace.repliesFor_append, slept,
      List.nil_append, asked listed, told, FileResult.replies_succ]

end

theorem Passes.ofServices_tellsFates {services : Services} {rule : String → Nat → RestoreReply}
    (byCount : services.RepliesByCount rule) (delivery : DeliveryBudget) (plan : RestorePlan)
    (job : Job) (passesLeft attempt : Nat) (past : Trace) {files : List FileResult}
    (distinct : (files.map FileResult.key).Nodup)
    (counted : attempt + passesLeft ≤ passCountBound)
    (fine : ∀ turns ∈ Passes.ofServices services delivery plan job passesLeft attempt past files,
      Pass.failure turns = none) :
    TellsFates rule passesLeft (fun key => (past.repliesFor key).length) files
      (Passes.after files
        (Passes.ofServices services delivery plan job passesLeft attempt past files))
      (Passes.events delivery plan job attempt files
        (Passes.ofServices services delivery plan job passesLeft attempt past files)) := by
  induction passesLeft generalizing attempt past files with
  | zero => exact ⟨(List.map_id files).symm, fun _ _ => rfl⟩
  | succ passesLeft ih =>
      have replied := Pass.replies_ofServices byCount delivery plan job attempt past distinct
      rcases Passes.ofServices_succ services delivery plan job passesLeft attempt past files rfl
        rfl with ⟨stops, last⟩ | ⟨more, goesOn⟩
      · rw [last] at fine ⊢
        have passed := fine _ List.mem_cons_self
        rw [Passes.events_singleton]
        refine TellsFates.of_last delivery plan job attempt distinct (replied passed) ?_
        rcases stops with failed | uncounted | stops
        · rw [passed] at failed
          cases failed
        · omega
        · exact stops
      · rw [goesOn] at fine ⊢
        have answered := replied (fine _ List.mem_cons_self)
        have sameKeys := keys_eq_of_requested_eq (Pass.requested_after files
          (Pass.ofServices services delivery plan job attempt past files))
        have rest := ih (attempt + 1)
          (past ++ Pass.events delivery plan job attempt files
            (Pass.ofServices services delivery plan job attempt past files) ++
              [.sleep plan.passes.sleep])
          (sameKeys ▸ distinct) (by omega)
          fun later made => fine later (List.mem_cons_of_mem _ made)
        have slept (key : String) : Trace.repliesFor key [.sleep plan.passes.sleep] = [] :=
          Trace.repliesFor_of_restores_eq_nil rfl key
        simp only [Trace.repliesFor_append, slept, List.append_nil, List.length_append] at rest
        rw [Passes.events_cons _ _ _ _ _ _ more]
        exact TellsFates.of_more delivery plan job attempt distinct answered rest

end GranuleRecall
