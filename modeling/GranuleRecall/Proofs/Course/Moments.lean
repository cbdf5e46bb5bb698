import GranuleRecall.Proofs.Course.Failures
import GranuleRecall.Proofs.Course.Fates
import Mathlib.Data.Prod.Lex
import Mathlib.Logic.Relation

/-! # A run moment by moment

The passes of a run in small steps. A moment has the entries as they are, what was requested and
what happened, and says where in its pass the run is; each step either asks for one restore or
leaves all entries as they are. A step changes nothing of what the run comes to, every point of a
run belongs to a moment, and the run ends as its last moment does. -/

set_option autoImplicit false

namespace GranuleRecall

instance : LawfulMonad Procedure :=
  LawfulMonad.mk' Procedure Procedure.andThen_result Procedure.result_andThen
    Procedure.andThen_assoc

/-! ## What is left after a reply, and after a pass -/

namespace Restores

section

variable (services : Services) (delivery : DeliveryBudget) (plan : RestorePlan) (job : Job)

/-- What is left of the turn of a file when its request was replied to. -/
def afterReply (attempt : Nat) (file : FileResult) : RestoreReply → Procedure FileResult
  | .accepted => do
    Procedure.tell (acceptedRecord plan job attempt file)
    let now ← services.now
    deliver services delivery (.ofFile (.pending job file.accept now))
    return file.accept
  | .rejected message => do
    Procedure.tell (rejectedRecord job attempt file message)
    return file.reject message
  | .unusable message => Procedure.fail (.configuration message)

/-- What is left when a pass is over. -/
def afterPass (passesLeft attempt : Nat) (files : List FileResult) :
    Procedure (List FileResult) :=
  if passCountBound ≤ attempt then Procedure.fail .passCountOverflow
  else if passesLeft = 0 || files.all (·.accepted) then return files
  else do
    Procedure.sleep plan.passes.sleep
    passesFrom services delivery plan job passesLeft (attempt + 1) files

theorem requestFile_eq_bind (attempt : Nat) (file : FileResult) :
    requestFile services delivery plan job attempt file =
      services.askRestore (plan.callFor file) >>=
        afterReply services delivery plan job attempt file := rfl

theorem passesFrom_succ (passesLeft attempt : Nat) (files : List FileResult) :
    passesFrom services delivery plan job (passesLeft + 1) attempt files =
      pass services delivery plan job attempt files >>=
        afterPass services delivery plan job passesLeft attempt := rfl

end

variable {services : Services} {delivery : DeliveryBudget} {plan : RestorePlan} {job : Job}
  {attempt : Nat} {file result : FileResult} {reply : RestoreReply} {past added : Trace}

theorem restores_deliver {message : Message} {outcome : Except Failure Unit}
    (ran : deliver services delivery message past = (outcome, added)) : added.restores = [] := by
  rw [deliver_eq] at ran
  obtain ⟨_, rfl⟩ := Prod.mk.inj ran
  exact Sending.restores_events ..

/-- After a reply nothing more is requested in the turn, and what becomes of the file is decided.
A turn fails only with a message that is not delivered or a request that is unusable. -/
theorem afterReply_cases (services : Services) (delivery : DeliveryBudget) (plan : RestorePlan)
    (job : Job) (attempt : Nat) (file : FileResult) (reply : RestoreReply) (past : Trace) :
    ∃ added, added.restores = [] ∧
      (afterReply services delivery plan job attempt file reply past =
          (.ok (Turn.answered file (some reply)), added) ∨
        (∃ attempts reasons, afterReply services delivery plan job attempt file reply past =
          (.error (.undelivered Table.file.name attempts reasons), added)) ∨
        ∃ message, afterReply services delivery plan job attempt file reply past =
          (.error (.configuration message), added)) := by
  cases reply with
  | accepted =>
      dsimp only [afterReply]
      rw [Procedure.bind_of_ok (Procedure.tell_apply _ _),
        Procedure.bind_of_ok (services.now_apply _)]
      rcases delivered : deliver services delivery
        (.ofFile (.pending job file.accept
          (services.clock (past ++ [.log (acceptedRecord plan job attempt file)]))))
        (past ++ [.log (acceptedRecord plan job attempt file)] ++ []) with ⟨outcome, sent⟩
      have unasked : sent.restores = [] := restores_deliver delivered
      have quiet : Trace.restores (.log (acceptedRecord plan job attempt file) :: sent) = [] :=
        unasked
      cases outcome with
      | error failed =>
          obtain ⟨attempts, reasons, rfl⟩ := deliver_error_eq_undelivered delivered
          rw [Procedure.bind_of_error delivered]
          exact ⟨_, quiet, .inr (.inl ⟨attempts, reasons, rfl⟩)⟩
      | ok _ =>
          rw [Procedure.bind_of_ok delivered, Procedure.pure_apply, List.append_nil]
          exact ⟨_, quiet, .inl rfl⟩
  | rejected message => exact ⟨_, rfl, .inl rfl⟩
  | unusable message => exact ⟨_, rfl, .inr (.inr ⟨message, rfl⟩)⟩

theorem answered_of_afterReply
    (ran : afterReply services delivery plan job attempt file reply past = (.ok result, added)) :
    result = Turn.answered file (some reply) ∧ added.restores = [] := by
  obtain ⟨events, quiet, turned | ⟨_, _, failed⟩ | ⟨_, failed⟩⟩ :=
    afterReply_cases services delivery plan job attempt file reply past
  · cases ran.symm.trans turned
    exact ⟨rfl, quiet⟩
  · cases ran.symm.trans failed
  · cases ran.symm.trans failed

end Restores

/-! ## Moments -/

/-- A restore that was requested for the entry at some position, and the reply. -/
structure EntryRequest where
  position : Nat
  call : RestoreCall
  reply : RestoreReply
deriving DecidableEq, Repr

def EntryRequest.exchange (request : EntryRequest) : RestoreCall × RestoreReply :=
  (request.call, request.reply)

/-- A moment in the passes of a run. -/
structure Moment where
  /-- How many passes may follow the one that is under way. -/
  passesLeft : Nat
  attempt : Nat
  /-- The entries whose turn in this pass is over. -/
  visited : List FileResult
  /-- The entry whose request was just replied to, as it was before, and the reply. -/
  replied? : Option (FileResult × RestoreReply)
  /-- The entries whose turn in this pass is to come. -/
  waiting : List FileResult
  requests : List EntryRequest
  trace : Trace

namespace Moment

/-- All entries as they are. A reply counts as soon as it is there. -/
def entries (moment : Moment) : List FileResult :=
  moment.visited ++
    (moment.replied?.map fun (file, reply) => Turn.answered file (some reply)).toList ++
    moment.waiting

theorem entries_eq_visited {moment : Moment} (unreplied : moment.replied? = none)
    (last : moment.waiting = []) : moment.entries = moment.visited := by
  rw [entries, unreplied, last, Option.map_none, Option.toList_none, List.append_nil,
    List.append_nil]

/-- The entry whose turn comes next stands behind those whose turn is over. -/
theorem getElem?_entries_of_first {moment : Moment} {file : FileResult}
    {others : List FileResult} (unreplied : moment.replied? = none)
    (first : moment.waiting = file :: others) :
    moment.entries[moment.visited.length]? = some file := by
  simp [entries, unreplied, first]

/-- How many entries have had a request or been passed over in this pass. -/
def reached (moment : Moment) : Nat :=
  moment.visited.length + moment.replied?.toList.length

def first (plan : RestorePlan) (files : List FileResult) (past : Trace) : Moment where
  passesLeft := plan.passes.totalAttempts - 1
  attempt := 1
  visited := []
  replied? := none
  waiting := files
  requests := []
  trace := past

section

variable (services : Services) (delivery : DeliveryBudget) (plan : RestorePlan) (job : Job)

/-- One step of a run. -/
inductive Step : Moment → Moment → Prop
  | kept {moment : Moment} {file : FileResult} {others : List FileResult} :
      moment.replied? = none → moment.waiting = file :: others → file.accepted = true →
      Step moment { moment with visited := moment.visited ++ [file], waiting := others }
  | requested {moment : Moment} {file : FileResult} {others : List FileResult}
      {reply : RestoreReply} :
      moment.replied? = none → moment.waiting = file :: others → file.accepted = false →
      reply = services.restore moment.trace (plan.callFor file) →
      Step moment
        { moment with
          replied? := some (file, reply)
          waiting := others
          requests := moment.requests ++ [⟨moment.visited.length, plan.callFor file, reply⟩]
          trace := moment.trace ++ [.restore (plan.callFor file) reply] }
  | turned {moment : Moment} {file result : FileResult} {reply : RestoreReply} {added : Trace} :
      moment.replied? = some (file, reply) →
      Restores.afterReply services delivery plan job moment.attempt file reply moment.trace =
        (.ok result, added) →
      Step moment
        { moment with
          visited := moment.visited ++ [result]
          replied? := none
          trace := moment.trace ++ added }
  | repeated {moment : Moment} {passesLeft : Nat} :
      moment.replied? = none → moment.waiting = [] → moment.attempt < passCountBound →
      moment.passesLeft = passesLeft + 1 → moment.visited.all (·.accepted) = false →
      Step moment
        { moment with
          passesLeft := passesLeft
          attempt := moment.attempt + 1
          visited := []
          waiting := moment.visited
          trace := moment.trace ++ [.sleep plan.passes.sleep] }

/-- A moment after which there is no step: how the passes end in it, and what still happens. -/
inductive Ends (moment : Moment) : Except Failure (List FileResult) → Trace → Prop
  | undelivered {file : FileResult} {reply : RestoreReply} {attempts : Nat} {reasons : String}
      {added : Trace} :
      moment.replied? = some (file, reply) →
      Restores.afterReply services delivery plan job moment.attempt file reply moment.trace =
        (.error (.undelivered Table.file.name attempts reasons), added) →
      added.restores = [] →
      Ends moment (.error (.undelivered Table.file.name attempts reasons)) added
  | unusable {file : FileResult} {reply : RestoreReply} {message : String} {added : Trace} :
      moment.replied? = some (file, reply) →
      Restores.afterReply services delivery plan job moment.attempt file reply moment.trace =
        (.error (.configuration message), added) →
      added.restores = [] →
      Ends moment (.error (.configuration message)) added
  | uncounted :
      moment.replied? = none → moment.waiting = [] → passCountBound ≤ moment.attempt →
      Ends moment (.error .passCountOverflow) []
  | finished :
      moment.replied? = none → moment.waiting = [] → moment.attempt < passCountBound →
      moment.passesLeft = 0 ∨ moment.visited.all (·.accepted) = true →
      Ends moment (.ok moment.visited) []

/-- What is left of the turn that is under way. -/
def restOfTurn (moment : Moment) : Procedure (List FileResult) :=
  match moment.replied? with
  | none => return []
  | some (file, reply) => do
    let file ← Restores.afterReply services delivery plan job moment.attempt file reply
    return [file]

/-- What is left of the passes. -/
def rest (moment : Moment) : Procedure (List FileResult) := do
  let turned ← moment.restOfTurn services delivery plan job
  let others ← Restores.pass services delivery plan job moment.attempt moment.waiting
  Restores.afterPass services delivery plan job moment.passesLeft moment.attempt
    (moment.visited ++ turned ++ others)

/-- What the passes come to from a moment on: their outcome, and all that will have happened. -/
def whole (moment : Moment) : Except Failure (List FileResult) × Trace :=
  let (outcome, added) := moment.rest services delivery plan job moment.trace
  (outcome, moment.trace ++ added)

end

section

variable {services : Services} {delivery : DeliveryBudget} {plan : RestorePlan} {job : Job}
  {moment next : Moment}

theorem whole_eq {outcome : Except Failure (List FileResult)} {added : Trace}
    (ran : moment.rest services delivery plan job moment.trace = (outcome, added)) :
    moment.whole services delivery plan job = (outcome, moment.trace ++ added) := by
  rw [whole, ran]

variable (services delivery plan job moment) in
theorem trace_isPrefix_whole :
    moment.trace <+: (moment.whole services delivery plan job).2 :=
  List.prefix_append _ _

/-- When a procedure comes first in what is left, nothing changes by carrying it out. -/
theorem whole_eq_of_bind {α : Type} {begun : Procedure α} {value : α} {added : Trace}
    (others : α → Procedure (List FileResult))
    (ran : begun moment.trace = (.ok value, added))
    (split : moment.rest services delivery plan job = begun >>= others)
    (left : next.rest services delivery plan job = others value)
    (traced : next.trace = moment.trace ++ added) :
    next.whole services delivery plan job = moment.whole services delivery plan job := by
  rw [whole, whole, split, Procedure.bind_of_ok ran, left, traced]
  simp only [List.append_assoc]

/-- A step changes nothing of what the passes come to. -/
theorem Step.whole_eq (step : Step services delivery plan job moment next) :
    next.whole services delivery plan job = moment.whole services delivery plan job := by
  cases step with
  | @kept file others unreplied first settled =>
      refine whole_eq_of_bind (fun _ => moment.rest services delivery plan job)
        (Procedure.pure_apply _ ()) (pure_bind _ _).symm ?_ (List.append_nil _).symm
      simp only [rest, restOfTurn, unreplied, first, Restores.pass, Restores.turn, settled,
        ↓reduceIte, bind_assoc, pure_bind, List.nil_append, List.append_assoc,
        List.singleton_append]
  | @requested file others reply unreplied first waits replied =>
      subst replied
      refine whole_eq_of_bind
        (fun reply => do
          let file ← Restores.afterReply services delivery plan job moment.attempt file reply
          let others ← Restores.pass services delivery plan job moment.attempt others
          Restores.afterPass services delivery plan job moment.passesLeft moment.attempt
            (moment.visited ++ [file] ++ others))
        (services.askRestore_apply (plan.callFor file) _) ?_ ?_ rfl
      · simp only [rest, restOfTurn, unreplied, first, Restores.pass, Restores.turn, waits,
          Bool.false_eq_true, ↓reduceIte, Restores.requestFile_eq_bind, bind_assoc, pure_bind,
          List.nil_append, List.append_assoc, List.singleton_append]
      · simp only [rest, restOfTurn, bind_assoc, pure_bind]
  | @turned file result reply added replied ran =>
      refine whole_eq_of_bind
        (fun file => do
          let others ← Restores.pass services delivery plan job moment.attempt moment.waiting
          Restores.afterPass services delivery plan job moment.passesLeft moment.attempt
            (moment.visited ++ [file] ++ others))
        ran ?_ ?_ rfl
      · simp only [rest, restOfTurn, replied, bind_assoc, pure_bind]
      · simp only [rest, restOfTurn, pure_bind, List.append_nil]
  | @repeated passesLeft unreplied last counted left waits =>
      refine whole_eq_of_bind
        (fun _ => Restores.passesFrom services delivery plan job moment.passesLeft
          (moment.attempt + 1) moment.visited)
        (Procedure.sleep_apply _ plan.passes.sleep) ?_ ?_ rfl
      · have room : ¬ passCountBound ≤ moment.attempt := Nat.not_le.mpr counted
        have more : moment.passesLeft ≠ 0 := by omega
        simp only [rest, restOfTurn, unreplied, last, Restores.pass, pure_bind,
          Restores.afterPass, room, more, waits, List.append_nil, decide_false, Bool.or_self,
          Bool.false_eq_true, ↓reduceIte]
      · rw [left, Restores.passesFrom_succ]
        simp only [rest, restOfTurn, unreplied, pure_bind, List.nil_append]

theorem Ends.rest_eq {outcome : Except Failure (List FileResult)} {added : Trace}
    (ends : Ends services delivery plan job moment outcome added) :
    moment.rest services delivery plan job moment.trace = (outcome, added) := by
  cases ends with
  | undelivered replied ran _ =>
      simp only [rest, restOfTurn, replied, bind_assoc]
      exact Procedure.bind_of_error ran _
  | unusable replied ran _ =>
      simp only [rest, restOfTurn, replied, bind_assoc]
      exact Procedure.bind_of_error ran _
  | uncounted unreplied last full =>
      simp only [rest, restOfTurn, unreplied, last, Restores.pass, pure_bind,
        Restores.afterPass, full, ↓reduceIte, Procedure.fail_apply]
  | finished unreplied last counted stops =>
      have room : ¬ passCountBound ≤ moment.attempt := Nat.not_le.mpr counted
      have ended : (decide (moment.passesLeft = 0) || moment.visited.all (·.accepted)) = true := by
        simpa using stops
      simp only [rest, restOfTurn, unreplied, last, Restores.pass, pure_bind,
        Restores.afterPass, room, ended, List.append_nil, ↓reduceIte, Procedure.pure_apply]

theorem Ends.whole_eq {outcome : Except Failure (List FileResult)} {added : Trace}
    (ends : Ends services delivery plan job moment outcome added) :
    moment.whole services delivery plan job = (outcome, moment.trace ++ added) :=
  Moment.whole_eq ends.rest_eq

theorem Ends.restores_eq_nil {outcome : Except Failure (List FileResult)} {added : Trace}
    (ends : Ends services delivery plan job moment outcome added) : added.restores = [] := by
  cases ends with
  | undelivered _ _ quiet => exact quiet
  | unusable _ _ quiet => exact quiet
  | uncounted _ _ _ => rfl
  | finished _ _ _ _ => rfl

/-- There is a step from every moment that is not the last one. -/
theorem step_or_ends (services : Services) (delivery : DeliveryBudget) (plan : RestorePlan)
    (job : Job) (moment : Moment) :
    (∃ next, Step services delivery plan job moment next) ∨
      ∃ outcome added, Ends services delivery plan job moment outcome added := by
  cases replied : moment.replied? with
  | some entry =>
      obtain ⟨file, reply⟩ := entry
      obtain ⟨added, quiet, turned | ⟨attempts, reasons, failed⟩ | ⟨message, failed⟩⟩ :=
        Restores.afterReply_cases services delivery plan job moment.attempt file reply moment.trace
      · exact .inl ⟨_, .turned replied turned⟩
      · exact .inr ⟨_, _, .undelivered replied failed quiet⟩
      · exact .inr ⟨_, _, .unusable replied failed quiet⟩
  | none =>
      cases first : moment.waiting with
      | cons file others =>
          cases settled : file.accepted with
          | true => exact .inl ⟨_, .kept replied first settled⟩
          | false => exact .inl ⟨_, .requested replied first settled rfl⟩
      | nil =>
          rcases Nat.lt_or_ge moment.attempt passCountBound with counted | full
          · cases left : moment.passesLeft with
            | zero => exact .inr ⟨_, _, .finished replied first counted (.inl left)⟩
            | succ passesLeft =>
                cases waits : moment.visited.all (·.accepted) with
                | true => exact .inr ⟨_, _, .finished replied first counted (.inr waits)⟩
                | false => exact .inl ⟨_, .repeated replied first counted left waits⟩
          · exact .inr ⟨_, _, .uncounted replied first full⟩

/-! ## What a step changes -/

/-- What one step changes: it asks for one restore, for the entry whose turn has come, or leaves
requests and entries alone. -/
inductive Changes (services : Services) (plan : RestorePlan) (moment next : Moment) : Prop
  | quiet {added : Trace} :
      next.trace = moment.trace ++ added → added.restores = [] →
      next.requests = moment.requests → next.entries = moment.entries →
      Changes services plan moment next
  | request {file : FileResult} {reply : RestoreReply} :
      moment.entries[moment.visited.length]? = some file → file.accepted = false →
      reply = services.restore moment.trace (plan.callFor file) →
      next.trace = moment.trace ++ [.restore (plan.callFor file) reply] →
      next.requests =
        moment.requests ++ [⟨moment.visited.length, plan.callFor file, reply⟩] →
      next.entries =
        moment.entries.set moment.visited.length (Turn.answered file (some reply)) →
      Changes services plan moment next

theorem Step.changes (step : Step services delivery plan job moment next) :
    Changes services plan moment next := by
  cases step with
  | kept unreplied first settled =>
      refine .quiet (List.append_nil _).symm rfl rfl ?_
      simp [entries, unreplied, first]
  | requested unreplied first waits replied =>
      refine .request (getElem?_entries_of_first unreplied first) waits replied rfl rfl ?_
      simp [entries, unreplied, first]
  | turned replied ran =>
      obtain ⟨rfl, quiet⟩ := Restores.answered_of_afterReply ran
      refine .quiet rfl quiet rfl ?_
      simp [entries, replied]
  | repeated unreplied last counted left waits =>
      refine .quiet rfl rfl rfl ?_
      rw [entries_eq_visited unreplied last]
      simp only [entries, unreplied, Option.map_none, Option.toList_none, List.nil_append]

theorem Step.trace_isPrefix (step : Step services delivery plan job moment next) :
    moment.trace <+: next.trace := by
  cases step.changes with
  | quiet traced _ _ _ => exact ⟨_, traced.symm⟩
  | request _ _ _ traced _ _ => exact ⟨_, traced.symm⟩

theorem Step.requests_isPrefix (step : Step services delivery plan job moment next) :
    moment.requests <+: next.requests := by
  cases step.changes with
  | quiet _ _ same _ => exact ⟨[], by rw [same, List.append_nil]⟩
  | request _ _ _ _ grown _ => exact ⟨_, grown.symm⟩

/-- No run has two ways to go on. -/
theorem step_rightUnique (services : Services) (delivery : DeliveryBudget)
    (plan : RestorePlan) (job : Job) :
    Relator.RightUnique (Step services delivery plan job) := by
  intro moment next other step step'
  cases step with
  | kept unreplied first settled =>
      cases step' with
      | kept _ first' _ =>
          cases first.symm.trans first'
          rfl
      | requested _ first' waits _ =>
          cases first.symm.trans first'
          cases settled.symm.trans waits
      | turned replied _ => cases unreplied.symm.trans replied
      | repeated _ last _ _ _ => cases first.symm.trans last
  | requested unreplied first waits replied =>
      cases step' with
      | kept _ first' settled =>
          cases first.symm.trans first'
          cases settled.symm.trans waits
      | requested _ first' _ replied' =>
          cases first.symm.trans first'
          rw [replied, replied']
      | turned replied _ => cases unreplied.symm.trans replied
      | repeated _ last _ _ _ => cases first.symm.trans last
  | turned replied ran =>
      cases step' with
      | kept unreplied _ _ => cases unreplied.symm.trans replied
      | requested unreplied _ _ _ => cases unreplied.symm.trans replied
      | turned replied' ran' =>
          cases replied.symm.trans replied'
          cases ran.symm.trans ran'
          rfl
      | repeated unreplied _ _ _ _ => cases unreplied.symm.trans replied
  | repeated unreplied last counted left waits =>
      cases step' with
      | kept _ first _ => cases first.symm.trans last
      | requested _ first _ _ => cases first.symm.trans last
      | turned replied _ => cases unreplied.symm.trans replied
      | repeated _ _ _ left' _ =>
          cases left.symm.trans left'
          rfl

/-! ## Every run of steps ends -/

/-- What grows smaller with each step: the passes that are left, and then what is left of the
pass. -/
def remaining (moment : Moment) : Nat ×ₗ Nat :=
  toLex (moment.passesLeft, 2 * moment.waiting.length + moment.replied?.toList.length)

theorem Step.remaining_lt (step : Step services delivery plan job moment next) :
    next.remaining < moment.remaining := by
  rw [remaining, remaining, Prod.Lex.toLex_lt_toLex]
  cases step with
  | kept unreplied first settled =>
      refine .inr ⟨rfl, ?_⟩
      simp [first]
  | requested unreplied first waits replied =>
      refine .inr ⟨rfl, ?_⟩
      simp only [unreplied, first, List.length_cons, Option.toList_some, Option.toList_none,
        List.length_nil]
      omega
  | turned replied ran =>
      refine .inr ⟨rfl, ?_⟩
      simp [replied]
  | repeated unreplied last counted left waits =>
      refine .inl ?_
      rw [left]
      exact Nat.lt_succ_self _

/-- What holds of every last moment, and of a moment when it holds of the next one, holds of all. -/
theorem induction_of_steps (services : Services) (delivery : DeliveryBudget)
    (plan : RestorePlan) (job : Job) {motive : Moment → Prop}
    (ends : ∀ moment outcome added,
      Ends services delivery plan job moment outcome added → motive moment)
    (steps : ∀ moment next, Step services delivery plan job moment next → motive next →
      motive moment) (moment : Moment) : motive moment := by
  have descending : WellFounded fun next moment : Moment => next.remaining < moment.remaining :=
    InvImage.wf remaining wellFounded_lt
  induction moment using descending.induction with
  | _ moment ih =>
      obtain ⟨next, step⟩ | ⟨outcome, added, last⟩ :=
        step_or_ends services delivery plan job moment
      · exact steps moment next step (ih next step.remaining_lt)
      · exact ends moment outcome added last

/-! ## Runs of steps -/

variable {later : Moment}

theorem whole_eq_of_steps
    (steps : Relation.ReflTransGen (Step services delivery plan job) moment later) :
    later.whole services delivery plan job = moment.whole services delivery plan job := by
  induction steps with
  | refl => rfl
  | tail _ step ih => exact step.whole_eq.trans ih

theorem trace_isPrefix_of_steps
    (steps : Relation.ReflTransGen (Step services delivery plan job) moment later) :
    moment.trace <+: later.trace := by
  induction steps with
  | refl => exact List.prefix_rfl
  | tail _ step ih => exact ih.trans step.trace_isPrefix

theorem requests_isPrefix_of_steps
    (steps : Relation.ReflTransGen (Step services delivery plan job) moment later) :
    moment.requests <+: later.requests := by
  induction steps with
  | refl => exact List.prefix_rfl
  | tail _ step ih => exact ih.trans step.requests_isPrefix

theorem exists_last (services : Services) (delivery : DeliveryBudget) (plan : RestorePlan)
    (job : Job) (moment : Moment) :
    ∃ last outcome added,
      Relation.ReflTransGen (Step services delivery plan job) moment last ∧
        Ends services delivery plan job last outcome added := by
  induction moment using induction_of_steps services delivery plan job with
  | ends moment outcome added ends => exact ⟨moment, outcome, added, .refl, ends⟩
  | steps moment next step ih =>
      obtain ⟨last, outcome, added, steps, ends⟩ := ih
      exact ⟨last, outcome, added, .head step steps, ends⟩

theorem restores_eq_nil_of_isPrefix {shorter longer : Trace} (quiet : longer.restores = [])
    (part : shorter <+: longer) : shorter.restores = [] := by
  obtain ⟨others, rfl⟩ := part
  rw [Trace.restores_append] at quiet
  exact (List.append_eq_nil_iff.mp quiet).1

theorem restores_eq_of_between {begun point added : Trace} (quiet : added.restores = [])
    (after : begun <+: point) (before : point <+: begun ++ added) :
    begun.restores = point.restores := by
  obtain ⟨part, rfl⟩ := after
  have unasked := restores_eq_nil_of_isPrefix quiet ((List.prefix_append_right_inj begun).mp before)
  rw [Trace.restores_append, unasked, List.append_nil]

/-- Every point of what happens belongs to a moment: nothing was requested between the two. -/
theorem exists_at_point (moment : Moment) {point : Trace} (begun : moment.trace <+: point)
    (within : point <+: (moment.whole services delivery plan job).2) :
    ∃ later, Relation.ReflTransGen (Step services delivery plan job) moment later ∧
      later.trace <+: point ∧ later.trace.restores = point.restores := by
  induction moment using induction_of_steps services delivery plan job with
  | ends moment outcome added ends =>
      rw [ends.whole_eq] at within
      exact ⟨moment, .refl, begun, restores_eq_of_between ends.restores_eq_nil begun within⟩
  | steps moment next step ih =>
      have goesOn (after : next.trace <+: point) :
          ∃ later, Relation.ReflTransGen (Step services delivery plan job) moment later ∧
            later.trace <+: point ∧ later.trace.restores = point.restores := by
        obtain ⟨later, steps, found⟩ := ih after (step.whole_eq ▸ within)
        exact ⟨later, .head step steps, found⟩
      have part := trace_isPrefix_whole services delivery plan job next
      rw [step.whole_eq] at part
      rcases List.prefix_or_prefix_of_prefix part within with after | before
      · exact goesOn after
      · cases step.changes with
        | quiet traced quiet _ _ =>
            rw [traced] at before
            exact ⟨moment, .refl, begun, restores_eq_of_between quiet begun before⟩
        | request _ _ _ traced _ _ =>
            rw [traced] at before
            rcases List.prefix_concat_iff.mp before with same | before
            · rw [traced, ← same] at goesOn
              exact goesOn List.prefix_rfl
            · have here : moment.trace = point := begun.eq_of_length_le before.length_le
              exact ⟨moment, .refl, begun, by rw [here]⟩

end

end Moment

/-! ## The moments of a run -/

section

variable (services : Services) (delivery : DeliveryBudget) (plan : RestorePlan) (jobId : String)
  (granule : Granule) (past : Trace)

/-- The job of a run that begins after some past. -/
def jobAt : Job :=
  ⟨jobId, granule.id, services.clock past, plan.bucket⟩

/-- A moment in the passes of a run, which begin when the job is announced. -/
def IsMomentOf (moment : Moment) : Prop :=
  ∃ announced,
    deliver services delivery (.ofJob (.started (jobAt services plan jobId granule past))) past =
        (.ok (), announced) ∧
      Relation.ReflTransGen
        (Moment.Step services delivery plan (jobAt services plan jobId granule past))
        (Moment.first plan granule.results (past ++ announced)) moment

/-- What is left of a run from a moment on. -/
def Moment.restOfRun (job : Job) (moment : Moment) : Procedure Granule := do
  let files ← moment.rest services delivery plan job
  Restores.conclude services delivery plan job { granule with results := files }

theorem PassBudget.totalAttempts_pos (budget : PassBudget) : 0 < budget.totalAttempts := by
  have positive : 0 < passCountBound := by decide
  rw [PassBudget.totalAttempts]
  omega

theorem Moment.rest_first (job : Job) (files : List FileResult) (begun : Trace) :
    (Moment.first plan files begun).rest services delivery plan job =
      Restores.passesFrom services delivery plan job plan.passes.totalAttempts 1 files := by
  obtain ⟨passesLeft, counted⟩ := Nat.exists_eq_succ_of_ne_zero plan.passes.totalAttempts_pos.ne'
  simp only [Moment.rest, Moment.restOfTurn, Moment.first, counted, Nat.succ_eq_add_one,
    Nat.add_sub_cancel, Restores.passesFrom_succ, pure_bind, List.nil_append]

theorem requestRestores_eq_announced :
    requestRestores services delivery plan jobId granule past =
      (do
        deliver services delivery (.ofJob (.started (jobAt services plan jobId granule past)))
        (Moment.first plan granule.results []).restOfRun services delivery plan granule
          (jobAt services plan jobId granule past)) past := by
  unfold requestRestores Moment.restOfRun
  rw [Procedure.bind_of_ok (services.now_apply past), List.append_nil, Moment.rest_first]
  rfl

/-- Nothing is requested when failed files are reported. -/
theorem Restores.restores_conclude (job : Job) (final : Granule) (begun : Trace) :
    (conclude services delivery plan job final begun).2.restores = [] := by
  rw [conclude_eq services delivery plan job final begun rfl, Trace.restores_append,
    Notices.restores_events, List.nil_append]
  unfold verdictEvents
  split
  · rfl
  · split
    · rfl
    · rfl

variable {services delivery plan jobId granule past} {moment : Moment}

variable (granule) in
theorem Moment.restOfRun_of_steps {job : Job} {later : Moment}
    (steps : Relation.ReflTransGen (Step services delivery plan job) moment later) :
    ∃ added, later.trace = moment.trace ++ added ∧
      moment.restOfRun services delivery plan granule job moment.trace =
        ((later.restOfRun services delivery plan granule job later.trace).1,
          added ++ (later.restOfRun services delivery plan granule job later.trace).2) := by
  obtain ⟨added, traced⟩ := trace_isPrefix_of_steps steps
  have same := whole_eq_of_steps steps
  rcases ran : moment.rest services delivery plan job moment.trace with ⟨outcome, events⟩
  rcases ran' : later.rest services delivery plan job later.trace with ⟨outcome', events'⟩
  rw [Moment.whole_eq ran, Moment.whole_eq ran', ← traced, List.append_assoc] at same
  obtain ⟨rfl, happened⟩ := Prod.mk.inj same
  obtain rfl : added ++ events' = events := List.append_cancel_left happened
  refine ⟨added, traced.symm, ?_⟩
  cases outcome' with
  | error failure =>
      rw [restOfRun, restOfRun, Procedure.bind_of_error ran, Procedure.bind_of_error ran']
  | ok files =>
      rw [restOfRun, restOfRun, Procedure.bind_of_ok ran, Procedure.bind_of_ok ran', ← traced,
        List.append_assoc, List.append_assoc]

/-- A run goes on from each of its moments: what happened and what is left are the whole run. -/
theorem IsMomentOf.resumes
    (reached : IsMomentOf services delivery plan jobId granule past moment) :
    ∃ elapsed, moment.trace = past ++ elapsed ∧
      requestRestores services delivery plan jobId granule past =
        ((moment.restOfRun services delivery plan granule
            (jobAt services plan jobId granule past) moment.trace).1,
          elapsed ++ (moment.restOfRun services delivery plan granule
            (jobAt services plan jobId granule past) moment.trace).2) := by
  obtain ⟨announced, delivered, steps⟩ := reached
  obtain ⟨added, traced, left⟩ := Moment.restOfRun_of_steps granule steps
  refine ⟨announced ++ added, by rw [traced, Moment.first, List.append_assoc], ?_⟩
  have begun : (Moment.first plan granule.results []).restOfRun services delivery plan granule
      (jobAt services plan jobId granule past) (past ++ announced) = _ := left
  rw [requestRestores_eq_announced, Procedure.bind_of_ok delivered, begun, List.append_assoc]

variable (services delivery plan jobId granule past)

/-- How a run ends: with the announcement of its job, in a pass, or after its passes. -/
inductive RunEnds : Prop
  | unannounced {attempts : Nat} {reasons : String} {events : Trace} :
      deliver services delivery (.ofJob (.started (jobAt services plan jobId granule past))) past =
          (.error (.undelivered Table.job.name attempts reasons), events) →
      requestRestores services delivery plan jobId granule past =
        (.error (.undelivered Table.job.name attempts reasons), events) →
      RunEnds
  | broken {moment : Moment} {failure : Failure} {added passed : Trace} :
      IsMomentOf services delivery plan jobId granule past moment →
      moment.Ends services delivery plan (jobAt services plan jobId granule past)
        (.error failure) added →
      past ++ passed = moment.trace ++ added →
      requestRestores services delivery plan jobId granule past = (.error failure, passed) →
      RunEnds
  | concluded {moment : Moment} {files : List FileResult} {added passed further : Trace}
      {outcome : Except Failure Granule} :
      IsMomentOf services delivery plan jobId granule past moment →
      moment.Ends services delivery plan (jobAt services plan jobId granule past)
        (.ok files) added →
      past ++ passed = moment.trace ++ added →
      Restores.conclude services delivery plan (jobAt services plan jobId granule past)
          { granule with results := files } (past ++ passed) = (outcome, further) →
      requestRestores services delivery plan jobId granule past = (outcome, passed ++ further) →
      RunEnds

theorem requestRestores_runEnds :
    RunEnds services delivery plan jobId granule past := by
  rcases announced : deliver services delivery
    (.ofJob (.started (jobAt services plan jobId granule past))) past with ⟨failed | _, events⟩
  · obtain ⟨attempts, reasons, rfl⟩ := deliver_error_eq_undelivered announced
    have begun := requestRestores_eq_announced services delivery plan jobId granule past
    rw [Procedure.bind_of_error announced] at begun
    exact .unannounced announced begun
  · obtain ⟨moment, outcome, added, steps, ends⟩ := Moment.exists_last services delivery plan
      (jobAt services plan jobId granule past)
      (Moment.first plan granule.results (past ++ events))
    have reached : IsMomentOf services delivery plan jobId granule past moment :=
      ⟨events, announced, steps⟩
    obtain ⟨elapsed, traced, ran⟩ := reached.resumes
    have happened : past ++ (elapsed ++ added) = moment.trace ++ added := by
      rw [traced, List.append_assoc]
    cases outcome with
    | error failure =>
        rw [Moment.restOfRun, Procedure.bind_of_error ends.rest_eq] at ran
        exact .broken reached ends happened ran
    | ok files =>
        rw [Moment.restOfRun, Procedure.bind_of_ok ends.rest_eq, ← happened] at ran
        dsimp only at ran
        rw [← List.append_assoc elapsed] at ran
        exact .concluded reached ends happened rfl ran

end

end GranuleRecall
