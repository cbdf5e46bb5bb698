import GranuleRecall.Proofs.Course.Sending
import GranuleRecall.Run.Restores

/-! # How a pass goes

A pass as data: one turn for each file, in the order of the files. The turns end with the first
that fails. `PassRuns` says once which turns a pass can have, and what is true of every pass is
derived from it. -/
set_option autoImplicit false

namespace GranuleRecall

/-- A report on a file: when it was made, and how its message was sent. -/
structure Notice where
  time : Time.Instant
  sending : Sending
deriving DecidableEq, Repr

/-- What a pass does about one file. -/
inductive Turn
  /-- Nothing: a restore was accepted before. -/
  | kept
  | accepted (notice : Notice)
  | rejected (message : String)
  | unusable (message : String)
deriving DecidableEq, Repr

namespace Restores

/-- The message that a restore of a file was accepted. -/
def acceptedMessage (job : Job) (file : FileResult) (time : Time.Instant) : Message :=
  .ofFile (.pending job file time)

/-- The message that no restore of a file was accepted. -/
def failedMessage (job : Job) (file : FileResult) (time : Time.Instant) : Message :=
  .ofFile (.withStatus job file .failed (some (failureMessage file)) time)

end Restores

namespace Turn

/-- How a turn fails. -/
def failure : Turn → Option Failure
  | kept => none
  | accepted notice => notice.sending.failure .file 1
  | rejected _ => none
  | unusable message => some (.configuration message)

/-- The answer to the request that is made in a turn. -/
def reply? : Turn → Option RestoreReply
  | kept => none
  | accepted _ => some .accepted
  | rejected message => some (.rejected message)
  | unusable message => some (.unusable message)

/-- The report that is made in a turn. -/
def notice? : Turn → Option Notice
  | accepted notice => some notice
  | _ => none

/-- A file after its turn. -/
def result (file : FileResult) : Turn → FileResult
  | kept => file
  | accepted _ => file.accept
  | rejected message => file.reject message
  | unusable _ => file

/-- What happens in a turn. -/
def events (delivery : DeliveryBudget) (plan : RestorePlan) (job : Job) (attempt : Nat)
    (file : FileResult) : Turn → Trace
  | kept => []
  | accepted notice =>
    .restore (plan.callFor file) .accepted ::
      .log (Restores.acceptedRecord plan job attempt file) ::
      notice.sending.events delivery (Restores.acceptedMessage job file notice.time) 1
  | rejected message =>
    [.restore (plan.callFor file) (.rejected message),
      .log (Restores.rejectedRecord job attempt file message)]
  | unusable message => [.restore (plan.callFor file) (.unusable message)]

variable (services : Services) (delivery : DeliveryBudget) (plan : RestorePlan) (job : Job)
  (attempt : Nat)

/-- The turn of a file that comes of the services' answers. -/
def ofServices (past : Trace) (file : FileResult) : Turn :=
  if file.accepted then kept
  else
    match services.restore past (plan.callFor file) with
    | .accepted =>
      let requested := past ++ [.restore (plan.callFor file) .accepted,
        .log (Restores.acceptedRecord plan job attempt file)]
      let time := services.clock requested
      accepted ⟨time, Sending.ofDelivery services delivery
        (Restores.acceptedMessage job file time) requested⟩
    | .rejected message => rejected message
    | .unusable message => unusable message

end Turn

/-! ## The turns of a pass -/

namespace Pass

/-- The failure of a pass is that of its first turn that fails. -/
def failure (turns : List Turn) : Option Failure :=
  turns.findSome? Turn.failure

/-- The files after their turns. Those that have none are as they were. -/
def after : List FileResult → List Turn → List FileResult
  | [], _ => []
  | files, [] => files
  | file :: others, turn :: turns => turn.result file :: after others turns

section

variable (services : Services) (delivery : DeliveryBudget) (plan : RestorePlan) (job : Job)
  (attempt : Nat)

/-- What happens in a pass. -/
def events (files : List FileResult) (turns : List Turn) : Trace :=
  (List.zipWith (Turn.events delivery plan job attempt) files turns).flatten

/-- The turns that come of the services' answers. -/
def ofServices (past : Trace) : List FileResult → List Turn
  | [] => []
  | file :: others =>
    let turn := Turn.ofServices services delivery plan job attempt past file
    match turn.failure with
    | some _ => [turn]
    | none => turn :: ofServices (past ++ turn.events delivery plan job attempt file) others

end

end Pass

/-- The turns that a pass over some files can have. -/
inductive PassRuns : List FileResult → List Turn → Prop
  | done : PassRuns [] []
  | kept {file : FileResult} {others : List FileResult} {turns : List Turn} :
      file.accepted = true → PassRuns others turns → PassRuns (file :: others) (.kept :: turns)
  | accepted {file : FileResult} {others : List FileResult} {notice : Notice}
      {turns : List Turn} :
      file.accepted = false → notice.sending.isPosted = true → PassRuns others turns →
      PassRuns (file :: others) (.accepted notice :: turns)
  | rejected {file : FileResult} {others : List FileResult} {message : String}
      {turns : List Turn} :
      file.accepted = false → PassRuns others turns →
      PassRuns (file :: others) (.rejected message :: turns)
  | undelivered {file : FileResult} {others : List FileResult} {notice : Notice} :
      file.accepted = false → notice.sending.isPosted = false →
      PassRuns (file :: others) [.accepted notice]
  | unusable {file : FileResult} {others : List FileResult} {message : String} :
      file.accepted = false → PassRuns (file :: others) [.unusable message]

/-! ## A pass follows its turns -/

section

variable (services : Services) (delivery : DeliveryBudget) (plan : RestorePlan) (job : Job)
  (attempt : Nat)

theorem Restores.requestFile_eq (past : Trace) {file : FileResult}
    (waiting : file.accepted = false) :
    Restores.requestFile services delivery plan job attempt file past =
      (Procedure.endedBy
        (Turn.ofServices services delivery plan job attempt past file).failure
        ((Turn.ofServices services delivery plan job attempt past file).result file),
        (Turn.ofServices services delivery plan job attempt past file).events
          delivery plan job attempt file) := by
  unfold Restores.requestFile Turn.ofServices
  rw [Procedure.bind_of_ok (services.askRestore_apply _ _), waiting]
  cases services.restore past (plan.callFor file) with
  | accepted =>
      dsimp only
      rw [Procedure.bind_of_ok (Procedure.tell_apply _ _),
        Procedure.bind_of_ok (services.now_apply _)]
      simp only [List.append_assoc, List.append_nil, List.cons_append, List.nil_append]
      rw [Procedure.bind_pure_of_ended (deliver_eq services delivery _ _) fun _ => file.accept]
      rfl
  | rejected message => rfl
  | unusable message => rfl

theorem Restores.turn_eq (past : Trace) (file : FileResult) :
    Restores.turn services delivery plan job attempt file past =
      (Procedure.endedBy
        (Turn.ofServices services delivery plan job attempt past file).failure
        ((Turn.ofServices services delivery plan job attempt past file).result file),
        (Turn.ofServices services delivery plan job attempt past file).events
          delivery plan job attempt file) := by
  unfold Restores.turn
  cases settled : file.accepted with
  | true =>
      simp only [↓reduceIte, Procedure.pure_apply, Turn.ofServices, settled]
      rfl
  | false =>
      simp only [Bool.false_eq_true, ↓reduceIte]
      exact Restores.requestFile_eq services delivery plan job attempt past settled

theorem Restores.pass_eq (past : Trace) (files : List FileResult) :
    Restores.pass services delivery plan job attempt files past =
      (Procedure.endedBy
        (Pass.failure (Pass.ofServices services delivery plan job attempt past files))
        (Pass.after files (Pass.ofServices services delivery plan job attempt past files)),
        Pass.events delivery plan job attempt files
          (Pass.ofServices services delivery plan job attempt past files)) := by
  induction files generalizing past with
  | nil => rfl
  | cons file others ih =>
      have turned := Restores.turn_eq services delivery plan job attempt past file
      simp only [Restores.pass, Pass.ofServices]
      cases failed : (Turn.ofServices services delivery plan job attempt past file).failure with
      | some failure =>
          rw [failed] at turned
          rw [Procedure.bind_of_error turned]
          simp [Pass.failure, Pass.events, failed, Procedure.endedBy]
      | none =>
          rw [failed] at turned
          rw [Procedure.bind_of_ok turned, Procedure.bind_pure_of_ended (ih _)]
          simp [Pass.failure, Pass.events, Pass.after, failed]

/-! ## Which turns there are -/

theorem Turn.ofServices_eq_kept_iff (past : Trace) (file : FileResult) :
    Turn.ofServices services delivery plan job attempt past file = .kept ↔
      file.accepted = true := by
  unfold Turn.ofServices
  cases settled : file.accepted with
  | true => simp
  | false => cases services.restore past (plan.callFor file) <;> simp

theorem Pass.ofServices_runs (past : Trace) (files : List FileResult) :
    PassRuns files (Pass.ofServices services delivery plan job attempt past files) := by
  induction files generalizing past with
  | nil => exact .done
  | cons file others ih =>
      have settled := Turn.ofServices_eq_kept_iff services delivery plan job attempt past file
      simp only [Pass.ofServices]
      cases turned : Turn.ofServices services delivery plan job attempt past file with
      | kept => exact .kept (settled.mp turned) (ih _)
      | accepted notice =>
          have waiting : file.accepted = false := by simpa [turned] using settled
          cases posted : notice.sending.isPosted with
          | true =>
              have fine : notice.sending.failure .file 1 = none :=
                Sending.failure_eq_none_iff.mpr posted
              simp only [Turn.failure, fine]
              exact .accepted waiting posted (ih _)
          | false =>
              cases failed : notice.sending.failure .file 1 with
              | none => simp [Sending.failure_eq_none_iff.mp failed] at posted
              | some failure =>
                  simp only [Turn.failure, failed]
                  exact .undelivered waiting posted
      | rejected message =>
          have waiting : file.accepted = false := by simpa [turned] using settled
          exact .rejected waiting (ih _)
      | unusable message =>
          have waiting : file.accepted = false := by simpa [turned] using settled
          exact .unusable waiting

end

/-! ## What every pass does -/

namespace Turn

variable (turn : Turn) (file : FileResult)

/-- Whether the request that is made in a turn is accepted. -/
def isAcceptance : Turn → Bool
  | accepted _ => true
  | _ => false

@[simp] theorem result_key : (turn.result file).key = file.key := by
  cases turn <;> rfl

@[simp] theorem result_destination : (turn.result file).destination = file.destination := by
  cases turn <;> rfl

@[simp] theorem result_accepted :
    (turn.result file).accepted = (file.accepted || turn.isAcceptance) := by
  cases turn <;> simp [result, isAcceptance, FileResult.accept, FileResult.reject]

variable (delivery : DeliveryBudget) (plan : RestorePlan) (job : Job) (attempt : Nat)

@[simp] theorem restores_events :
    (turn.events delivery plan job attempt file).restores =
      (turn.reply?.map fun reply => (plan.callFor file, reply)).toList := by
  cases turn with
  | accepted notice =>
      exact congrArg (List.cons _) (Sending.restores_events delivery _ 1 notice.sending)
  | _ => rfl

end Turn

namespace Pass

@[simp] theorem after_nil (files : List FileResult) : after files [] = files := by
  cases files <;> rfl

theorem getElem?_after (files : List FileResult) (turns : List Turn) (position : Nat) :
    (after files turns)[position]? =
      files[position]?.map fun file => turns[position]?.elim file (·.result file) := by
  induction files generalizing turns position with
  | nil => simp [after]
  | cons file others ih =>
      cases turns with
      | nil => simp
      | cons turn turns =>
          cases position with
          | zero => simp [after]
          | succ position => simpa [after] using ih turns position

@[simp] theorem length_after (files : List FileResult) (turns : List Turn) :
    (after files turns).length = files.length := by
  induction files generalizing turns with
  | nil => simp [after]
  | cons file others ih =>
      cases turns with
      | nil => simp
      | cons turn turns => simp [after, ih]

end Pass

end GranuleRecall
