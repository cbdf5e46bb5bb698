import GranuleRecall.Proofs.Course.Waiting
import GranuleRecall.Proofs.Course.Failures

/-! # What a course requests

The requests of passes that do not fail, with their answers. Each pass requests every entry that
waits before it, and an entry waits until one of its requests was accepted. -/

set_option autoImplicit false

namespace GranuleRecall

/-- How a request for a restore is answered. An acceptance is reported. -/
inductive Answer
  | accepted (notice : Notice)
  | rejected (message : String)
deriving DecidableEq, Repr

/-- A request in a pass: for which entry, and how it is answered. -/
structure FileRequest where
  position : Nat
  file : RequestedFile
  answer : Answer
deriving DecidableEq, Repr

namespace FileRequest

def isAccepted (request : FileRequest) : Bool :=
  match request.answer with
  | .accepted _ => true
  | .rejected _ => false

/-- What happens for a request in the pass of some number. The report on an acceptance follows
the acceptance. -/
def events (delivery : DeliveryBudget) (plan : RestorePlan) (job : Job) (attempt : Nat)
    (request : FileRequest) : Trace :=
  let file : FileResult := .pending request.file
  match request.answer with
  | .accepted notice =>
    .restore (plan.callFor file) .accepted ::
      .log (Restores.acceptedRecord plan job attempt file) ::
      notice.sending.events delivery (Restores.acceptedMessage job file notice.time) 1
  | .rejected message =>
    [.restore (plan.callFor file) (.rejected message),
      .log (Restores.rejectedRecord job attempt file message)]

end FileRequest

def Turn.request (position : Nat) (file : RequestedFile) : Turn → List FileRequest
  | .kept => []
  | .accepted notice => [⟨position, file, .accepted notice⟩]
  | .rejected message => [⟨position, file, .rejected message⟩]
  | .unusable _ => []

theorem Turn.mem_request {position : Nat} {file : RequestedFile} {turn : Turn}
    {request : FileRequest} (made : request ∈ Turn.request position file turn) :
    request.position = position ∧ request.file = file := by
  cases turn with
  | kept => cases made
  | accepted notice =>
      cases List.mem_singleton.mp made
      exact ⟨rfl, rfl⟩
  | rejected message =>
      cases List.mem_singleton.mp made
      exact ⟨rfl, rfl⟩
  | unusable message => cases made

def Pass.requests (files : List RequestedFile) (turns : List Turn) : List FileRequest :=
  Pass.collect Turn.request 0 files turns

/-! ## A pass that does not fail -/

namespace PassRuns

variable {files : List FileResult} {turns : List Turn}

theorem failure_cons_eq_none {turn : Turn}
    (fine : Pass.failure (turn :: turns) = none) :
    turn.failure = none ∧ Pass.failure turns = none := by
  rw [Pass.failure, List.findSome?_cons] at fine
  cases turned : turn.failure with
  | none =>
      rw [turned] at fine
      exact ⟨rfl, fine⟩
  | some failure =>
      rw [turned] at fine
      cases fine

theorem events_eq (run : PassRuns files turns) (fine : Pass.failure turns = none)
    (delivery : DeliveryBudget) (plan : RestorePlan) (job : Job) (attempt position : Nat) :
    Pass.events delivery plan job attempt files turns =
      (Pass.collect Turn.request position (files.map FileResult.requested) turns).flatMap
        (FileRequest.events delivery plan job attempt) := by
  induction run generalizing position with
  | done => rfl
  | kept _ _ ih => exact ih (failure_cons_eq_none fine).2 (position + 1)
  | accepted _ _ _ ih =>
      exact congrArg (_ ++ ·) (ih (failure_cons_eq_none fine).2 (position + 1))
  | rejected _ _ ih =>
      exact congrArg (_ ++ ·) (ih (failure_cons_eq_none fine).2 (position + 1))
  | undelivered _ unposted =>
      have turned := (failure_cons_eq_none fine).1
      rw [Sending.failure_eq_none_iff.mp turned] at unposted
      cases unposted
  | unusable _ => cases fine

theorem positions_requests (run : PassRuns files turns) (fine : Pass.failure turns = none)
    (position : Nat) :
    (Pass.collect Turn.request position (files.map FileResult.requested) turns).map
        FileRequest.position =
      waitingPositions position files := by
  induction run generalizing position with
  | done => rfl
  | kept settled _ ih =>
      rw [waitingPositions_cons_of_accepted settled]
      exact ih (failure_cons_eq_none fine).2 (position + 1)
  | accepted waiting _ _ ih =>
      rw [waitingPositions_cons_of_waiting waiting]
      exact congrArg (List.cons position) (ih (failure_cons_eq_none fine).2 (position + 1))
  | rejected waiting _ ih =>
      rw [waitingPositions_cons_of_waiting waiting]
      exact congrArg (List.cons position) (ih (failure_cons_eq_none fine).2 (position + 1))
  | undelivered _ unposted =>
      have turned := (failure_cons_eq_none fine).1
      rw [Sending.failure_eq_none_iff.mp turned] at unposted
      cases unposted
  | unusable _ => cases fine

end PassRuns

/-! ## Which entries are settled -/

/-- An entry is settled by some passes when it arrived accepted or one of its requests in them
was accepted. -/
def Granule.settled (granule : Granule) (passes : List (List FileRequest)) (position : Nat) :
    Bool :=
  granule.results[position]?.any (·.accepted) ||
    passes.any (·.any fun request => request.position == position && request.isAccepted)

def Granule.unsettled (granule : Granule) (passes : List (List FileRequest)) : List Nat :=
  (List.range granule.results.length).filter (!granule.settled passes ·)

theorem waitingPositions_succ (position : Nat) (files : List FileResult) :
    waitingPositions (position + 1) files =
      (waitingPositions position files).map (· + 1) := by
  simp [waitingPositions, List.zipIdx_succ, List.filter_map, Function.comp_def]

theorem waitingPositions_eq_filter (files : List FileResult) :
    waitingPositions 0 files =
      (List.range files.length).filter fun position => !files[position]?.any (·.accepted) := by
  induction files with
  | nil => rfl
  | cons file others ih =>
      have later : waitingPositions 1 others =
          ((List.range others.length).map (· + 1)).filter fun position =>
            !(file :: others)[position]?.any (·.accepted) := by
        rw [waitingPositions_succ 0 others, ih, List.filter_map]
        rfl
      rw [List.length_cons, List.range_succ_eq_map]
      cases settled : file.accepted with
      | true =>
          rw [waitingPositions_cons_of_accepted settled, Nat.zero_add, later,
            List.filter_cons_of_neg (by simp [settled])]
      | false =>
          rw [waitingPositions_cons_of_waiting settled, Nat.zero_add, later,
            List.filter_cons_of_pos (by simp [settled])]

theorem Pass.any_requests (files : List RequestedFile) (turns : List Turn) {position : Nat}
    (within : position < files.length) :
    ((Pass.requests files turns).any fun request =>
        request.position == position && request.isAccepted) =
      turns[position]?.any Turn.isAcceptance := by
  rw [Bool.eq_iff_iff, List.any_eq_true]
  constructor
  · rintro ⟨request, made, fits⟩
    obtain ⟨index, file, turn, _, turned, shown⟩ := Pass.mem_collect_iff.mp made
    rw [Nat.zero_add] at shown
    cases turn with
    | kept => cases shown
    | accepted notice =>
        cases List.mem_singleton.mp shown
        have place : index = position := by simpa using (Bool.and_eq_true_iff.mp fits).1
        subst place
        rw [turned]
        rfl
    | rejected message =>
        cases List.mem_singleton.mp shown
        cases (Bool.and_eq_true_iff.mp fits).2
    | unusable message => cases shown
  · intro accepts
    cases turned : turns[position]? with
    | none =>
        rw [turned] at accepts
        cases accepts
    | some turn =>
        rw [turned] at accepts
        cases turn with
        | accepted notice =>
            refine ⟨⟨position, files[position], .accepted notice⟩, ?_, ?_⟩
            · refine Pass.mem_collect_iff.mpr ⟨position, files[position], .accepted notice,
                List.getElem?_eq_getElem within, turned, ?_⟩
              rw [Nat.zero_add]
              exact List.mem_singleton.mpr rfl
            · simp [FileRequest.isAccepted]
        | kept => cases accepts
        | rejected message => cases accepts
        | unusable message => cases accepts

theorem Pass.any_accepted_after (files : List FileResult) (turns : List Turn)
    {position : Nat} (within : position < files.length) :
    (Pass.after files turns)[position]?.any (·.accepted) =
      (files[position]?.any (·.accepted) || turns[position]?.any Turn.isAcceptance) := by
  rw [Pass.getElem?_after, List.getElem?_eq_getElem within]
  cases turned : turns[position]? with
  | none => simp
  | some turn => simp

/-- An entry is accepted after some passes exactly when they settle it. -/
theorem Passes.any_accepted_after (files : List FileResult) (passes : List (List Turn))
    {position : Nat} (within : position < files.length) :
    (Passes.after files passes)[position]?.any (·.accepted) =
      (files[position]?.any (·.accepted) ||
        (passes.map (Pass.requests (files.map FileResult.requested))).any
          (·.any fun request => request.position == position && request.isAccepted)) := by
  induction passes generalizing files with
  | nil => simp [Passes.after]
  | cons turns later ih =>
      have still : position < (Pass.after files turns).length := by rwa [Pass.length_after]
      have asked : position < (files.map FileResult.requested).length := by
        rwa [List.length_map]
      have rest := ih (Pass.after files turns) still
      rw [Pass.requested_after, Pass.any_accepted_after files turns within] at rest
      rw [List.map_cons, List.any_cons, Pass.any_requests _ turns asked, ← Bool.or_assoc]
      exact rest

theorem Granule.unsettled_eq (granule : Granule) (passes : List (List Turn)) :
    granule.unsettled
        (passes.map (Pass.requests (granule.results.map FileResult.requested))) =
      waitingPositions 0 (Passes.after granule.results passes) := by
  rw [waitingPositions_eq_filter, Passes.length_after, Granule.unsettled]
  refine List.filter_congr fun position listed => ?_
  rw [Passes.any_accepted_after granule.results passes (List.mem_range.mp listed)]
  rfl

end GranuleRecall
