import GranuleRecall.Proofs.Course.Publications

/-! # Which entries wait

Acceptances and waiting entries are in balance: each entry that waits before some passes is
accepted in them, once, or still waits after them. This holds of every pass, also of one that
fails, and it is what keeps an entry from being accepted twice. -/

set_option autoImplicit false

namespace GranuleRecall

/-- The positions of the entries of which no restore was accepted. -/
def waitingPositions (position : Nat) (files : List FileResult) : List Nat :=
  ((files.zipIdx position).filter (!·.1.accepted)).map Prod.snd

section

variable {position : Nat} {file : FileResult} {files others : List FileResult}

@[simp] theorem waitingPositions_nil : waitingPositions position [] = [] := rfl

theorem waitingPositions_cons_of_accepted (settled : file.accepted = true) :
    waitingPositions position (file :: others) = waitingPositions (position + 1) others := by
  simp [waitingPositions, settled]

theorem waitingPositions_cons_of_waiting (waiting : file.accepted = false) :
    waitingPositions position (file :: others) =
      position :: waitingPositions (position + 1) others := by
  simp [waitingPositions, waiting]

theorem waitingPositions_nodup (position : Nat) (files : List FileResult) :
    (waitingPositions position files).Nodup := by
  have kept : (waitingPositions position files).Sublist
      ((files.zipIdx position).map Prod.snd) :=
    List.filter_sublist.map Prod.snd
  rw [List.zipIdx_map_snd] at kept
  exact kept.nodup List.nodup_range'

theorem mem_waitingPositions_iff {entry : Nat} :
    entry ∈ waitingPositions 0 files ↔ files[entry]?.map FileResult.accepted = some false := by
  constructor
  · intro member
    obtain ⟨⟨found, place⟩, kept, rfl⟩ := List.mem_map.mp member
    obtain ⟨listed, waiting⟩ := List.mem_filter.mp kept
    have read := List.mem_zipIdx_iff_getElem?.mp listed
    simpa [read] using waiting
  · intro read
    obtain ⟨found, present, waiting⟩ := Option.map_eq_some_iff.mp read
    refine List.mem_map.mpr ⟨(found, entry), List.mem_filter.mpr ⟨?_, ?_⟩, rfl⟩
    · exact List.mem_zipIdx_iff_getElem?.mpr present
    · simp [waiting]

theorem accepted_iff_not_waiting {entry : Nat} :
    files[entry]?.map FileResult.accepted = some true ↔
      entry < files.length ∧ entry ∉ waitingPositions 0 files := by
  rw [mem_waitingPositions_iff]
  constructor
  · intro accepted
    obtain ⟨found, present, _⟩ := Option.map_eq_some_iff.mp accepted
    exact ⟨(List.getElem?_eq_some_iff.mp present).1, by simp [accepted]⟩
  · rintro ⟨within, settled⟩
    rw [List.getElem?_eq_getElem within] at settled ⊢
    simpa using settled

end

/-! ## The balance of a pass -/

def Acceptance.positions (acceptances : List Acceptance) : List Nat :=
  acceptances.map Acceptance.position

@[simp] theorem Acceptance.positions_append (earlier later : List Acceptance) :
    positions (earlier ++ later) = positions earlier ++ positions later :=
  List.map_append

theorem PassRuns.waiting_perm {files : List FileResult} {turns : List Turn}
    (run : PassRuns files turns) (position : Nat) :
    (waitingPositions position files).Perm
      (Acceptance.positions
          (Pass.collect Turn.acceptance position (files.map FileResult.requested) turns) ++
        waitingPositions position (Pass.after files turns)) := by
  induction run generalizing position with
  | done => exact .refl _
  | kept settled _ ih =>
      rw [waitingPositions_cons_of_accepted settled, Pass.after, Turn.result,
        waitingPositions_cons_of_accepted settled]
      exact ih (position + 1)
  | accepted waiting _ _ ih =>
      rw [waitingPositions_cons_of_waiting waiting, Pass.after,
        waitingPositions_cons_of_accepted rfl]
      exact (ih (position + 1)).cons position
  | @rejected file _ message _ waiting _ ih =>
      have still : (file.reject message).accepted = false := waiting
      rw [waitingPositions_cons_of_waiting waiting, Pass.after, Turn.result,
        waitingPositions_cons_of_waiting still]
      exact ((ih (position + 1)).cons position).trans List.perm_middle.symm
  | undelivered waiting _ =>
      rw [waitingPositions_cons_of_waiting waiting, Pass.after,
        waitingPositions_cons_of_accepted rfl, Pass.after_nil]
      simp [Pass.collect, Turn.acceptance, Turn.notice?, Acceptance.positions]
  | unusable waiting =>
      rw [waitingPositions_cons_of_waiting waiting, Pass.after, Turn.result,
        waitingPositions_cons_of_waiting waiting, Pass.after_nil]
      simp [Pass.collect, Turn.acceptance, Turn.notice?, Acceptance.positions]

/-! ## The balance of a run -/

theorem PassesRun.waiting_perm {passesLeft attempt : Nat} {files : List FileResult}
    {passes : List (List Turn)} (run : PassesRun passesLeft attempt files passes) :
    (waitingPositions 0 files).Perm
      (Acceptance.positions
          (Passes.collect Turn.acceptance (files.map FileResult.requested) passes) ++
        waitingPositions 0 (Passes.after files passes)) := by
  induction run with
  | spent => exact .refl _
  | failed ran _ => simpa [Passes.collect, Passes.after] using ran.waiting_perm 0
  | last ran _ _ => simpa [Passes.collect, Passes.after] using ran.waiting_perm 0
  | repeated ran _ _ _ _ _ ih =>
      rw [Pass.requested_after] at ih
      refine (ran.waiting_perm 0).trans ?_
      rw [Passes.collect, List.flatMap_cons, Acceptance.positions_append, List.append_assoc]
      exact ih.append_left _

theorem CourseRuns.waiting_perm {plan : RestorePlan} {granule : Granule} {course : Course}
    (run : CourseRuns plan granule course) :
    (waitingPositions 0 granule.results).Perm
      (Acceptance.positions (course.acceptances granule) ++
        waitingPositions 0 (course.final granule).results) := by
  cases run with
  | unannounced _ => exact .refl _
  | aborted _ ran _ => exact ran.waiting_perm
  | reported _ ran _ _ => exact ran.waiting_perm

@[simp] theorem Course.requested_final (course : Course) (granule : Granule) :
    (course.final granule).results.map FileResult.requested =
      granule.results.map FileResult.requested :=
  Passes.requested_after granule.results course.passes

theorem Course.length_final (course : Course) (granule : Granule) :
    (course.final granule).results.length = granule.results.length :=
  Passes.length_after granule.results course.passes

/-- The entries accepted in a run are those that waited before it and do not wait after it. -/
theorem CourseRuns.mem_acceptances_iff {plan : RestorePlan} {granule : Granule}
    {course : Course} (run : CourseRuns plan granule course) (entry : Nat) :
    entry ∈ Acceptance.positions (course.acceptances granule) ↔
      entry ∈ waitingPositions 0 granule.results ∧
        entry ∉ waitingPositions 0 (course.final granule).results := by
  have balance := run.waiting_perm
  have distinct := balance.nodup_iff.mp (waitingPositions_nodup 0 granule.results)
  rw [balance.mem_iff, List.mem_append]
  constructor
  · intro accepted
    exact ⟨.inl accepted, fun waits => (List.nodup_append.mp distinct).2.2 _ accepted _ waits rfl⟩
  · rintro ⟨accepted | waits, settled⟩
    · exact accepted
    · exact absurd waits settled

end GranuleRecall
