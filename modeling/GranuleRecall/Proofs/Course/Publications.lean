import Mathlib.Data.List.Basic
import GranuleRecall.Proofs.Course.Restores

/-! # What a course publishes

Every message of a course with the entry that it is about and with the way it was sent. An entry
is told by its position in the list of results, since two entries of the list may be alike. -/
set_option autoImplicit false

namespace GranuleRecall

/-- A message that is published, once. The announcement of the job is about no entry. -/
structure Publication where
  position? : Option Nat
  message : Message
  sending : Sending
deriving DecidableEq, Repr

namespace Publication

def events (delivery : DeliveryBudget) (publication : Publication) : Trace :=
  publication.sending.events delivery publication.message 1

end Publication

/-- The acceptance of a restore in a pass: of which entry, and how it was reported. -/
structure Acceptance where
  position : Nat
  file : RequestedFile
  notice : Notice
deriving DecidableEq, Repr

namespace Acceptance

variable (plan : RestorePlan) (job : Job) (acceptance : Acceptance)

def call : RestoreCall :=
  plan.callFor (.pending acceptance.file)

def message : Message :=
  Restores.acceptedMessage job (.pending acceptance.file) acceptance.notice.time

def publication : Publication :=
  ⟨some acceptance.position, acceptance.message job, acceptance.notice.sending⟩

end Acceptance

/-! ## Reading passes

What a view of a trace shows of passes is collected from what it shows of each turn. No turn
changes which file an entry is about, so the same files are asked for in every pass. -/

/-- What is shown of the turns of a pass over entries that begin at some position. -/
def Pass.collect {α : Type} (shown : Nat → RequestedFile → Turn → List α) :
    (position : Nat) → List RequestedFile → List Turn → List α
  | position, file :: others, turn :: turns =>
    shown position file turn ++ Pass.collect shown (position + 1) others turns
  | _, _, _ => []

def Passes.collect {α : Type} (shown : Nat → RequestedFile → Turn → List α)
    (files : List RequestedFile) (passes : List (List Turn)) : List α :=
  passes.flatMap (Pass.collect shown 0 files)

@[simp] theorem Turn.result_requested (turn : Turn) (file : FileResult) :
    (turn.result file).requested = file.requested := by
  simp [FileResult.requested]

@[simp] theorem Pass.requested_after (files : List FileResult) (turns : List Turn) :
    (Pass.after files turns).map FileResult.requested = files.map FileResult.requested := by
  induction files generalizing turns with
  | nil => simp [Pass.after]
  | cons file others ih =>
      cases turns with
      | nil => simp
      | cons turn turns => simp [Pass.after, ih]

@[simp] theorem Passes.requested_after (files : List FileResult) (passes : List (List Turn)) :
    (Passes.after files passes).map FileResult.requested = files.map FileResult.requested := by
  induction passes generalizing files with
  | nil => rfl
  | cons turns later ih => simpa [Passes.after] using ih (Pass.after files turns)

section

variable {α β : Type} {delivery : DeliveryBudget} {plan : RestorePlan} {job : Job}
  {view : Trace → List α} {shown : Nat → RequestedFile → Turn → List α}

theorem Pass.view_events (isView : Trace.IsView view)
    (turned : ∀ attempt position turn file,
      view (Turn.events delivery plan job attempt file turn) =
        shown position file.requested turn)
    (attempt position : Nat) (files : List FileResult) (turns : List Turn) :
    view (Pass.events delivery plan job attempt files turns) =
      Pass.collect shown position (files.map FileResult.requested) turns := by
  induction files generalizing position turns with
  | nil => exact isView.nil
  | cons file others ih =>
      cases turns with
      | nil => exact isView.nil
      | cons turn turns =>
          have now := turned attempt position turn file
          have later := ih (position + 1) turns
          rw [Pass.events, List.zipWith_cons_cons, List.flatten_cons, isView.append, now]
          exact congrArg (_ ++ ·) later

theorem Passes.view_events (isView : Trace.IsView view)
    (turned : ∀ attempt position turn file,
      view (Turn.events delivery plan job attempt file turn) =
        shown position file.requested turn)
    (quiet : view [.sleep plan.passes.sleep] = [])
    (attempt : Nat) (files : List FileResult) (passes : List (List Turn)) :
    view (Passes.events delivery plan job attempt files passes) =
      Passes.collect shown (files.map FileResult.requested) passes := by
  induction passes generalizing attempt files with
  | nil => exact isView.nil
  | cons turns later ih =>
      have now := Pass.view_events isView turned attempt 0 files turns
      by_cases last : later = []
      · simpa [last, Passes.collect] using now
      · have rest := ih (attempt + 1) (Pass.after files turns)
        rw [Pass.requested_after] at rest
        rw [Passes.events_cons delivery plan job attempt files turns last, ← List.singleton_append,
          isView.append, isView.append, quiet, List.nil_append, now, rest]
        rfl

theorem Pass.mem_collect_iff {value : α} {position : Nat} {files : List RequestedFile}
    {turns : List Turn} :
    value ∈ Pass.collect shown position files turns ↔
      ∃ index file turn, files[index]? = some file ∧ turns[index]? = some turn ∧
        value ∈ shown (position + index) file turn := by
  induction files generalizing position turns with
  | nil => simp [Pass.collect]
  | cons file others ih =>
      cases turns with
      | nil => simp [Pass.collect]
      | cons turn turns =>
          rw [Pass.collect, List.mem_append, ih]
          constructor
          · rintro (now | ⟨index, file, turn, asked, turned, later⟩)
            · exact ⟨0, file, turn, rfl, rfl, now⟩
            · exact ⟨index + 1, file, turn, asked, turned,
                by rwa [← Nat.add_assoc, Nat.add_right_comm]⟩
          · rintro ⟨index, file, turn, asked, turned, member⟩
            cases index with
            | zero =>
                cases asked
                cases turned
                exact .inl member
            | succ index =>
                exact .inr ⟨index, file, turn, asked, turned,
                  by rwa [Nat.add_right_comm, Nat.add_assoc]⟩

theorem Pass.flatMap_collect (part : α → List β) (position : Nat)
    (files : List RequestedFile) (turns : List Turn) :
    (Pass.collect shown position files turns).flatMap part =
      Pass.collect (fun position file turn => (shown position file turn).flatMap part)
        position files turns := by
  induction files generalizing position turns with
  | nil => rfl
  | cons file others ih =>
      cases turns with
      | nil => rfl
      | cons turn turns => simp [Pass.collect, ih]

theorem Passes.flatMap_collect (part : α → List β) (files : List RequestedFile)
    (passes : List (List Turn)) :
    (Passes.collect shown files passes).flatMap part =
      Passes.collect (fun position file turn => (shown position file turn).flatMap part)
        files passes := by
  simp only [Passes.collect, List.flatMap_assoc, Pass.flatMap_collect]

end

/-! ## Acceptances -/

def Turn.acceptance (position : Nat) (file : RequestedFile) (turn : Turn) : List Acceptance :=
  (turn.notice?.map fun notice => ⟨position, file, notice⟩).toList

theorem Turn.mem_acceptance_iff {position : Nat} {file : RequestedFile} {turn : Turn}
    {acceptance : Acceptance} :
    acceptance ∈ Turn.acceptance position file turn ↔
      turn = .accepted acceptance.notice ∧ acceptance.position = position ∧
        acceptance.file = file := by
  cases turn with
  | accepted notice =>
      constructor
      · intro member
        cases List.mem_singleton.mp member
        exact ⟨rfl, rfl, rfl⟩
      · rintro ⟨same, rfl, rfl⟩
        cases same
        exact List.mem_singleton.mpr rfl
  | _ => simp [Turn.acceptance, Turn.notice?]

def Course.acceptances (course : Course) (granule : Granule) : List Acceptance :=
  Passes.collect Turn.acceptance (granule.results.map FileResult.requested) course.passes

section

variable (delivery : DeliveryBudget) (plan : RestorePlan) (job : Job)

theorem Turn.deliveries_events (attempt position : Nat) (turn : Turn) (file : FileResult) :
    (turn.events delivery plan job attempt file).deliveries =
      (Turn.acceptance position file.requested turn).flatMap
        fun acceptance => ((acceptance.publication job).events delivery).deliveries := by
  cases turn with
  | accepted notice =>
      simp only [Turn.acceptance, Turn.notice?, Option.map_some, Option.toList_some,
        List.flatMap_singleton]
      rfl
  | _ => rfl

theorem Turn.acceptedCalls_events (attempt position : Nat) (turn : Turn) (file : FileResult) :
    (turn.events delivery plan job attempt file).acceptedCalls =
      (Turn.acceptance position file.requested turn).flatMap fun acceptance =>
        [acceptance.call plan] := by
  rw [Trace.acceptedCalls, Turn.restores_events]
  cases turn with
  | accepted notice => rfl
  | _ => rfl

theorem Course.deliveries_passEvents (course : Course) (granule : Granule) :
    (course.passEvents delivery plan granule).deliveries =
      (course.acceptances granule).flatMap
        fun acceptance => ((acceptance.publication course.job).events delivery).deliveries := by
  rw [Course.acceptances, Passes.flatMap_collect]
  exact Passes.view_events Trace.isView_deliveries
    (Turn.deliveries_events delivery plan course.job) rfl 1 granule.results course.passes

theorem Course.acceptedCalls_passEvents (course : Course) (granule : Granule) :
    (course.passEvents delivery plan granule).acceptedCalls =
      (course.acceptances granule).map (Acceptance.call plan) := by
  rw [List.map_eq_flatMap, Course.acceptances, Passes.flatMap_collect]
  exact Passes.view_events Trace.isView_acceptedCalls
    (Turn.acceptedCalls_events delivery plan course.job) rfl 1 granule.results course.passes

end

/-! Restores are requested in passes only. -/

theorem Notices.restores_events (delivery : DeliveryBudget) (job : Job)
    (files : List FileResult) (notices : List Notice) :
    (Notices.events delivery job files notices).restores = [] := by
  induction files generalizing notices with
  | nil => rfl
  | cons file others ih =>
      cases notices with
      | nil => rfl
      | cons notice notices =>
          have later := ih notices
          simp only [Notices.events] at later
          rw [Notices.events, List.zipWith_cons_cons, List.flatten_cons, Trace.restores_append,
            Sending.restores_events, later, List.append_nil]

theorem Course.restores_events (delivery : DeliveryBudget) (plan : RestorePlan)
    (course : Course) (granule : Granule) :
    (course.events delivery plan granule).restores =
      (course.passEvents delivery plan granule).restores := by
  have announced : (course.announcementEvents delivery).restores = [] :=
    Sending.restores_events ..
  have reported : (course.noticeEvents delivery granule).restores = [] :=
    Notices.restores_events ..
  have ended : (course.verdictEvents plan granule).restores = [] :=
    course.view_verdictEvents plan granule Trace.isView_restores rfl
  simp only [Course.events, Trace.restores_append, announced, reported, ended, List.append_nil,
    List.nil_append]

theorem Course.acceptedCalls_events (delivery : DeliveryBudget) (plan : RestorePlan)
    (course : Course) (granule : Granule) :
    (course.events delivery plan granule).acceptedCalls =
      (course.acceptances granule).map (Acceptance.call plan) := by
  rw [Trace.acceptedCalls, Course.restores_events]
  exact course.acceptedCalls_passEvents delivery plan granule

/-! ## All publications -/

theorem map_fst_filter_zipIdx {α : Type} (kept : α → Bool) (values : List α) :
    (values.zipIdx.filter fun entry => kept entry.1).map Prod.fst = values.filter kept := by
  have same := List.filter_map (f := Prod.fst) (p := kept) (l := values.zipIdx)
  rw [List.zipIdx_map_fst] at same
  exact same.symm

namespace Granule

/-- The entries of which no restore was accepted, with their positions. -/
def waiting (granule : Granule) : List (FileResult × Nat) :=
  granule.results.zipIdx.filter (!·.1.accepted)

@[simp] theorem map_fst_waiting (granule : Granule) :
    granule.waiting.map Prod.fst = granule.unaccepted :=
  map_fst_filter_zipIdx (fun file : FileResult => !file.accepted) granule.results

end Granule

def Notice.publication (job : Job) (entry : FileResult × Nat) (notice : Notice) : Publication :=
  ⟨some entry.2, Restores.failedMessage job entry.1 notice.time, notice.sending⟩

def Notices.publications (job : Job) (entries : List (FileResult × Nat))
    (notices : List Notice) : List Publication :=
  List.zipWith (Notice.publication job) entries notices

theorem Notices.mem_publications {job : Job} {entries : List (FileResult × Nat)}
    {notices : List Notice} {publication : Publication}
    (member : publication ∈ Notices.publications job entries notices) :
    ∃ entry ∈ entries, ∃ notice ∈ notices, publication = notice.publication job entry := by
  rw [Notices.publications, ← List.map_uncurry_zip_eq_zipWith] at member
  obtain ⟨⟨entry, notice⟩, paired, rfl⟩ := List.mem_map.mp member
  obtain ⟨listed, made⟩ := List.of_mem_zip paired
  exact ⟨entry, listed, notice, made, rfl⟩

theorem Notices.exists_publication (job : Job) {entries : List (FileResult × Nat)}
    {notices : List Notice} (sameLength : notices.length = entries.length) {notice : Notice}
    (made : notice ∈ notices) :
    ∃ entry, notice.publication job entry ∈ Notices.publications job entries notices := by
  induction entries generalizing notices with
  | nil =>
      rw [List.length_eq_zero_iff.mp sameLength] at made
      cases made
  | cons entry others ih =>
      cases notices with
      | nil => cases made
      | cons first later =>
          rcases List.mem_cons.mp made with rfl | laterMade
          · exact ⟨entry, List.mem_cons_self⟩
          · obtain ⟨other, listed⟩ := ih (Nat.succ.inj sameLength) laterMade
            exact ⟨other, List.mem_cons_of_mem _ listed⟩

namespace Course

variable (course : Course) (granule : Granule)

def announcementPublication : Publication :=
  ⟨none, .ofJob (.started course.job), course.announcement⟩

def publications : List Publication :=
  course.announcementPublication ::
    ((course.acceptances granule).map (Acceptance.publication course.job) ++
      Notices.publications course.job (course.final granule).waiting course.notices)

end Course

section

variable (delivery : DeliveryBudget) (plan : RestorePlan) (job : Job)

theorem Notices.events_eq (entries : List (FileResult × Nat)) (notices : List Notice) :
    Notices.events delivery job (entries.map Prod.fst) notices =
      (Notices.publications job entries notices).flatMap (Publication.events delivery) := by
  induction entries generalizing notices with
  | nil => rfl
  | cons entry others ih =>
      cases notices with
      | nil => rfl
      | cons notice notices => exact congrArg (_ ++ ·) (ih notices)

theorem Course.noticeEvents_eq (course : Course) (granule : Granule) :
    course.noticeEvents delivery granule =
      (Notices.publications course.job (course.final granule).waiting course.notices).flatMap
        (Publication.events delivery) := by
  rw [← Notices.events_eq, Granule.map_fst_waiting]
  rfl

/-- The deliveries of a course are those of its publications. -/
theorem Course.deliveries_events (course : Course) (granule : Granule) :
    (course.events delivery plan granule).deliveries =
      (course.publications granule).flatMap
        fun publication => (publication.events delivery).deliveries := by
  have passed := course.deliveries_passEvents delivery plan granule
  have reported : (course.noticeEvents delivery granule).deliveries =
      (Notices.publications course.job (course.final granule).waiting course.notices).flatMap
        fun publication => (publication.events delivery).deliveries := by
    rw [Course.noticeEvents_eq, Trace.isView_deliveries.flatMap]
  have ended : (course.verdictEvents plan granule).deliveries = [] :=
    course.view_verdictEvents plan granule Trace.isView_deliveries rfl
  simp only [Course.events, Trace.deliveries_append, passed, reported, ended, List.append_nil,
    Course.publications, List.flatMap_cons, List.flatMap_append, List.flatMap_map,
    List.append_assoc]
  rfl

end

/-! ## Accepted messages -/

theorem Trace.acceptedMessages_deliveries (trace : Trace) :
    trace.deliveries.acceptedMessages = trace.acceptedMessages := by
  induction trace with
  | nil => rfl
  | cons event later ih =>
      cases event with
      | send message reply =>
          cases reply with
          | accepted => exact congrArg (List.cons _) ih
          | refused reasons => exact ih
      | log record =>
          by_cases told : record.source = .delivery
          · simpa [deliveries, acceptedMessages, told] using ih
          · simpa [deliveries, acceptedMessages, told] using ih
      | _ => exact ih

/-- The queue accepts the message of each publication that is posted, once. -/
theorem Course.acceptedMessages_eq (delivery : DeliveryBudget) (plan : RestorePlan)
    (course : Course) (granule : Granule) :
    (course.events delivery plan granule).acceptedMessages =
      ((course.publications granule).filter (·.sending.isPosted)).map Publication.message := by
  rw [← Trace.acceptedMessages_deliveries, Course.deliveries_events,
    Trace.isView_acceptedMessages.flatMap]
  induction course.publications granule with
  | nil => rfl
  | cons publication later ih =>
      rw [List.flatMap_cons, ih, Trace.acceptedMessages_deliveries, Publication.events,
        Sending.acceptedMessages_events]
      cases posted : publication.sending.isPosted with
      | true => simp [posted]
      | false => simp [posted]

theorem Course.acceptedMessages_events (delivery : DeliveryBudget) (plan : RestorePlan)
    (course : Course) (granule : Granule)
    (posted : ∀ publication ∈ course.publications granule,
      publication.sending.isPosted = true) :
    (course.events delivery plan granule).acceptedMessages =
      (course.publications granule).map Publication.message := by
  rw [Course.acceptedMessages_eq, List.filter_eq_self.mpr posted]

end GranuleRecall
