import GranuleRecall.Proofs.Documents.FileBodies
import GranuleRecall.Proofs.JobTimeline

/-! # Messages about files

Every message about a file that a task sends is an object of the same members in the same order. It
tells of a file of the request either that its restore was accepted, or that none was, with the
reason and the time of completion. The reason is never empty: it is the message of a rejection, or
stands in for one that is empty. -/

set_option autoImplicit false

namespace GranuleRecall

/-! ## Reasons -/

/-- A rejection that is shown for a file is the reply to a request for it, unless it is empty. -/
def FileResult.Explained (exchanges : List (RestoreCall × RestoreReply)) (file : FileResult) :
    Prop :=
  file.rejection = "" ∨
    ∃ call, call.key = file.key ∧ (call, .rejected file.rejection) ∈ exchanges

namespace FileResult.Explained

variable {exchanges more : List (RestoreCall × RestoreReply)} {file : FileResult}

theorem mono (explained : file.Explained exchanges) (within : exchanges ⊆ more) :
    file.Explained more := by
  rcases explained with empty | ⟨call, sameKey, replied⟩
  · exact .inl empty
  · exact .inr ⟨call, sameKey, within replied⟩

/-- What a turn shows for a file, it explains. -/
theorem turned (explained : file.Explained exchanges) (plan : RestorePlan) (position : Nat)
    (turn : Turn) :
    (turn.result file).Explained
      (exchanges ++ Turn.exchange plan position file.requested turn) := by
  cases turn with
  | kept => exact explained.mono (List.subset_append_left _ _)
  | accepted notice => exact .inl rfl
  | rejected message =>
      exact .inr ⟨plan.callFor file, rfl, List.mem_append_right _ List.mem_cons_self⟩
  | unusable message => exact explained.mono (List.subset_append_left _ _)

end FileResult.Explained

theorem Pass.after_explained {exchanges : List (RestoreCall × RestoreReply)}
    {files : List FileResult} (explained : ∀ file ∈ files, file.Explained exchanges)
    (plan : RestorePlan) (turns : List Turn) :
    ∀ entry ∈ Pass.after files turns, entry.Explained
      (exchanges ++
        Pass.collect (Turn.exchange plan) 0 (files.map FileResult.requested) turns) := by
  intro entry listed
  obtain ⟨index, found⟩ := List.getElem?_of_mem listed
  rw [Pass.getElem?_after, Option.map_eq_some_iff] at found
  obtain ⟨file, asked, rfl⟩ := found
  have known := explained file (List.mem_of_getElem? asked)
  cases turned : turns[index]? with
  | none => exact known.mono (List.subset_append_left _ _)
  | some turn =>
      refine (known.turned plan (0 + index) turn).mono ?_
      refine List.append_subset.mpr ⟨List.subset_append_left _ _, fun exchange shown => ?_⟩
      refine List.mem_append_right _ (Pass.mem_collect_iff.mpr ⟨index, _, turn, ?_, turned, shown⟩)
      rw [List.getElem?_map, asked]
      rfl

theorem Passes.after_explained {exchanges : List (RestoreCall × RestoreReply)}
    {files : List FileResult} (explained : ∀ file ∈ files, file.Explained exchanges)
    (plan : RestorePlan) (passes : List (List Turn)) :
    ∀ entry ∈ Passes.after files passes, entry.Explained
      (exchanges ++
        Passes.collect (Turn.exchange plan) (files.map FileResult.requested) passes) := by
  induction passes generalizing exchanges files with
  | nil =>
      intro entry listed
      exact (explained entry listed).mono (List.subset_append_left _ _)
  | cons turns later ih =>
      have passed := ih (Pass.after_explained explained plan turns)
      rw [Pass.requested_after, List.append_assoc] at passed
      exact passed

/-- The reason that a course tells of a failed file is the reply to a request for it. -/
theorem Course.failed_reason {course : Course} {granule : Granule}
    (unrequested : ∀ file ∈ granule.results, file.rejection = "") (delivery : DeliveryBudget)
    (plan : RestorePlan) {post : Post} (made : post ∈ course.posts granule) {position : Nat}
    {file : RequestedFile} {reason : String}
    (failed : post.subject = .failed position file reason) :
    reason = Restores.unknownRejection ∨
      ∃ call, call.key = file.key ∧
        (call, .rejected reason) ∈ (course.events delivery plan granule).restores := by
  rcases List.mem_cons.mp made with rfl | later
  · cases failed
  rcases List.mem_append.mp later with accepted | reported
  · obtain ⟨acceptance, _, rfl⟩ := List.mem_map.mp accepted
    cases failed
  · obtain ⟨entry, waits, notice, _, rfl⟩ := Notices.mem_posts reported
    cases failed
    have listed : entry.1 ∈ (course.final granule).results :=
      List.mem_of_getElem? (List.mem_zipIdx_iff_getElem?.mp (List.mem_filter.mp waits).1)
    have known : entry.1.Explained ([] ++ Passes.collect (Turn.exchange plan)
        (granule.results.map FileResult.requested) course.passes) :=
      Passes.after_explained (fun file asked => .inl (unrequested file asked)) plan
        course.passes entry.1 listed
    rw [List.nil_append, ← Passes.restores_events delivery plan course.job 1] at known
    rw [Course.restores_events]
    unfold Restores.failureMessage
    split
    next empty => exact .inl rfl
    next given =>
      rcases known with empty | ⟨call, sameKey, replied⟩
      · simp [empty] at given
      · exact .inr ⟨call, sameKey, replied⟩

/-! ## What a body tells -/

/-- A body tells of a file in a run for a job. -/
structure FileBody.TellsOf (services : Services) (job : Job) (file : RequestedFile)
    (past trace : Trace) (body : FileBody) : Prop where
  jobId : body.jobId = job.id
  granuleId : body.granuleId = job.granuleId
  key : body.key = file.key
  destination : body.destination = file.destination
  /-- The name of the file is its key, or what follows on the last slash of the key. -/
  filename : '/' ∉ body.filename.toList
  path : body.key = body.filename ∨ ∃ directory, body.key = directory ++ "/" ++ body.filename
  status : body.status = 1 ∨ body.status = 3
  requestTime : body.requestTime = job.requestTime.render
  lastUpdate : ∃ before, before <+: trace ∧
    body.lastUpdate = (services.clock (past ++ before)).render
  error : body.error?.isSome = true ↔ body.status = 3
  completion : body.completion? =
    if body.status = 3 then some body.lastUpdate else none
  reason : ∀ reason, body.error? = some reason → reason ≠ "" ∧
    (reason = Restores.unknownRejection ∨
      ∃ call, call.key = file.key ∧ (call, .rejected reason) ∈ trace.restores)

theorem FileBody.tellsOf_pending {services : Services} {job : Job} {file : RequestedFile}
    {past trace : Trace} {time : Time.Instant}
    (built : ∃ before, before <+: trace ∧ time = services.clock (past ++ before)) :
    (FileEvent.pending job (.pending file) time).body.TellsOf services job file past trace := by
  obtain ⟨before, within, rfl⟩ := built
  refine ⟨rfl, rfl, rfl, rfl, slash_not_mem_lastSegment _, lastSegment_cases _, .inl rfl, rfl,
    ⟨before, within, rfl⟩, ?_, rfl, nofun⟩
  exact ⟨nofun, nofun⟩

theorem FileBody.tellsOf_failed {services : Services} {job : Job} {file : RequestedFile}
    {past trace : Trace} {time : Time.Instant} {reason : String}
    (built : ∃ before, before <+: trace ∧ time = services.clock (past ++ before))
    (given : reason ≠ "")
    (known : reason = Restores.unknownRejection ∨
      ∃ call, call.key = file.key ∧ (call, .rejected reason) ∈ trace.restores) :
    (FileEvent.withStatus job (.pending file) .failed (some reason) time).body.TellsOf services
      job file past trace := by
  obtain ⟨before, within, rfl⟩ := built
  have kept : (FileEvent.withStatus job (.pending file) .failed (some reason)
      (services.clock (past ++ before))).body.error? = some reason := by
    simp [FileEvent.body, FileEvent.withStatus, Option.filter, given]
  refine ⟨rfl, rfl, rfl, rfl, slash_not_mem_lastSegment _, lastSegment_cases _, .inr rfl, rfl,
    ⟨before, within, rfl⟩, ?_, rfl, ?_⟩
  · rw [kept]
    exact ⟨fun _ => rfl, fun _ => rfl⟩
  · intro other same
    rw [kept] at same
    cases same
    exact ⟨given, known⟩

/-! ## All messages about files -/

/-- A message says what a body says: it can be read as a document, and every document that it can
be read as has the members of the body, each once and in this order. -/
structure Message.Says (message : Message) (body : FileBody) : Prop where
  written : ∃ document : Json.Document, document.IsWrittenAs message.body
  reads : ∀ document : Json.Document, document.IsWrittenAs message.body →
    document.IsObjectOf body.members
  once : (body.members.map Prod.fst).Nodup

theorem FileEvent.says (event : FileEvent) : (Message.ofFile event).Says event.body where
  written := event.exists_isWrittenAs
  reads _ written := FileEvent.isObjectOf written
  once := event.body.names_nodup

/-- Whatever is sent about a file in a task for a request tells of a file of the request. -/
structure SpeaksOfFiles (services : Services) (freshId : String) (request : Request)
    (past trace : Trace) (job : Job) : Prop where
  jobId : job.id = Task.jobIdOf request freshId
  requestTime : ∃ before, before <+: trace ∧ job.requestTime = services.clock (past ++ before)
  bodies (message : Message) (reply : SendReply) :
    (message, reply) ∈ trace.sends → message.table = .file →
      ∃ (granule : Granule) (file : RequestedFile) (body : FileBody),
        request.granules = [granule] ∧ job.granuleId = granule.id ∧ file ∈ granule.requested ∧
          message.Says body ∧ body.TellsOf services job file past trace

theorem SpeaksOfFiles.of_unsent {services : Services} {freshId : String} {request : Request}
    {past trace : Trace} (unsent : trace.sends = []) :
    SpeaksOfFiles services freshId request past trace
      ⟨Task.jobIdOf request freshId, "", services.clock past, ""⟩ where
  jobId := rfl
  requestTime := ⟨[], List.nil_prefix, by rw [List.append_nil]⟩
  bodies message reply sent := by
    rw [unsent] at sent
    cases sent

/-- Everything that a task sends about files has one form and tells what happened in the task. -/
theorem Task.run_speaksOfFiles (services : Services) (settings : Settings) (freshId : String)
    (request : Request) (past : Trace) :
    ∃ job, SpeaksOfFiles services freshId request past
      (run services settings freshId request past).2 job := by
  have stages := run_stages services settings freshId request past
  generalize run services settings freshId request past = ran at stages ⊢
  cases stages with
  | unchecked wrong bare => exact ⟨_, .of_unsent rfl⟩
  | @unknown bucket granule replies failure given filled listed replied failed =>
      exact ⟨_, .of_unsent (Probes.sends_events bucket granule.requested replies)⟩
  | @requested bucket granule begun replies plan probed given filled listed replied fine planned
      found asked =>
      rw [requestRestores_eq]
      generalize made : Course.ofServices services settings.delivery plan (jobIdOf request freshId)
        begun probed = course
      subst asked
      have posted := Course.duePosts_after (Probes.sends_events bucket granule.requested replies)
        made.symm
      have job : course.job = ⟨jobIdOf request freshId, begun.id, _, plan.bucket⟩ :=
        made ▸ Course.job_ofServices ..
      refine ⟨course.job, congrArg Job.id job, ⟨_, List.prefix_append _ _,
        congrArg Job.requestTime job⟩, ?_⟩
      have unrequested : ∀ file ∈ begun.results, file.rejection = "" := by
        intro file listed
        rw [found] at listed
        obtain ⟨asked, _, rfl⟩ := Probes.mem_found listed
        rfl
      have asked {file : RequestedFile} {position : Nat}
          (fits : (begun.results.map FileResult.requested)[position]? = some file) :
          file ∈ granule.requested := by
        rw [found] at fits
        exact (List.of_mem_zip (Probes.mem_requested_found (List.mem_of_getElem? fits))).1
      have granuleId : course.job.granuleId = granule.id :=
        (congrArg Job.granuleId job).trans (by rw [found])
      intro message reply sent told
      obtain ⟨post, sentPost, rfl⟩ := posted.toPosts.exists_post sent
      have built := posted.built sentPost
      have fits := (posted.toPosts.mem sentPost).1
      have restored := Trace.restores_append (Probes.events bucket granule.requested replies)
        (course.events settings.delivery plan begun)
      obtain ⟨subject, time, sending⟩ := post
      cases subject with
      | job => cases told
      | accepted position file =>
          exact ⟨granule, file, _, listed, granuleId, asked fits, FileEvent.says _,
            FileBody.tellsOf_pending built⟩
      | failed position file reason =>
          have known := Course.failed_reason unrequested settings.delivery plan sentPost rfl
          refine ⟨granule, file, _, listed, granuleId, asked fits.1, FileEvent.says _,
            FileBody.tellsOf_failed built fits.2 ?_⟩
          rw [restored]
          exact known.imp_right fun ⟨call, sameKey, replied⟩ =>
            ⟨call, sameKey, List.mem_append_right _ replied⟩

end GranuleRecall
