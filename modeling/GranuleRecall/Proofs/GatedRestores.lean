import GranuleRecall.Proofs.Course.Answered
import GranuleRecall.Proofs.Course.Posts
import GranuleRecall.Proofs.Course.Replies
import GranuleRecall.Proofs.Course.Steps
import GranuleRecall.Proofs.MessageIdentity

/-! # Restores are gated

A task probes all files before it sends or requests anything. A restore is requested only when
every place of the list was probed and the queue has accepted the job, and only of a file that was
found. Nothing is requested or told of a key that was found at no place. -/

set_option autoImplicit false

namespace GranuleRecall

/-! ## Places in a trace -/

namespace Trace

variable {left right before after : Trace} {event : Event}

theorem exists_before_of_not_mem (split : left ++ right = before ++ event :: after)
    (apart : event ∉ left) : ∃ middle, before = left ++ middle := by
  rcases List.append_eq_append_iff.mp split with ⟨middle, same, _⟩ | ⟨middle, same, rest⟩
  · exact ⟨middle, same⟩
  · cases middle with
    | nil => exact ⟨[], by simpa using same.symm⟩
    | cons first middle =>
        cases (List.cons.inj rest).1
        exact absurd (same ▸ List.mem_append_right _ List.mem_cons_self) apart

theorem exists_after_of_not_mem (split : left ++ right = before ++ event :: after)
    (apart : event ∉ right) : ∃ middle, left = before ++ middle := by
  rcases List.append_eq_append_iff.mp split with ⟨middle, _, rest⟩ | ⟨middle, same, _⟩
  · exact absurd (rest ▸ List.mem_append_right _ List.mem_cons_self) apart
  · exact ⟨middle, same⟩

theorem IsView.not_mem {α : Type} {view : Trace → List α} (isView : IsView view)
    {trace : Trace} (unseen : view trace = []) (shown : view [event] ≠ []) : event ∉ trace := by
  intro made
  obtain ⟨before, after, rfl⟩ := List.append_of_mem made
  rw [← List.singleton_append, isView.append, isView.append] at unseen
  exact shown (List.append_eq_nil_iff.mp (List.append_eq_nil_iff.mp unseen).2).1

end Trace

/-! ## Probes -/

namespace Probes

variable (bucket : String) (files : List RequestedFile) (replies : List ProbeReply)

/-- What is asked of the archive about some files, and the replies. -/
def exchanges : List ((String × String) × ProbeReply) :=
  (List.zip files replies).map fun (file, reply) => ((bucket, file.key), reply)

theorem probes_events : (events bucket files replies).probes = exchanges bucket files replies := by
  rw [events, Trace.isView_probes.flatMap, exchanges, List.map_eq_flatMap]
  refine List.flatMap_congr fun entry _ => ?_
  obtain ⟨file, reply⟩ := entry
  cases reply <;> rfl

theorem view_events_eq_nil {α : Type} {view : Trace → List α} (isView : Trace.IsView view)
    (quiet : ∀ file reply, view (replyEvents bucket file reply) = []) :
    view (events bucket files replies) = [] := by
  rw [events, isView.flatMap, List.flatMap_eq_nil_iff]
  exact fun entry _ => quiet entry.1 entry.2

theorem sends_events : (events bucket files replies).sends = [] :=
  view_events_eq_nil bucket files replies Trace.isView_sends fun _ reply => by cases reply <;> rfl

theorem restores_events : (events bucket files replies).restores = [] :=
  view_events_eq_nil bucket files replies Trace.isView_restores fun _ reply => by
    cases reply <;> rfl

theorem acceptedMessages_events : (events bucket files replies).acceptedMessages = [] :=
  view_events_eq_nil bucket files replies Trace.isView_acceptedMessages fun _ reply => by
    cases reply <;> rfl

variable {bucket files replies}

theorem mem_found {result : FileResult} (made : result ∈ found files replies) :
    ∃ file, (file, .present) ∈ List.zip files replies ∧ result = .pending file := by
  obtain ⟨⟨asked, reply⟩, paired, shown⟩ := List.mem_filterMap.mp made
  dsimp only at shown
  split at shown
  next present =>
    cases shown
    exact ⟨asked, present ▸ paired, rfl⟩
  next => cases shown

theorem mem_requested_found {file : RequestedFile}
    (listed : file ∈ (found files replies).map FileResult.requested) :
    (file, .present) ∈ List.zip files replies := by
  obtain ⟨result, made, rfl⟩ := List.mem_map.mp listed
  obtain ⟨asked, paired, rfl⟩ := mem_found made
  exact paired

end Probes

/-- Every place is probed, and each probe tells something. -/
structure ProbesComplete (files : List RequestedFile) (replies : List ProbeReply) : Prop where
  length : replies.length = files.length
  known : ∀ message, .unknown message ∉ replies

theorem ProbesRun.complete {files : List RequestedFile} {replies : List ProbeReply}
    (run : ProbesRun files replies) {bucket : String}
    (fine : Probes.failure bucket files replies = none) : ProbesComplete files replies := by
  induction run with
  | done => exact ⟨rfl, fun _ => List.not_mem_nil⟩
  | present _ ih =>
      obtain ⟨sameLength, known⟩ := ih fine
      exact ⟨congrArg (· + 1) sameLength, fun message => by simpa using known message⟩
  | absent _ ih =>
      obtain ⟨sameLength, known⟩ := ih fine
      exact ⟨congrArg (· + 1) sameLength, fun message => by simpa using known message⟩
  | unknown => cases fine

/-! ## What a course asks and sends -/

/-- Passes show nothing of which no turn shows anything. -/
theorem Passes.view_events_eq_nil {α : Type} {delivery : DeliveryBudget} {plan : RestorePlan}
    {job : Job} {view : Trace → List α} (isView : Trace.IsView view)
    (turned : ∀ (attempt : Nat) (turn : Turn) (file : FileResult),
      view (turn.events delivery plan job attempt file) = [])
    (quiet : view [.sleep plan.passes.sleep] = [])
    (attempt : Nat) (files : List FileResult) (passes : List (List Turn)) :
    view (Passes.events delivery plan job attempt files passes) = [] := by
  have unshown : Passes.collect (fun _ _ _ => ([] : List α)) (files.map FileResult.requested)
      passes = [] := by
    refine List.flatMap_eq_nil_iff.mpr fun turns _ => ?_
    refine List.eq_nil_iff_forall_not_mem.mpr fun value listed => ?_
    obtain ⟨_, _, _, _, _, shown⟩ := Pass.mem_collect_iff.mp listed
    cases shown
  rw [← unshown]
  exact Passes.view_events isView (fun attempt _ turn file => turned attempt turn file) quiet
    attempt files passes

section

variable (delivery : DeliveryBudget) (plan : RestorePlan) (course : Course) (granule : Granule)

theorem Course.probes_events : (course.events delivery plan granule).probes = [] := by
  have turned (attempt : Nat) (turn : Turn) (file : FileResult) :
      (turn.events delivery plan course.job attempt file).probes = [] := by
    cases turn with
    | accepted notice => exact Sending.probes_events delivery _ 1 notice.sending
    | _ => rfl
  have passed : (course.passEvents delivery plan granule).probes = [] :=
    Passes.view_events_eq_nil Trace.isView_probes turned rfl 1 granule.results course.passes
  have reported : (course.noticeEvents delivery granule).probes = [] := by
    rw [Course.noticeEvents_eq, Trace.isView_probes.flatMap, List.flatMap_eq_nil_iff]
    intro publication _
    exact Sending.probes_events ..
  have announced : (course.announcementEvents delivery).probes = [] := Sending.probes_events ..
  have ended : (course.verdictEvents plan granule).probes = [] :=
    course.view_verdictEvents plan granule Trace.isView_probes rfl
  simp only [Course.events, Trace.probes_append, announced, passed, reported, ended,
    List.append_nil]

variable {delivery plan course granule}

theorem Course.call_of_mem_restores {exchange : RestoreCall × RestoreReply}
    (made : exchange ∈ (course.events delivery plan granule).restores) :
    ∃ file ∈ granule.results.map FileResult.requested,
      exchange.1 = plan.callFor (.pending file) := by
  rw [Course.restores_events, Course.passEvents, Passes.restores_events] at made
  obtain ⟨turns, _, collected⟩ := List.mem_flatMap.mp made
  obtain ⟨index, file, turn, asked, _, shown⟩ := Pass.mem_collect_iff.mp collected
  obtain ⟨reply, _, rfl⟩ := Option.map_eq_some_iff.mp (Option.mem_toList.mp shown)
  exact ⟨file, List.mem_of_getElem? asked, rfl⟩

/-- Before a restore is requested, the queue has accepted the job. -/
theorem CourseRuns.announced_before (run : CourseRuns plan granule course)
    {before after : Trace} {call : RestoreCall} {reply : RestoreReply}
    (split : course.events delivery plan granule = before ++ .restore call reply :: after) :
    .ofJob (.started course.job) ∈ before.acceptedMessages := by
  have requested : course.passes ≠ [] := by
    intro none
    have made : (call, reply) ∈ (course.events delivery plan granule).restores := by
      rw [split, Trace.restores_append]
      exact List.mem_append_right _ List.mem_cons_self
    rw [Course.restores_events, Course.passEvents, Passes.restores_events, none] at made
    cases made
  have announced : course.announcement.isPosted = true := by
    by_contra unannounced
    exact requested (run.passes_eq_nil unannounced)
  have quiet : (course.announcementEvents delivery).restores = [] := Sending.restores_events ..
  rw [Course.events, List.append_assoc, List.append_assoc] at split
  obtain ⟨middle, rfl⟩ := Trace.exists_before_of_not_mem split
    (Trace.isView_restores.not_mem quiet (List.cons_ne_nil _ _))
  rw [Trace.acceptedMessages_append, Course.announcementEvents, Sending.acceptedMessages_events,
    if_pos announced]
  exact List.mem_append_left _ List.mem_cons_self

end

/-- A message about a file that is asked for. -/
def RequestedFile.IsToldBy (job : Job) (file : RequestedFile) (message : Message) : Prop :=
  ∃ status reason? time,
    message = .ofFile (.withStatus job (.pending file) status reason? time)

theorem Posts.message_of_mem_sends {services : Services} {delivery : DeliveryBudget} {job : Job}
    {granule : Granule} {past trace : Trace} {posts : List Post}
    (run : Posts services delivery job granule past trace posts) {message : Message}
    {reply : SendReply} (sent : (message, reply) ∈ trace.sends) :
    (∃ time, message = .ofJob (.started { job with requestTime := time })) ∨
      ∃ file ∈ granule.results.map FileResult.requested, file.IsToldBy job message := by
  obtain ⟨post, made, same⟩ := run.exists_post sent
  have fits := (run.mem made).1
  obtain ⟨subject, time, sending⟩ := post
  cases subject with
  | job => exact .inl ⟨time, same⟩
  | accepted position file =>
      exact .inr ⟨file, List.mem_of_getElem? fits, .pending, none, time, same⟩
  | failed position file reason =>
      exact .inr ⟨file, List.mem_of_getElem? fits.1, .failed, some reason, time, same⟩

/-! ## What is done about files that were found -/

/-- Restores are requested only of files that were found, and messages are sent only of the job
and of these files. -/
structure KeepsToFound (settings : Settings) (jobId bucket : String) (granule : Granule)
    (replies : List ProbeReply) (trace : Trace) : Prop where
  calls : ∀ (call : RestoreCall) (reply : RestoreReply), (call, reply) ∈ trace.restores →
    ∃ file, (file, .present) ∈ List.zip granule.requested replies ∧
      call = ⟨bucket, file.key, settings.expireDays, settings.tier⟩
  messages : ∀ (message : Message) (reply : SendReply), (message, reply) ∈ trace.sends →
    ∃ time, message = .ofJob (.started ⟨jobId, granule.id, time, bucket⟩) ∨
      ∃ file, (file, .present) ∈ List.zip granule.requested replies ∧
        file.IsToldBy ⟨jobId, granule.id, time, bucket⟩ message

theorem RequestedFile.IsToldBy.key_eq {job : Job} {file : RequestedFile} {event : FileEvent}
    (told : file.IsToldBy job (.ofFile event)) : event.key = file.key := by
  obtain ⟨status, reason?, time, same⟩ := told
  exact (FileEvent.writtenAlike_of_ofFile_eq same).key

theorem Probes.mem_exchanges {bucket : String} {files : List RequestedFile}
    {replies : List ProbeReply} {file : RequestedFile} {reply : ProbeReply}
    (paired : (file, reply) ∈ List.zip files replies) :
    ((bucket, file.key), reply) ∈ exchanges bucket files replies :=
  List.mem_map.mpr ⟨(file, reply), paired, rfl⟩

theorem KeepsToFound.key_ne {settings : Settings} {jobId bucket : String} {granule : Granule}
    {replies : List ProbeReply} {trace : Trace}
    (kept : KeepsToFound settings jobId bucket granule replies trace) {key : String}
    (unfound : ((bucket, key), .present) ∉ Probes.exchanges bucket granule.requested replies) :
    (∀ call reply, (call, reply) ∈ trace.restores → call.key ≠ key) ∧
      ∀ event reply, (.ofFile event, reply) ∈ trace.sends → event.key ≠ key := by
  constructor
  · rintro call reply made rfl
    obtain ⟨file, found, rfl⟩ := kept.calls call reply made
    exact unfound (Probes.mem_exchanges found)
  · rintro event reply sent rfl
    obtain ⟨time, job | ⟨file, found, told⟩⟩ := kept.messages _ reply sent
    · cases (Message.mk.inj job).1
    · rw [told.key_eq] at unfound
      exact unfound (Probes.mem_exchanges found)

/-! ## The whole task -/

/-- The trace of a task for a granule in a bucket, with the replies to its probes. -/
structure GatesRestores (services : Services) (settings : Settings) (jobId bucket : String)
    (granule : Granule) (past trace : Trace) (replies : List ProbeReply) : Prop where
  answered : services.Answered past trace
  /-- Each place of the list is probed, in order, up to the first of which nothing is known. -/
  probesRun : ProbesRun granule.requested replies
  probes : trace.probes = Probes.exchanges bucket granule.requested replies
  probesFirst : ∀ (before : Trace) (archive key : String) (reply : ProbeReply) (after : Trace),
    trace = before ++ .probe archive key reply :: after →
      before.sends = [] ∧ before.restores = []
  gate : ∀ (before : Trace) (call : RestoreCall) (reply : RestoreReply) (after : Trace),
    trace = before ++ .restore call reply :: after →
      before.probes = Probes.exchanges bucket granule.requested replies ∧
        ProbesComplete granule.requested replies ∧
        ∃ time, .ofJob (.started ⟨jobId, granule.id, time, bucket⟩) ∈ before.acceptedMessages
  found : KeepsToFound settings jobId bucket granule replies trace
  unfound : ∀ key, ((bucket, key), .present) ∉ trace.probes →
    (∀ call reply, (call, reply) ∈ trace.restores → call.key ≠ key) ∧
      ∀ event reply, (.ofFile event, reply) ∈ trace.sends → event.key ≠ key

/-- The probes of a task are followed by what is gated by them. -/
theorem GatesRestores.of_parts {services : Services} {settings : Settings}
    {jobId bucket : String} {granule : Granule} {past rest : Trace} {replies : List ProbeReply}
    (run : ProbesRun granule.requested replies)
    (answered : services.Answered past
      (Probes.events bucket granule.requested replies ++ rest))
    (unprobed : rest.probes = [])
    (gate : ∀ (before : Trace) (call : RestoreCall) (reply : RestoreReply) (after : Trace),
      rest = before ++ .restore call reply :: after →
        ProbesComplete granule.requested replies ∧
          ∃ time, .ofJob (.started ⟨jobId, granule.id, time, bucket⟩) ∈ before.acceptedMessages)
    (found : KeepsToFound settings jobId bucket granule replies rest) :
    GatesRestores services settings jobId bucket granule past
      (Probes.events bucket granule.requested replies ++ rest) replies := by
  have probed := Probes.probes_events bucket granule.requested replies
  have unsent := Probes.sends_events bucket granule.requested replies
  have unrequested := Probes.restores_events bucket granule.requested replies
  have probes : (Probes.events bucket granule.requested replies ++ rest).probes =
      Probes.exchanges bucket granule.requested replies := by
    rw [Trace.probes_append, probed, unprobed, List.append_nil]
  have kept : KeepsToFound settings jobId bucket granule replies
      (Probes.events bucket granule.requested replies ++ rest) := by
    constructor
    · rw [Trace.restores_append, unrequested, List.nil_append]
      exact found.calls
    · rw [Trace.sends_append, unsent, List.nil_append]
      exact found.messages
  refine ⟨answered, run, probes, ?_, ?_, kept, ?_⟩
  · intro before archive key reply after split
    obtain ⟨middle, same⟩ := Trace.exists_after_of_not_mem split
      (Trace.isView_probes.not_mem unprobed (List.cons_ne_nil _ _))
    rw [same, Trace.sends_append] at unsent
    rw [same, Trace.restores_append] at unrequested
    exact ⟨(List.append_eq_nil_iff.mp unsent).1, (List.append_eq_nil_iff.mp unrequested).1⟩
  · intro before call reply after split
    obtain ⟨middle, rfl⟩ := Trace.exists_before_of_not_mem split
      (Trace.isView_restores.not_mem unrequested (List.cons_ne_nil _ _))
    rw [List.append_assoc] at split
    have rested := List.append_cancel_left split
    obtain ⟨complete, time, accepted⟩ := gate middle call reply after rested
    rw [rested, Trace.probes_append] at unprobed
    refine ⟨?_, complete, time, ?_⟩
    · rw [Trace.probes_append, probed, (List.append_eq_nil_iff.mp unprobed).1, List.append_nil]
    · rw [Trace.acceptedMessages_append]
      exact List.mem_append_right _ accepted
  · intro key unfound
    rw [probes] at unfound
    exact kept.key_ne unfound

/-! The probes and what follows them. -/

section

variable {services : Services} {settings : Settings} {jobId bucket : String} {granule : Granule}
  {past : Trace} {replies : List ProbeReply}

/-- Nothing follows probes of which the last tells nothing. -/
theorem GatesRestores.of_probes (run : ProbesRun granule.requested replies)
    (answered : services.Answered past (Probes.events bucket granule.requested replies)) :
    GatesRestores services settings jobId bucket granule past
      (Probes.events bucket granule.requested replies) replies := by
  rw [← List.append_nil (Probes.events ..)] at answered ⊢
  refine .of_parts run answered rfl ?_ ⟨?_, ?_⟩
  · intro before call reply after split
    exact absurd split.symm (List.append_ne_nil_of_right_ne_nil _ (List.cons_ne_nil _ _))
  · intro call reply made
    cases made
  · intro message reply sent
    cases sent

/-- The restores of the files that were found follow probes that all tell something. -/
theorem GatesRestores.of_restores {plan : RestorePlan} {begun : Granule} {probed : Trace}
    (planned : plan = ⟨bucket, settings.expireDays, settings.tier, settings.passes⟩)
    (found : begun = { granule with results := Probes.found granule.requested replies })
    (run : ProbesRun granule.requested replies)
    (complete : ProbesComplete granule.requested replies)
    (answered : services.Answered past
      (Probes.events bucket granule.requested replies ++
        (requestRestores services settings.delivery plan jobId begun probed).2)) :
    GatesRestores services settings jobId bucket granule past
      (Probes.events bucket granule.requested replies ++
        (requestRestores services settings.delivery plan jobId begun probed).2) replies := by
  have course := Course.ofServices_runs services settings.delivery plan jobId begun probed
  have posts := Course.ofServices_posts services settings.delivery plan begun jobId probed
  rw [requestRestores_eq] at answered ⊢
  subst planned found
  refine .of_parts run answered (Course.probes_events ..) ?_ ⟨?_, ?_⟩
  · intro before call reply after split
    have accepted := course.announced_before split
    rw [Course.job_ofServices] at accepted
    exact ⟨complete, services.clock probed, accepted⟩
  · intro call reply requested
    obtain ⟨file, listed, rfl⟩ := Course.call_of_mem_restores requested
    exact ⟨file, Probes.mem_requested_found listed, rfl⟩
  · intro message reply sent
    rcases posts.message_of_mem_sends sent with ⟨time, rfl⟩ | ⟨file, listed, told⟩
    · exact ⟨time, .inl rfl⟩
    · exact ⟨services.clock probed, .inr ⟨file, Probes.mem_requested_found listed, told⟩⟩

end

theorem Task.carryOut_gatesRestores (services : Services) (settings : Settings)
    (bucket : String) (granule : Granule) (jobId : String) (past : Trace) :
    GatesRestores services settings jobId bucket granule past
      (carryOut services settings bucket granule jobId past).2
      (Probes.ofServices services bucket past granule.requested) := by
  have answered := carryOut_records services settings bucket granule jobId past
  have run := Probes.ofServices_run services bucket past granule.requested
  have probed := presentFiles_eq services bucket past granule.requested
  generalize Probes.ofServices services bucket past granule.requested = replies at run probed ⊢
  unfold carryOut at answered ⊢
  cases failed : Probes.failure bucket granule.requested replies with
  | some failure =>
      rw [failed] at probed
      rw [Procedure.bind_of_error probed] at answered ⊢
      exact .of_probes run answered
  | none =>
      rw [failed] at probed
      rw [Procedure.bind_of_ok probed] at answered ⊢
      dsimp only at answered ⊢
      rw [Procedure.trace_bind_pure] at answered ⊢
      exact .of_restores rfl rfl run (run.complete failed) answered

/-- A task whose request passes the checks gates its restores; any other does nothing. -/
theorem Task.run_gatesRestores (services : Services) (settings : Settings) (freshId : String)
    (request : Request) (past : Trace) :
    ((request.bucket.all Text.isBlank = true ∨ request.granules.length ≠ 1) ∧
        (run services settings freshId request past).2 = []) ∨
      ∃ bucket granule replies, request.bucket = some bucket ∧ request.granules = [granule] ∧
        GatesRestores services settings (jobIdOf request freshId) bucket granule past
          (run services settings freshId request past).2 replies := by
  unfold run
  cases missing : (Step.bucket request.bucket).failure with
  | some failure =>
      rw [bucketOf_eq_error request missing]
      exact .inl ⟨.inl (isBlank_of_failure missing), rfl⟩
  | none =>
      obtain ⟨bucket, given, read⟩ := bucketOf_eq_ok request missing
      rw [read]
      cases wrong : (Step.granules request.granules.length).failure with
      | some failure =>
          rw [granuleOf_eq_error request wrong]
          exact .inl ⟨.inr (length_ne_one_of_failure wrong), rfl⟩
      | none =>
          obtain ⟨granule, listed, read⟩ := granuleOf_eq_ok request wrong
          rw [read]
          exact .inr ⟨bucket, granule, _, given, listed, carryOut_gatesRestores ..⟩

end GranuleRecall
