import GranuleRecall.Proofs.Course.Posts
import GranuleRecall.Proofs.Course.Reports
import GranuleRecall.Proofs.Course.Tasks
import GranuleRecall.Proofs.GatedRestores

/-! # One job, one timeline

All messages of a run tell of one job: they carry its id, its granule and the time of its request.
Each message about a file carries the instant at which it was built, which is the instant of its
first attempt, and further attempts send it unchanged. When the clock does not go back, neither do
these instants. -/

set_option autoImplicit false

namespace GranuleRecall

/-! ## The order of instants -/

/-- A leap second comes after the second that it follows. -/
instance : LE Time.Instant where
  le earlier later :=
    earlier.seconds < later.seconds ∨
      (earlier.seconds = later.seconds ∧ earlier.nanoseconds ≤ later.nanoseconds)

theorem Time.Instant.le_refl (instant : Time.Instant) : instant ≤ instant :=
  .inr ⟨rfl, Nat.le_refl _⟩

/-- The clock does not go back in a run. -/
def Services.HasOrderedClock (services : Services) : Prop :=
  ∀ past later : Trace, services.clock past ≤ services.clock (past ++ later)

/-! ## The members of a message -/

/-- A message is an object with some members, and each of its members stands there once. -/
def Message.Carries (message : Message) (members : List (String × Json)) : Prop :=
  ∃ all : List (String × Json), message.body = (Json.object all).render ∧
    (all.map Prod.fst).Nodup ∧ members ⊆ all

theorem Message.Carries.mono {message : Message} {members fewer : List (String × Json)}
    (carried : message.Carries members) (within : fewer ⊆ members) : message.Carries fewer := by
  obtain ⟨all, body, once, listed⟩ := carried
  exact ⟨all, body, once, List.Subset.trans within listed⟩

theorem JobEvent.carries (event : JobEvent) :
    (Message.ofJob event).Carries [("job_id", .text event.jobId),
      ("granule_id", .text event.granuleId), ("request_time", timeJson event.requestTime)] := by
  refine ⟨_, rfl, ?_, ?_⟩
  · cases event.completionTime with
    | none => simp [optionalMember]
    | some time => simp [optionalMember]
  · simp

theorem FileEvent.carries (event : FileEvent) :
    (Message.ofFile event).Carries [("job_id", .text event.jobId),
      ("granule_id", .text event.granuleId), ("request_time", timeJson event.requestTime),
      ("last_update", timeJson event.lastUpdate)] := by
  refine ⟨_, rfl, ?_, ?_⟩
  · cases event.errorMessage with
    | none =>
        cases event.completionTime with
        | none => simp [optionalMember]
        | some time => simp [optionalMember]
    | some reason =>
        cases event.completionTime with
        | none => simp [optionalMember]
        | some time => simp [optionalMember]
  · simp

/-- An event of a job carries what identifies the job. -/
theorem FileEvent.withStatus_carries (job : Job) (file : FileResult) (status : StatusCode)
    (reason? : Option String) (now : Time.Instant) :
    (Message.ofFile (.withStatus job file status reason? now)).Carries [("job_id", .text job.id),
      ("granule_id", .text job.granuleId), ("request_time", timeJson job.requestTime),
      ("last_update", timeJson now)] :=
  carries _

/-! ## Where a message stands in a trace -/

/-- The place of a message in the trace of a run after some past: what happened before it was built,
and how it was sent then. -/
structure Post.StandsAfter (services : Services) (delivery : DeliveryBudget) (job : Job)
    (past trace before : Trace) (post : Post) : Prop where
  sent : ∃ after, trace = before ++ post.events delivery job ++ after
  built : post.time = services.clock (past ++ before)
  /-- A message about an accepted file is built right after the request for it was accepted. -/
  accepted : ∀ position file, post.subject = .accepted position file →
    ∃ earlier call record, past ++ before = earlier ++ [.restore call .accepted, .log record] ∧
      call.key = file.key

/-- The attempts to send some messages, one message after another. -/
def Post.allAttempts (job : Job) (posts : List Post) : List (Message × SendReply) :=
  posts.flatMap fun post => post.sending.attempts (post.message job)

theorem DuePosts.placed {services : Services} {delivery : DeliveryBudget} {job : Job}
    {granule : Granule} {plan : RestorePlan} {past trace : Trace} {posts : List Post}
    (run : DuePosts services delivery job granule plan past trace posts) {index : Nat} {post : Post}
    (listed : posts[index]? = some post) :
    ∃ before, before.sends = Post.allAttempts job (posts.take index) ∧
      post.subject.IsDue services plan job (past ++ before) ∧
      post.StandsAfter services delivery job past trace before := by
  induction run generalizing index with
  | done => cases listed
  | @other past event trace posts quiet _ ih =>
      obtain ⟨before, sends, due, ⟨after, split⟩, built, accepted⟩ := ih listed
      rw [List.append_assoc] at due built accepted
      refine ⟨event :: before, ?_, due, ⟨after, congrArg (List.cons event) split⟩, built, accepted⟩
      rw [← sends]
      cases event with
      | send message reply => cases quiet
      | _ => rfl
  | @post past first trace posts fits due built run ih =>
      cases index with
      | zero =>
          cases listed
          rw [← List.append_nil past] at due built
          refine ⟨[], rfl, due, ⟨trace, rfl⟩, built, ?_⟩
          intro position file subject
          rw [subject] at due
          obtain ⟨earlier, attempt, split⟩ := due
          exact ⟨earlier, _, _, split, rfl⟩
      | succ index =>
          obtain ⟨before, sends, due, ⟨after, split⟩, built, accepted⟩ := ih listed
          rw [List.append_assoc] at due built accepted
          refine ⟨first.events delivery job ++ before, ?_, due, ⟨after, ?_⟩, built, accepted⟩
          · rw [Trace.sends_append, sends, Post.events, Sending.sends_events]
            rfl
          · rw [split, List.append_assoc, List.append_assoc, List.append_assoc]

/-- The instant of a message is one that the clock shows in the run. -/
theorem DuePosts.built {services : Services} {delivery : DeliveryBudget} {job : Job}
    {granule : Granule} {plan : RestorePlan} {past trace : Trace} {posts : List Post}
    (run : DuePosts services delivery job granule plan past trace posts) {post : Post}
    (made : post ∈ posts) :
    ∃ before, before <+: trace ∧ post.time = services.clock (past ++ before) := by
  obtain ⟨index, listed⟩ := List.getElem?_of_mem made
  obtain ⟨before, _, _, ⟨after, split⟩, built, _⟩ := run.placed listed
  rw [List.append_assoc] at split
  exact ⟨before, ⟨_, split.symm⟩, built⟩

theorem DuePosts.sorted {services : Services} (ordered : services.HasOrderedClock)
    {delivery : DeliveryBudget} {job : Job} {granule : Granule} {plan : RestorePlan}
    {past trace : Trace} {posts : List Post}
    (run : DuePosts services delivery job granule plan past trace posts) :
    posts.Pairwise fun post later => post.time ≤ later.time := by
  induction run with
  | done => exact .nil
  | other _ _ ih => exact ih
  | post _ _ built run ih =>
      refine .cons (fun later listed => ?_) ih
      obtain ⟨before, _, builtLater⟩ := run.built listed
      rw [built, builtLater, List.append_assoc]
      exact ordered _ _

/-- The messages of a trace tell of one job, in the order of time. -/
structure TellsOfOneJob (services : Services) (delivery : DeliveryBudget) (job : Job)
    (past trace : Trace) (posts : List Post) : Prop where
  sends : trace.sends = Post.allAttempts job posts
  announced : ∀ index post, posts[index]? = some post → (post.subject = .job ↔ index = 0)
  identity : ∀ post ∈ posts, (post.message job).Carries [("job_id", .text job.id),
    ("granule_id", .text job.granuleId), ("request_time", timeJson job.requestTime)]
  updates : ∀ post ∈ posts, post.subject ≠ .job →
    (post.message job).Carries [("last_update", timeJson post.time)]
  placed : ∀ index post, posts[index]? = some post → ∃ before,
    before.sends = Post.allAttempts job (posts.take index) ∧
      post.StandsAfter services delivery job past trace before
  requestTime : ∀ post ∈ posts, post.subject = .job → post.time = job.requestTime
  requested : ∀ post ∈ posts, job.requestTime ≤ post.time
  ordered : posts.Pairwise fun post later => post.time ≤ later.time

theorem DuePosts.tellsOfOneJob {services : Services} (ordered : services.HasOrderedClock)
    {delivery : DeliveryBudget} {job : Job} {granule : Granule} {plan : RestorePlan}
    {past trace : Trace} {posts : List Post}
    (run : DuePosts services delivery job granule plan past trace posts)
    (announced : ∀ index post, posts[index]? = some post → (post.subject = .job ↔ index = 0)) :
    TellsOfOneJob services delivery job past trace posts := by
  have sorted := run.sorted ordered
  have begun : ∀ post ∈ posts, post.subject = .job → post.time = job.requestTime := by
    intro post made subject
    obtain ⟨index, listed⟩ := List.getElem?_of_mem made
    obtain ⟨before, _, due, placed⟩ := run.placed listed
    rw [subject] at due
    rw [placed.built, due]
  refine ⟨run.toPosts.sends_eq, announced, ?identity, ?updates, ?placed, begun, ?requested, sorted⟩
  case identity =>
    intro post made
    have started := begun post made
    obtain ⟨subject, time, sending⟩ := post
    cases subject with
    | job =>
        rw [← started rfl]
        exact JobEvent.carries _
    | accepted position file => exact (FileEvent.withStatus_carries ..).mono (by simp)
    | failed position file reason => exact (FileEvent.withStatus_carries ..).mono (by simp)
  case updates =>
    intro post made
    obtain ⟨subject, time, sending⟩ := post
    cases subject with
    | job => exact fun told => absurd rfl told
    | accepted position file => exact fun _ => (FileEvent.withStatus_carries ..).mono (by simp)
    | failed position file reason =>
        exact fun _ => (FileEvent.withStatus_carries ..).mono (by simp)
  case placed =>
    intro index post listed
    obtain ⟨before, sends, _, placed⟩ := run.placed listed
    exact ⟨before, sends, placed⟩
  case requested =>
    cases posts with
    | nil => exact fun post made => absurd made List.not_mem_nil
    | cons first later =>
        have started := begun first List.mem_cons_self ((announced 0 first rfl).mpr rfl)
        intro post made
        rw [← started]
        rcases List.mem_cons.mp made with rfl | made
        · exact Time.Instant.le_refl _
        · exact List.rel_of_pairwise_cons sorted made

/-- A trace in which nothing is sent tells of nothing. -/
theorem TellsOfOneJob.of_unsent {services : Services} {delivery : DeliveryBudget} {job : Job}
    {past trace : Trace} (unsent : trace.sends = []) :
    TellsOfOneJob services delivery job past trace [] where
  sends := unsent
  announced := nofun
  identity := nofun
  updates := nofun
  placed := nofun
  requestTime := nofun
  requested := nofun
  ordered := .nil

/-! ## A whole task -/

theorem DuePosts.of_unsent {services : Services} {delivery : DeliveryBudget} {job : Job}
    {granule : Granule} {plan : RestorePlan} {past trace : Trace} (unsent : trace.sends = []) :
    DuePosts services delivery job granule plan past trace [] := by
  induction trace generalizing past with
  | nil => exact .done
  | cons event later ih =>
      cases event with
      | send message reply => cases unsent
      | _ => exact .other rfl (ih unsent)

/-- A course that follows on probes sends its messages when they are due. -/
theorem Course.duePosts_after {services : Services} {delivery : DeliveryBudget} {plan : RestorePlan}
    {jobId : String} {granule : Granule} {past probes : Trace} {course : Course}
    (unsent : probes.sends = [])
    (made : course = Course.ofServices services delivery plan jobId granule (past ++ probes)) :
    DuePosts services delivery course.job granule plan past
      (probes ++ course.events delivery plan granule) (course.posts granule) := by
  have posted := Course.ofServices_duePosts services delivery plan granule jobId (past ++ probes)
  rw [← Course.job_ofServices services delivery plan jobId granule (past ++ probes), ← made]
    at posted
  exact (DuePosts.of_unsent unsent).append posted

/-- The announcement is the first message of a course, and no other tells of the job alone. -/
theorem Course.subject_eq_job_iff (course : Course) (granule : Granule) (index : Nat)
    (post : Post) (listed : (course.posts granule)[index]? = some post) :
    post.subject = .job ↔ index = 0 := by
  cases index with
  | zero =>
      cases listed
      exact ⟨fun _ => rfl, fun _ => rfl⟩
  | succ index =>
      refine ⟨fun told => ?_, fun first => absurd first (Nat.succ_ne_zero index)⟩
      rcases List.mem_append.mp (List.mem_of_getElem? listed) with accepted | failed
      · obtain ⟨acceptance, _, rfl⟩ := List.mem_map.mp accepted
        cases told
      · obtain ⟨entry, _, notice, _, rfl⟩ := Notices.mem_posts failed
        cases told

/-- What a task for a request tells of: one job for the granule of the request, with the id of the
request, or with the fresh id when the request has none or an empty one. -/
structure Task.TellsOfRequest (services : Services) (settings : Settings) (freshId : String)
    (request : Request) (past : Trace) (ran : Except Failure Report × Trace) (job : Job)
    (posts : List Post) : Prop where
  given : ∀ id, request.jobId = some id → id ≠ "" → job.id = id
  generated : (∀ id, request.jobId = some id → id = "") → job.id = freshId
  granule : posts ≠ [] → ∃ granule, request.granules = [granule] ∧ job.granuleId = granule.id
  reported : ∀ report, Report.ofOutcome? ran.1 = some report → report.jobId = job.id
  told : TellsOfOneJob services settings.delivery job past ran.2 posts

namespace Task

theorem jobIdOf_of_given {request : Request} {id : String} (freshId : String)
    (given : request.jobId = some id) (nonempty : id ≠ "") : jobIdOf request freshId = id := by
  simp [jobIdOf, given, nonempty]

theorem jobIdOf_of_missing {request : Request} (freshId : String)
    (missing : ∀ id, request.jobId = some id → id = "") : jobIdOf request freshId = freshId := by
  unfold jobIdOf
  cases given : request.jobId with
  | none => rfl
  | some id => simp [missing id given]

section

variable {services : Services} {settings : Settings} {freshId : String} {request : Request}
  {past : Trace} {ran : Except Failure Report × Trace}

theorem TellsOfRequest.of_parts {job : Job} {posts : List Post}
    (identified : job.id = jobIdOf request freshId)
    (granule : posts ≠ [] → ∃ granule, request.granules = [granule] ∧ job.granuleId = granule.id)
    (reported : ∀ report, Report.ofOutcome? ran.1 = some report → report.jobId = job.id)
    (told : TellsOfOneJob services settings.delivery job past ran.2 posts) :
    TellsOfRequest services settings freshId request past ran job posts where
  given _ given nonempty := identified.trans (jobIdOf_of_given freshId given nonempty)
  generated missing := identified.trans (jobIdOf_of_missing freshId missing)
  granule := granule
  reported := reported
  told := told

/-- A task that sends nothing and reports nothing. -/
theorem TellsOfRequest.of_silent (unsent : ran.2.sends = [])
    (unreported : ∀ report, Report.ofOutcome? ran.1 ≠ some report) :
    TellsOfRequest services settings freshId request past ran
      ⟨jobIdOf request freshId, "", services.clock past, ""⟩ [] :=
  .of_parts rfl (fun told => absurd rfl told)
    (fun report reported => absurd reported (unreported report)) (.of_unsent unsent)

end

/-- Everything that a task sends tells of one job, in the order of time, and so does its report. -/
theorem run_tellsOfOneJob (services : Services) (ordered : services.HasOrderedClock)
    (settings : Settings) (freshId : String) (request : Request) (past : Trace) :
    ∃ job posts,
      TellsOfRequest services settings freshId request past
        (run services settings freshId request past) job posts := by
  have stages := run_stages services settings freshId request past
  generalize run services settings freshId request past = ran at stages ⊢
  cases stages with
  | unchecked wrong bare =>
      exact ⟨_, _, .of_silent rfl (Report.ofOutcome?_error_ne_some bare)⟩
  | @unknown bucket granule replies failure given filled listed replied failed =>
      have bare := Probes.failure_partialResult failed
      exact ⟨_, _, .of_silent (Probes.sends_events bucket granule.requested replies)
        (Report.ofOutcome?_error_ne_some bare)⟩
  | @requested bucket granule begun replies plan probed given filled listed replied fine planned
      found asked =>
      rw [requestRestores_eq]
      generalize made : Course.ofServices services settings.delivery plan (jobIdOf request freshId)
        begun probed = course
      subst asked
      have posted := Course.duePosts_after (Probes.sends_events bucket granule.requested replies)
        made.symm
      have job : course.job = ⟨jobIdOf request freshId, begun.id, _, plan.bucket⟩ :=
        made ▸ Course.job_ofServices ..
      have identified : course.job.id = jobIdOf request freshId := congrArg Job.id job
      refine ⟨course.job, course.posts begun, .of_parts identified ?_ ?_
        (posted.tellsOfOneJob ordered (course.subject_eq_job_iff begun))⟩
      · exact fun _ => ⟨granule, listed, (congrArg Job.granuleId job).trans (by rw [found])⟩
      · intro report reported
        rw [← identified, Course.ofOutcome?_outcome] at reported
        split at reported
        · cases reported
          rfl
        · cases reported

end Task

/-! A clock that goes on with everything that happens, a queue that refuses the second attempt, and
an archive that accepts one request, asked by a job whose id is blank. -/

def tickingClock : Services where
  probe _ _ _ := .present
  restore past _ := if past.restores.isEmpty then .accepted else .rejected "busy"
  send past _ := if past.sends.length = 1 then .refused ["full"] else .accepted
  clock past := ⟨past.length, 0⟩

def blankJob : Request where
  bucket := some "archive"
  granules := [⟨"granule", [⟨"a", "near"⟩, ⟨"a", "far"⟩], [], []⟩]
  jobId := some " "

theorem tickingClock_hasOrderedClock : tickingClock.HasOrderedClock := by
  intro past later
  change (⟨past.length, 0⟩ : Time.Instant) ≤ ⟨(past ++ later).length, 0⟩
  rw [List.length_append]
  rcases Nat.eq_or_lt_of_le (Nat.le_add_right past.length later.length) with same | more
  · rw [← same]
    exact Time.Instant.le_refl _
  · exact .inl (Int.ofNat_lt.mpr more)

theorem tickingClock_tellsOfOneJob :
    ∃ job posts,
      Task.TellsOfRequest tickingClock { oneTry with delivery := .of 2 .zero } "fresh" blankJob []
        (Task.run tickingClock { oneTry with delivery := .of 2 .zero } "fresh" blankJob [])
        job posts :=
  Task.run_tellsOfOneJob tickingClock tickingClock_hasOrderedClock
    { oneTry with delivery := .of 2 .zero } "fresh" blankJob []

end GranuleRecall
