import GranuleRecall.Proofs.Course.Waiting

/-! # When messages are built

A message is built once, just before its first attempt, at the instant that the clock shows there.
`Posts` says of a trace which messages are sent in it, what each tells, and when it was built;
`DuePosts` says besides what has just happened when a message is built. -/

set_option autoImplicit false

namespace GranuleRecall

/-- What a message tells: that the job was started, or how an entry fared. -/
inductive Subject
  | job
  | accepted (position : Nat) (file : RequestedFile)
  | failed (position : Nat) (file : RequestedFile) (reason : String)
deriving DecidableEq, Repr

namespace Subject

def position? : Subject → Option Nat
  | job => none
  | accepted position _ => some position
  | failed position _ _ => some position

/-- The message about a subject when it is built at some time. -/
def message (request : Job) (time : Time.Instant) : Subject → Message
  | job => .ofJob (.started { request with requestTime := time })
  | accepted _ file => .ofFile (.pending request (.pending file) time)
  | failed _ file reason =>
    .ofFile (.withStatus request (.pending file) .failed (some reason) time)

/-- An entry that is told of is one of the granule, and a failure has a reason. -/
def Fits (granule : Granule) : Subject → Prop
  | job => True
  | accepted position file =>
    (granule.results.map FileResult.requested)[position]? = some file
  | failed position file reason =>
    (granule.results.map FileResult.requested)[position]? = some file ∧ reason ≠ ""

/-- When a message is built. One about an accepted entry is built right after the archive has
accepted the request for it. -/
def IsDue (services : Services) (plan : RestorePlan) (request : Job) (past : Trace) :
    Subject → Prop
  | job => services.clock past = request.requestTime
  | accepted _ file =>
    ∃ earlier attempt,
      past = earlier ++ [.restore (plan.callFor (.pending file)) .accepted,
        .log (Restores.acceptedRecord plan request attempt (.pending file))]
  | failed _ _ _ => True

end Subject

/-- The sending of one message: what it tells, when it was built, and how it was sent. -/
structure Post where
  subject : Subject
  time : Time.Instant
  sending : Sending
deriving DecidableEq, Repr

namespace Post

variable (delivery : DeliveryBudget) (job : Job) (post : Post)

def message : Message :=
  post.subject.message job post.time

def events : Trace :=
  post.sending.events delivery (post.message job) 1

def publication : Publication :=
  ⟨post.subject.position?, post.message job, post.sending⟩

end Post

def Event.isSend : Event → Bool
  | send _ _ => true
  | _ => false

section

variable (services : Services) (delivery : DeliveryBudget) (job : Job) (granule : Granule)

/-- The messages that are sent in a trace after some past. -/
inductive Posts : (past : Trace) → Trace → List Post → Prop
  | done {past : Trace} : Posts past [] []
  | other {past : Trace} {event : Event} {trace : Trace} {posts : List Post} :
      event.isSend = false → Posts (past ++ [event]) trace posts →
      Posts past (event :: trace) posts
  | post {past : Trace} {post : Post} {trace : Trace} {posts : List Post} :
      post.subject.Fits granule → post.time = services.clock past →
      Posts (past ++ post.events delivery job) trace posts →
      Posts past (post.events delivery job ++ trace) (post :: posts)

variable (plan : RestorePlan)

/-- The messages that are sent in a trace after some past, each of them when it is due. -/
inductive DuePosts : (past : Trace) → Trace → List Post → Prop
  | done {past : Trace} : DuePosts past [] []
  | other {past : Trace} {event : Event} {trace : Trace} {posts : List Post} :
      event.isSend = false → DuePosts (past ++ [event]) trace posts →
      DuePosts past (event :: trace) posts
  | post {past : Trace} {post : Post} {trace : Trace} {posts : List Post} :
      post.subject.Fits granule → post.subject.IsDue services plan job past →
      post.time = services.clock past →
      DuePosts (past ++ post.events delivery job) trace posts →
      DuePosts past (post.events delivery job ++ trace) (post :: posts)

end

namespace Posts

variable {services : Services} {delivery : DeliveryBudget} {job : Job} {granule : Granule}
  {past trace : Trace} {posts : List Post}

theorem mem (run : Posts services delivery job granule past trace posts) {post : Post}
    (made : post ∈ posts) :
    post.subject.Fits granule ∧ ∃ before, post.time = services.clock before := by
  induction run with
  | done => cases made
  | other _ _ ih => exact ih made
  | @post past first _ _ fits built _ ih =>
      rcases List.mem_cons.mp made with rfl | later
      · exact ⟨fits, past, built⟩
      · exact ih later

theorem sends_eq (run : Posts services delivery job granule past trace posts) :
    trace.sends = posts.flatMap fun post => post.sending.attempts (post.message job) := by
  induction run with
  | done => rfl
  | @other past event trace posts quiet _ ih =>
      cases event with
      | send message reply => cases quiet
      | _ => exact ih
  | post _ _ _ ih =>
      rw [Trace.sends_append, Post.events, Sending.sends_events, ih, List.flatMap_cons]

theorem exists_post (run : Posts services delivery job granule past trace posts)
    {message : Message} {reply : SendReply} (sent : (message, reply) ∈ trace.sends) :
    ∃ post ∈ posts, message = post.message job := by
  rw [run.sends_eq] at sent
  obtain ⟨post, made, attempted⟩ := List.mem_flatMap.mp sent
  exact ⟨post, made, Sending.mem_attempts _ _ attempted⟩

end Posts

namespace DuePosts

variable {services : Services} {delivery : DeliveryBudget} {plan : RestorePlan} {job : Job}
  {granule : Granule} {past trace later : Trace} {posts others : List Post}

theorem toPosts (run : DuePosts services delivery job granule plan past trace posts) :
    Posts services delivery job granule past trace posts := by
  induction run with
  | done => exact .done
  | other quiet _ ih => exact .other quiet ih
  | post fits _ built _ ih => exact .post fits built ih

theorem append (first : DuePosts services delivery job granule plan past trace posts)
    (second : DuePosts services delivery job granule plan (past ++ trace) later others) :
    DuePosts services delivery job granule plan past (trace ++ later) (posts ++ others) := by
  induction first with
  | done =>
      rw [List.append_nil] at second
      exact second
  | other quiet _ ih =>
      refine .other quiet (ih ?_)
      rwa [List.append_assoc]
  | post fits due built _ ih =>
      rw [List.append_assoc]
      refine .post fits due built (ih ?_)
      rwa [List.append_assoc]

theorem single {subject : Subject} {time : Time.Instant} (fits : subject.Fits granule)
    (due : subject.IsDue services plan job past) (built : time = services.clock past)
    (sending : Sending) :
    DuePosts services delivery job granule plan past
      (Post.events delivery job ⟨subject, time, sending⟩) [⟨subject, time, sending⟩] := by
  rw [← List.append_nil (Post.events ..)]
  exact .post fits due built .done

theorem logs (past : Trace) (records : List LogRecord) :
    DuePosts services delivery job granule plan past (records.map Event.log) [] := by
  induction records generalizing past with
  | nil => exact .done
  | cons record records ih => exact .other rfl (ih _)

end DuePosts

/-! ## The posts of a course -/

def Acceptance.post (acceptance : Acceptance) : Post :=
  ⟨.accepted acceptance.position acceptance.file, acceptance.notice.time,
    acceptance.notice.sending⟩

def Notice.post (entry : FileResult × Nat) (notice : Notice) : Post :=
  ⟨.failed entry.2 entry.1.requested (Restores.failureMessage entry.1), notice.time,
    notice.sending⟩

def Notices.posts (entries : List (FileResult × Nat)) (notices : List Notice) : List Post :=
  List.zipWith Notice.post entries notices

theorem Notices.mem_posts {entries : List (FileResult × Nat)} {notices : List Notice} {post : Post}
    (member : post ∈ Notices.posts entries notices) :
    ∃ entry ∈ entries, ∃ notice ∈ notices, post = notice.post entry := by
  rw [Notices.posts, ← List.map_uncurry_zip_eq_zipWith] at member
  obtain ⟨⟨entry, notice⟩, paired, rfl⟩ := List.mem_map.mp member
  obtain ⟨listed, made⟩ := List.of_mem_zip paired
  exact ⟨entry, listed, notice, made, rfl⟩

namespace Course

variable (course : Course) (granule : Granule)

def announcementPost : Post :=
  ⟨.job, course.job.requestTime, course.announcement⟩

def posts : List Post :=
  course.announcementPost ::
    ((course.acceptances granule).map Acceptance.post ++
      Notices.posts (course.final granule).waiting course.notices)

theorem publications_eq :
    course.publications granule = (course.posts granule).map (Post.publication course.job) := by
  have reported (entries : List (FileResult × Nat)) :
      Notices.publications course.job entries course.notices =
        (Notices.posts entries course.notices).map (Post.publication course.job) := by
    rw [Notices.posts, List.map_zipWith]
    rfl
  rw [publications, posts, reported, List.map_cons, List.map_append, List.map_map]
  rfl

end Course

theorem Course.requested_of_waiting (course : Course) (granule : Granule) :
    ∀ entry ∈ (course.final granule).waiting,
      (granule.results.map FileResult.requested)[entry.2]? = some entry.1.requested := by
  intro entry waits
  have listed := List.mem_zipIdx_iff_getElem?.mp (List.mem_filter.mp waits).1
  rw [← course.requested_final granule, List.getElem?_map, listed]
  rfl

/-! ## A course builds its messages when it sends them -/

section

variable (services : Services) (delivery : DeliveryBudget) (plan : RestorePlan) (job : Job)
  (granule : Granule)

theorem Turn.ofServices_duePosts (attempt position : Nat) (past : Trace) {file : FileResult}
    (listed : (granule.results.map FileResult.requested)[position]? = some file.requested) :
    DuePosts services delivery job granule plan past
      ((Turn.ofServices services delivery plan job attempt past file).events delivery plan job
        attempt file)
      ((Turn.acceptance position file.requested
        (Turn.ofServices services delivery plan job attempt past file)).map
          Acceptance.post) := by
  unfold Turn.ofServices
  cases file.accepted with
  | true => exact .done
  | false =>
      cases services.restore past (plan.callFor file) with
      | accepted =>
          refine .other rfl (.other rfl ?_)
          rw [List.append_assoc]
          have fits : (Subject.accepted position file.requested).Fits granule := listed
          have due : (Subject.accepted position file.requested).IsDue services plan job
              (past ++ [.restore (plan.callFor file) .accepted,
                .log (Restores.acceptedRecord plan job attempt file)]) := ⟨past, attempt, rfl⟩
          exact DuePosts.single fits due rfl _
      | rejected message => exact .other rfl (.other rfl .done)
      | unusable message => exact .other rfl .done

theorem Pass.ofServices_duePosts (attempt position : Nat) (past : Trace) (files : List FileResult)
    (listed : ∀ index file, files[index]? = some file →
      (granule.results.map FileResult.requested)[position + index]? = some file.requested) :
    DuePosts services delivery job granule plan past
      (Pass.events delivery plan job attempt files
        (Pass.ofServices services delivery plan job attempt past files))
      ((Pass.collect Turn.acceptance position (files.map FileResult.requested)
        (Pass.ofServices services delivery plan job attempt past files)).map
          Acceptance.post) := by
  induction files generalizing position past with
  | nil => exact .done
  | cons file others ih =>
      have turned := Turn.ofServices_duePosts services delivery plan job granule attempt position
        past (listed 0 file rfl)
      simp only [Pass.ofServices]
      generalize Turn.ofServices services delivery plan job attempt past file = turn at turned ⊢
      have rest := ih (position + 1) (past ++ turn.events delivery plan job attempt file)
        fun index other found => by
          rw [Nat.add_right_comm]
          exact listed (index + 1) other found
      cases turn.failure with
      | some failure => simpa [Pass.events, Pass.collect] using turned
      | none =>
          rw [List.map_cons, Pass.collect, List.map_append]
          exact turned.append rest

theorem Passes.ofServices_duePosts (passesLeft attempt : Nat) (past : Trace)
    (files : List FileResult)
    (sameFiles : files.map FileResult.requested = granule.results.map FileResult.requested) :
    DuePosts services delivery job granule plan past
      (Passes.events delivery plan job attempt files
        (Passes.ofServices services delivery plan job passesLeft attempt past files))
      ((Passes.collect Turn.acceptance (granule.results.map FileResult.requested)
        (Passes.ofServices services delivery plan job passesLeft attempt past files)).map
          Acceptance.post) := by
  induction passesLeft generalizing attempt past files with
  | zero => exact .done
  | succ passesLeft ih =>
      have passed :=
        Pass.ofServices_duePosts services delivery plan job granule attempt 0 past files
          fun index file found => by
            rw [← sameFiles, Nat.zero_add, List.getElem?_map, found]
            rfl
      rw [sameFiles] at passed
      rcases Passes.ofServices_succ services delivery plan job passesLeft attempt past files rfl
        rfl with ⟨_, last⟩ | ⟨more, goesOn⟩
      · rw [last, Passes.events_singleton, Passes.collect, List.flatMap_singleton]
        exact passed
      · rw [goesOn, Passes.events_cons _ _ _ _ _ _ more, Passes.collect, List.flatMap_cons,
          List.map_append]
        refine passed.append (.other rfl ?_)
        exact ih (attempt + 1) _ _ (by rw [Pass.requested_after, sameFiles])

theorem Notices.ofServices_duePosts (past : Trace) (entries : List (FileResult × Nat))
    (listed : ∀ entry ∈ entries,
      (granule.results.map FileResult.requested)[entry.2]? = some entry.1.requested) :
    DuePosts services delivery job granule plan past
      (Notices.events delivery job (entries.map Prod.fst)
        (Notices.ofServices services delivery job past (entries.map Prod.fst)))
      (Notices.posts entries
        (Notices.ofServices services delivery job past (entries.map Prod.fst))) := by
  induction entries generalizing past with
  | nil => exact .done
  | cons entry others ih =>
      have fits : (Subject.failed entry.2 entry.1.requested
          (Restores.failureMessage entry.1)).Fits granule :=
        ⟨listed entry List.mem_cons_self, Restores.failureMessage_ne_empty _⟩
      exact (DuePosts.single fits trivial rfl _).append
        (ih _ fun other later => listed other (List.mem_cons_of_mem _ later))

variable {services delivery plan granule} in
theorem Course.duePosts_of_parts {past : Trace} (course : Course)
    (announced : DuePosts services delivery course.job granule plan past
      (course.announcementEvents delivery) [course.announcementPost])
    (passed : DuePosts services delivery course.job granule plan
      (past ++ course.announcementEvents delivery) (course.passEvents delivery plan granule)
      ((course.acceptances granule).map Acceptance.post))
    (reported : DuePosts services delivery course.job granule plan
      (past ++ course.announcementEvents delivery ++ course.passEvents delivery plan granule)
      (course.noticeEvents delivery granule)
      (Notices.posts (course.final granule).waiting course.notices)) :
    DuePosts services delivery course.job granule plan past (course.events delivery plan granule)
      (course.posts granule) := by
  obtain ⟨records, told⟩ := course.exists_verdictEvents_eq_logs plan granule
  have ended : DuePosts services delivery course.job granule plan
      (past ++ (course.announcementEvents delivery ++ course.passEvents delivery plan granule ++
        course.noticeEvents delivery granule)) (records.map Event.log) [] := .logs _ records
  rw [List.append_assoc] at reported
  have all := ((announced.append passed).append reported).append ended
  rw [← told, List.append_nil, List.append_assoc [course.announcementPost]] at all
  exact all

theorem Course.ofServices_duePosts (jobId : String) (past : Trace) :
    DuePosts services delivery ⟨jobId, granule.id, services.clock past, plan.bucket⟩ granule plan
      past
      ((Course.ofServices services delivery plan jobId granule past).events delivery plan
        granule)
      ((Course.ofServices services delivery plan jobId granule past).posts granule) := by
  simp only [Course.ofServices]
  generalize made : (⟨jobId, granule.id, services.clock past, plan.bucket⟩ : Job) = job
  generalize Sending.ofDelivery services delivery (.ofJob (.started job)) past = announcement
  have fits : Subject.job.Fits granule := trivial
  have announced : DuePosts services delivery job granule plan past
      (announcement.events delivery (.ofJob (.started job)) 1)
      [⟨.job, job.requestTime, announcement⟩] :=
    DuePosts.single fits (by rw [Subject.IsDue, ← made]) (by rw [← made]) announcement
  have unreported (past : Trace) (passes : List (List Turn)) :
      DuePosts services delivery job granule plan past
        (Course.noticeEvents delivery ⟨job, announcement, passes, []⟩ granule)
        (Notices.posts (Course.final ⟨job, announcement, passes, []⟩ granule).waiting []) := by
    rw [Course.noticeEvents, Notices.events, Notices.posts, List.zipWith_nil_right,
      List.zipWith_nil_right]
    exact .done
  cases announcement.failure .job 1 with
  | some failure =>
      exact Course.duePosts_of_parts ⟨job, announcement, [], []⟩ announced .done (unreported _ [])
  | none =>
      have passed := Passes.ofServices_duePosts services delivery plan job granule
        plan.passes.totalAttempts 1
        (past ++ announcement.events delivery (.ofJob (.started job)) 1) granule.results rfl
      dsimp only
      generalize Passes.ofServices services delivery plan job plan.passes.totalAttempts 1
        (past ++ announcement.events delivery (.ofJob (.started job)) 1) granule.results = passes
        at passed ⊢
      cases Passes.failure 1 passes with
      | some failure =>
          exact Course.duePosts_of_parts ⟨job, announcement, passes, []⟩ announced passed
            (unreported _ passes)
      | none =>
          refine Course.duePosts_of_parts ⟨job, announcement, passes, _⟩ announced passed ?_
          dsimp only [Course.noticeEvents, Course.final]
          rw [← Granule.map_fst_waiting]
          exact Notices.ofServices_duePosts services delivery plan job granule _ _
            (Course.requested_of_waiting ⟨job, announcement, passes, []⟩ granule)

theorem Course.ofServices_posts (jobId : String) (past : Trace) :
    Posts services delivery ⟨jobId, granule.id, services.clock past, plan.bucket⟩ granule past
      ((Course.ofServices services delivery plan jobId granule past).events delivery plan
        granule)
      ((Course.ofServices services delivery plan jobId granule past).posts granule) :=
  (Course.ofServices_duePosts services delivery plan granule jobId past).toPosts

end

end GranuleRecall
