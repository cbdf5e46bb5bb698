import GranuleRecall.Proofs.Course.Posts
import GranuleRecall.Proofs.MessageIdentity
import GranuleRecall.Proofs.QueueAgreement

/-! # Only true repeats share an id

A queue drops a message whose deduplication id it has seen. In one run that costs nothing: all
attempts to send a message are the same message, and two messages share an id only when they tell
the same, at the same instant, of two entries that ask for the same file. -/

set_option autoImplicit false

namespace GranuleRecall

/-- The clock shows valid instants. -/
def Services.HasValidClock (services : Services) : Prop :=
  ∀ past, (services.clock past).IsValid

/-- Two posts tell the same of two entries that ask for the same file, and were built at the same
instant. -/
def Post.Repeats (post post' : Post) : Prop :=
  post.time = post'.time ∧
    match post.subject, post'.subject with
    | .accepted position file, .accepted position' file' => position ≠ position' ∧ file = file'
    | .failed position file reason, .failed position' file' reason' =>
      position ≠ position' ∧ file = file' ∧ reason = reason'
    | _, _ => False

/-- The messages that are sent in a trace: all that is sent in it are attempts of them, one
message after another. Every attempt of a message is that message, and messages that share an id
are repeats. -/
structure SharesIdsOfRepeats (services : Services) (delivery : DeliveryBudget) (job : Job)
    (granule : Granule) (past trace : Trace) (posts : List Post) : Prop where
  posted : Posts services delivery job granule past trace posts
  sends : trace.sends = posts.flatMap fun post => (post.events delivery job).sends
  sameMessage : ∀ post ∈ posts, ∀ attempt ∈ (post.events delivery job).sends,
    attempt.1 = post.message job
  repeats : posts.Pairwise fun post post' =>
    (post.message job).deduplicationId = (post'.message job).deduplicationId →
      post.Repeats post'

/-! ## Messages about entries -/

section

variable {job : Job} {time time' : Time.Instant} {file file' : RequestedFile}

theorem RequestedFile.eq_of_ofFile_eq {status status' : StatusCode}
    {reason? reason?' : Option String} (valid : time.IsValid) (valid' : time'.IsValid)
    (same : Message.ofFile (.withStatus job (.pending file) status reason? time) =
      Message.ofFile (.withStatus job (.pending file') status' reason?' time')) :
    file = file' ∧ status = status' ∧ time = time' ∧
      reason?.filter (!·.isEmpty) = reason?'.filter (!·.isEmpty) := by
  have alike := FileEvent.writtenAlike_of_ofFile_eq same
  have sameKey : file.key = file'.key := alike.key
  have sameDestination : file.destination = file'.destination := alike.destination
  refine ⟨?_, alike.status, timeJson_inj valid valid' alike.lastUpdate, alike.errorMessage⟩
  cases file
  cases file'
  cases sameKey
  cases sameDestination
  rfl

/-- Messages about different entries are the same only for repeats. -/
theorem Post.repeats_of_message_eq {granule : Granule} {post post' : Post}
    (fits : post.subject.Fits granule) (fits' : post'.subject.Fits granule)
    (valid : post.time.IsValid) (valid' : post'.time.IsValid)
    (apart : post.subject.position? ≠ post'.subject.position?)
    (same : post.message job = post'.message job) : post.Repeats post' := by
  obtain ⟨subject, time, sending⟩ := post
  obtain ⟨subject', time', sending'⟩ := post'
  cases subject with
  | job =>
      cases subject' with
      | job => exact absurd rfl apart
      | accepted position' file' => cases (Message.mk.inj same).1
      | failed position' file' reason' => cases (Message.mk.inj same).1
  | accepted position file =>
      cases subject' with
      | job => cases (Message.mk.inj same).1
      | accepted position' file' =>
          obtain ⟨sameFile, _, sameTime, _⟩ :=
            RequestedFile.eq_of_ofFile_eq valid valid' same
          exact ⟨sameTime, fun place => apart (congrArg some place), sameFile⟩
      | failed position' file' reason' =>
          obtain ⟨_, sameStatus, _, _⟩ := RequestedFile.eq_of_ofFile_eq valid valid' same
          cases sameStatus
  | failed position file reason =>
      cases subject' with
      | job => cases (Message.mk.inj same).1
      | accepted position' file' =>
          obtain ⟨_, sameStatus, _, _⟩ := RequestedFile.eq_of_ofFile_eq valid valid' same
          cases sameStatus
      | failed position' file' reason' =>
          obtain ⟨sameFile, _, sameTime, sameReason⟩ :=
            RequestedFile.eq_of_ofFile_eq valid valid' same
          refine ⟨sameTime, fun place => apart (congrArg some place), sameFile, ?_⟩
          simpa [Option.filter, fits.2, fits'.2] using sameReason

end

/-! ## A whole run -/

theorem CourseRuns.posts_apart {plan : RestorePlan} {granule : Granule} {course : Course}
    (run : CourseRuns plan granule course) :
    (course.posts granule).Pairwise fun post post' =>
      post.subject.position? ≠ post'.subject.position? := by
  have once := run.publications_once
  rw [course.publications_eq, List.map_map] at once
  exact List.pairwise_map.mp once

theorem Posts.repeats {services : Services} (valid : services.HasValidClock)
    {delivery : DeliveryBudget} {job : Job} {granule : Granule} {past trace : Trace}
    {posts : List Post} (run : Posts services delivery job granule past trace posts)
    (apart : posts.Pairwise fun post post' =>
      post.subject.position? ≠ post'.subject.position?) :
    posts.Pairwise fun post post' =>
      (post.message job).deduplicationId = (post'.message job).deduplicationId →
        post.Repeats post' := by
  refine apart.imp_of_mem fun made made' different sameId => ?_
  obtain ⟨fits, before, built⟩ := run.mem made
  obtain ⟨fits', before', built'⟩ := run.mem made'
  exact Post.repeats_of_message_eq fits fits' (built ▸ valid before) (built' ▸ valid before')
    different (Message.deduplicationId_inj sameId)

/-- In every run the attempts of one message are all that message, built when it was first sent,
and two messages with the same id are repeats. -/
theorem requestRestores_shares_ids_of_repeats (services : Services)
    (valid : services.HasValidClock) (delivery : DeliveryBudget) (plan : RestorePlan)
    (jobId : String) (granule : Granule) (past : Trace) :
    ∃ posts,
      SharesIdsOfRepeats services delivery
        ⟨jobId, granule.id, services.clock past, plan.bucket⟩ granule past
        (requestRestores services delivery plan jobId granule past).2 posts := by
  have posted := Course.ofServices_posts services delivery plan granule jobId past
  have run := Course.ofServices_runs services delivery plan jobId granule past
  rw [requestRestores_eq]
  refine ⟨_, posted, ?_, ?_, posted.repeats valid run.posts_apart⟩
  · simpa only [Post.events, Sending.sends_events] using posted.sends_eq
  · intro post _ attempt made
    rw [Post.events, Sending.sends_events] at made
    exact Sending.mem_attempts _ _ made

/-! The same file asked for twice, in a run whose clock stands still. -/

def stoppedClock : Services where
  probe _ _ _ := .present
  restore _ _ := .accepted
  send past _ := if past.sends.length = 1 then .refused ["full"] else .accepted
  clock _ := ⟨86399, 1500000000⟩

def fileTwice : Granule where
  id := "granule"
  requested := []
  results := [.pending ⟨"a", "target"⟩, .pending ⟨"a", "target"⟩]
  extra := []

theorem stoppedClock_hasValidClock : stoppedClock.HasValidClock := by
  intro past
  change Time.Instant.IsValid ⟨86399, 1500000000⟩
  decide

theorem stoppedClock_shares_ids_of_repeats :
    ∃ posts,
      SharesIdsOfRepeats stoppedClock (.of 2 .zero)
        ⟨"job", "granule", ⟨86399, 1500000000⟩, "archive"⟩ fileTwice []
        (requestRestores stoppedClock (.of 2 .zero) ⟨"archive", 5, .standard, ⟨1, .zero⟩⟩ "job"
          fileTwice []).2 posts :=
  requestRestores_shares_ids_of_repeats stoppedClock stoppedClock_hasValidClock (.of 2 .zero)
    ⟨"archive", 5, .standard, ⟨1, .zero⟩⟩ "job" fileTwice []

end GranuleRecall
