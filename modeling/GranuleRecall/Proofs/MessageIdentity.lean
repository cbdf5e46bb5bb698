import GranuleRecall.Proofs.WrittenForm.Instants
import GranuleRecall.Proofs.WrittenForm.Records
import GranuleRecall.Status.Message

/-! # A deduplication id identifies its event

The names of tables and methods are told apart by their first characters that differ, so an id
tells the table, the method and the body, although nothing stands between them. A body tells every
member of its event, and every valid time in it to the nanosecond. -/

set_option autoImplicit false

namespace GranuleRecall

/-! ## Ids -/

namespace Message

theorem idOf_inj {table table' : Table} {method method' : Method} {body body' : String}
    (same : idOf table method body = idOf table' method' body') :
    table = table' ∧ method = method' ∧ body = body' := by
  have sameCharacters := congrArg String.toList same
  simp only [idOf, String.toList_append, List.append_assoc] at sameCharacters
  have sameTable : table = table' := by
    cases table <;> cases table' <;> simp_all [Table.name]
  subst sameTable
  have sameRest := List.append_cancel_left sameCharacters
  have sameMethod : method = method' := by
    cases method <;> cases method' <;> simp_all [Method.name]
  subst sameMethod
  exact ⟨rfl, rfl, String.toList_inj.mp (List.append_cancel_left sameRest)⟩

theorem deduplicationId_inj {message message' : Message}
    (same : message.deduplicationId = message'.deduplicationId) : message = message' := by
  obtain ⟨table, method, body⟩ := message
  obtain ⟨table', method', body'⟩ := message'
  obtain ⟨rfl, rfl, rfl⟩ := idOf_inj same
  rfl

end Message

/-! ## Members of events -/

theorem StatusCode.toJson_inj {status status' : StatusCode}
    (same : status.toJson = status'.toJson) : status = status' := by
  have sameCode : (status.code : Int) = status'.code :=
    Json.Number.integer.inj (Json.number.inj same)
  exact StatusCode.code_injective (Int.ofNat_inj.mp sameCode)

theorem timeJson_inj {time time' : Time.Instant} (valid : time.IsValid) (valid' : time'.IsValid)
    (same : timeJson time = timeJson time') : time = time' :=
  Time.Instant.render_inj valid valid' (Json.text.inj same)

theorem optionalMember_plain {name : String} {value? : Option Json}
    (plain : ∀ value ∈ value?, value.IsPlain) :
    ∀ member ∈ optionalMember name value?, member.2.IsPlain := by
  intro member listed
  cases value? with
  | none => cases listed
  | some value =>
      rw [List.mem_singleton.mp listed]
      exact plain value rfl

theorem optionalMember_inj {name : String} {value? value?' : Option Json}
    (same : optionalMember name value? = optionalMember name value?') : value? = value?' := by
  cases value? with
  | none =>
      cases value?' with
      | none => rfl
      | some value' => cases same
  | some value =>
      cases value?' with
      | none => cases same
      | some value' => exact congrArg some (Prod.mk.inj (List.cons.inj same).1).2

/-- A member that may be left out is not confused with the one that follows it. -/
theorem optionalMember_append_inj {name next : String} (different : name ≠ next)
    {value? value?' : Option Json} {value value' : Json} {later later' : List (String × Json)}
    (same : optionalMember name value? ++ (next, value) :: later =
      optionalMember name value?' ++ (next, value') :: later') :
    value? = value?' ∧ value = value' ∧ later = later' := by
  cases value? with
  | none =>
      cases value?' with
      | none =>
          obtain ⟨sameMember, sameLater⟩ := List.cons.inj same
          exact ⟨rfl, (Prod.mk.inj sameMember).2, sameLater⟩
      | some given' =>
          exact absurd (Prod.mk.inj (List.cons.inj same).1).1.symm different
  | some given =>
      cases value?' with
      | none => exact absurd (Prod.mk.inj (List.cons.inj same).1).1 different
      | some given' =>
          obtain ⟨sameGiven, sameRest⟩ := List.cons.inj same
          obtain ⟨sameMember, sameLater⟩ := List.cons.inj sameRest
          exact ⟨congrArg some (Prod.mk.inj sameGiven).2, (Prod.mk.inj sameMember).2, sameLater⟩

theorem map_timeJson_plain (time? : Option Time.Instant) :
    ∀ value ∈ time?.map timeJson, value.IsPlain := by
  intro value made
  obtain ⟨time, _, rfl⟩ := Option.map_eq_some_iff.mp made
  exact .text time.render

theorem map_timeJson_inj {time? time?' : Option Time.Instant}
    (valid : ∀ time ∈ time?, time.IsValid) (valid' : ∀ time ∈ time?', time.IsValid)
    (same : time?.map timeJson = time?'.map timeJson) : time? = time?' := by
  cases time? with
  | none =>
      cases time?' with
      | none => rfl
      | some time' => cases same
  | some time =>
      cases time?' with
      | none => cases same
      | some time' =>
          exact congrArg some
            (timeJson_inj (valid time rfl) (valid' time' rfl) (Option.some.inj same))

/-! ## Events of jobs -/

namespace JobEvent

/-- All times of an event are valid. -/
structure IsTimed (event : JobEvent) : Prop where
  requestTime : event.requestTime.IsValid
  completionTime : ∀ time ∈ event.completionTime, time.IsValid

theorem members_plain (event : JobEvent) :
    ∀ member ∈ event.toJson.members, member.2.IsPlain := by
  rw [toJson, Json.members]
  refine List.forall_mem_append.mpr ⟨List.forall_mem_append.mpr
    ⟨?_, optionalMember_plain (map_timeJson_plain _)⟩, ?_⟩
  · simp only [List.forall_mem_cons]
    exact ⟨.text _, .text _, .integer _, .text _, by simp⟩
  · exact List.forall_mem_singleton.mpr (.text _)

theorem eq_of_ofJob_eq {event event' : JobEvent} (timed : event.IsTimed)
    (timed' : event'.IsTimed) (same : Message.ofJob event = Message.ofJob event') :
    event = event' := by
  have sameMembers := Json.render_object_inj event.members_plain event'.members_plain
    (Message.mk.inj same).2.2
  simp only [toJson, Json.members, List.cons_append, List.nil_append, List.cons.injEq,
    Prod.mk.injEq, true_and, Json.text.injEq] at sameMembers
  obtain ⟨sameId, sameGranule, sameStatus, sameRequest, sameRest⟩ := sameMembers
  obtain ⟨sameCompletion, sameBucket, _⟩ := optionalMember_append_inj (by decide) sameRest
  cases event
  cases event'
  cases sameId
  cases sameGranule
  cases StatusCode.toJson_inj sameStatus
  cases timeJson_inj timed.requestTime timed'.requestTime sameRequest
  cases map_timeJson_inj timed.completionTime timed'.completionTime sameCompletion
  cases sameBucket
  rfl

end JobEvent

/-! ## Events of files -/

namespace FileEvent

/-- All times of an event are valid. -/
structure IsTimed (event : FileEvent) : Prop where
  requestTime : event.requestTime.IsValid
  lastUpdate : event.lastUpdate.IsValid
  completionTime : ∀ time ∈ event.completionTime, time.IsValid

/-- Two events of which every member is written the same. -/
structure WrittenAlike (event event' : FileEvent) : Prop where
  jobId : event.jobId = event'.jobId
  granuleId : event.granuleId = event'.granuleId
  filename : event.filename = event'.filename
  key : event.key = event'.key
  destination : event.destination = event'.destination
  status : event.status = event'.status
  errorMessage : event.errorMessage = event'.errorMessage
  requestTime : timeJson event.requestTime = timeJson event'.requestTime
  lastUpdate : timeJson event.lastUpdate = timeJson event'.lastUpdate
  completionTime : event.completionTime.map timeJson = event'.completionTime.map timeJson

variable {event event' : FileEvent}

theorem members_plain (event : FileEvent) :
    ∀ member ∈ event.toJson.members, member.2.IsPlain := by
  rw [toJson, Json.members]
  refine List.forall_mem_append.mpr ⟨List.forall_mem_append.mpr
    ⟨List.forall_mem_append.mpr ⟨?_, optionalMember_plain ?_⟩, ?_⟩,
    optionalMember_plain (map_timeJson_plain _)⟩
  · simp only [List.forall_mem_cons]
    exact ⟨.text _, .text _, .text _, .text _, .text _, .integer _, by simp⟩
  · intro value made
    obtain ⟨message, _, rfl⟩ := Option.map_eq_some_iff.mp made
    exact .text message
  · simp only [List.forall_mem_cons]
    exact ⟨.text _, .text _, by simp⟩

theorem writtenAlike_of_ofFile_eq (same : Message.ofFile event = Message.ofFile event') :
    event.WrittenAlike event' := by
  have sameMembers := Json.render_object_inj event.members_plain event'.members_plain
    (Message.mk.inj same).2.2
  simp only [toJson, Json.members, List.cons_append, List.nil_append, List.cons.injEq,
    Prod.mk.injEq, true_and, List.append_assoc, Json.text.injEq] at sameMembers
  obtain ⟨sameId, sameGranule, sameName, sameKey, sameDestination, sameStatus, sameRest⟩ :=
    sameMembers
  obtain ⟨sameMessage, sameRequest, sameLater⟩ := optionalMember_append_inj (by decide) sameRest
  obtain ⟨sameUpdate, sameCompletion⟩ := List.cons.inj sameLater
  exact {
    jobId := sameId
    granuleId := sameGranule
    filename := sameName
    key := sameKey
    destination := sameDestination
    status := StatusCode.toJson_inj sameStatus
    errorMessage := Option.map_injective (fun _ _ => Json.text.inj) sameMessage
    requestTime := sameRequest
    lastUpdate := (Prod.mk.inj sameUpdate).2
    completionTime := optionalMember_inj sameCompletion }

theorem eq_of_ofFile_eq (timed : event.IsTimed) (timed' : event'.IsTimed)
    (same : Message.ofFile event = Message.ofFile event') : event = event' := by
  obtain ⟨sameId, sameGranule, sameName, sameKey, sameDestination, sameStatus, sameMessage,
    sameRequest, sameUpdate, sameCompletion⟩ := writtenAlike_of_ofFile_eq same
  cases event
  cases event'
  cases sameId
  cases sameGranule
  cases sameName
  cases sameKey
  cases sameDestination
  cases sameStatus
  cases sameMessage
  cases timeJson_inj timed.requestTime timed'.requestTime sameRequest
  cases timeJson_inj timed.lastUpdate timed'.lastUpdate sameUpdate
  cases map_timeJson_inj timed.completionTime timed'.completionTime sameCompletion
  rfl

theorem withStatus_isTimed {job : Job} {now : Time.Instant} (requested : job.requestTime.IsValid)
    (timed : now.IsValid) (file : FileResult) (status : StatusCode)
    (errorMessage : Option String) :
    (withStatus job file status errorMessage now).IsTimed := by
  refine ⟨requested, timed, ?_⟩
  intro time completed
  simp only [withStatus] at completed
  split at completed
  · cases completed
    exact timed
  · cases completed

theorem create_isTimed {job : Job} {file : FileResult} {status : StatusCode}
    {errorMessage : Option String} {now : Time.Instant}
    (requested : job.requestTime.IsValid) (timed : now.IsValid)
    (made : create job file status errorMessage now = .ok event) : event.IsTimed := by
  simp only [create] at made
  split at made
  · cases made
  · cases made
    exact withStatus_isTimed requested timed file status errorMessage

end FileEvent

/-! ## All events -/

inductive StatusEvent
  | job (event : JobEvent)
  | file (event : FileEvent)
deriving DecidableEq, Repr

namespace StatusEvent

def message : StatusEvent → Message
  | job event => .ofJob event
  | file event => .ofFile event

def IsTimed : StatusEvent → Prop
  | job event => event.IsTimed
  | file event => event.IsTimed

theorem message_inj {event event' : StatusEvent} (timed : event.IsTimed)
    (timed' : event'.IsTimed) (same : event.message = event'.message) : event = event' := by
  cases event with
  | job event =>
      cases event' with
      | job event' => exact congrArg job (JobEvent.eq_of_ofJob_eq timed timed' same)
      | file event' => cases (Message.mk.inj same).1
  | file event =>
      cases event' with
      | job event' => cases (Message.mk.inj same).1
      | file event' => exact congrArg file (FileEvent.eq_of_ofFile_eq timed timed' same)

/-- The events that are made: jobs that are started, and files with any status. -/
inductive Made : StatusEvent → Prop
  | started {request : Job} : request.requestTime.IsValid → Made (job (.started request))
  | created {request : Job} {result : FileResult} {status : StatusCode}
      {errorMessage : Option String} {now : Time.Instant} {event : FileEvent} :
      request.requestTime.IsValid → now.IsValid →
      FileEvent.create request result status errorMessage now = .ok event → Made (file event)
  | pending {request : Job} {result : FileResult} {now : Time.Instant} :
      request.requestTime.IsValid → now.IsValid →
      Made (file (.pending request result now))
  | failed {request : Job} {result : FileResult} {errorMessage : String} {now : Time.Instant}
      {event : FileEvent} :
      request.requestTime.IsValid → now.IsValid →
      FileEvent.failed request result errorMessage now = .ok event → Made (file event)

theorem Made.isTimed {event : StatusEvent} (made : event.Made) : event.IsTimed := by
  cases made with
  | started requested =>
      refine ⟨requested, ?_⟩
      intro time completed
      cases completed
  | created requested timed created => exact FileEvent.create_isTimed requested timed created
  | pending requested timed =>
      exact FileEvent.withStatus_isTimed requested timed _ .pending none
  | failed requested timed failed => exact FileEvent.create_isTimed requested timed failed

end StatusEvent

/-- Two events have the same id only when they are the same event. An id tells its table, its
method and its body, whatever the body is. -/
theorem deduplicationId_identifies_event :
    (∀ event event' : StatusEvent, event.Made → event'.Made →
      (event.message.deduplicationId = event'.message.deduplicationId ↔ event = event')) ∧
    ∀ (table table' : Table) (method method' : Method) (body body' : String),
      Message.idOf table method body = Message.idOf table' method' body' ↔
        table = table' ∧ method = method' ∧ body = body' := by
  constructor
  · intro event event' made made'
    constructor
    · intro same
      exact StatusEvent.message_inj made.isTimed made'.isTimed
        (Message.deduplicationId_inj same)
    · rintro rfl
      rfl
  · intro table table' method method' body body'
    constructor
    · exact Message.idOf_inj
    · rintro ⟨rfl, rfl, rfl⟩
      rfl

/-! A leap second, and the second after it. -/

def lateJob : Job := ⟨"job", "granule", ⟨86399, 1000000000⟩, "archive"⟩

def lateEvent (now : Time.Instant) : StatusEvent :=
  .file (.pending lateJob (.pending ⟨"a", "target"⟩) now)

theorem leapSecond_has_own_id :
    (lateEvent ⟨86399, 1500000000⟩).message.deduplicationId ≠
      (lateEvent ⟨86400, 500000000⟩).message.deduplicationId := by
  intro same
  have equal := (deduplicationId_identifies_event.1 (lateEvent ⟨86399, 1500000000⟩)
    (lateEvent ⟨86400, 500000000⟩) (.pending (by decide) (by decide))
    (.pending (by decide) (by decide))).mp same
  exact absurd equal (by decide)

end GranuleRecall
