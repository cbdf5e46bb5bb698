import Mathlib.Data.List.TakeWhile
import GranuleRecall.Proofs.Documents.Reread
import GranuleRecall.Status.Message
import GranuleRecall.Granule.Basic

/-! # What the body of a message about a file says

The body is an object whose members are texts and one number. However a text is read that the body
is written as, it shows these members, each once and in their order. -/

set_option autoImplicit false

namespace GranuleRecall

namespace Json

/-! ## Objects without objects inside -/

/-- Data without arrays and objects inside, in which a number is an integer. -/
structure IsFlat (data : Json) : Prop where
  readable : Readable 0 data
  whole : data.HasWholeNumbers

theorem isFlat_text (content : String) : (Json.text content).IsFlat :=
  ⟨.text, .text⟩

theorem isFlat_natural {value : Nat} (exact : IsExact value) : (Json.natural value).IsFlat :=
  ⟨.integer exact, .integer⟩

/-- A document is an object of some members: it has their names and their data, in their order. -/
def Document.IsObjectOf (document : Document) (given : List (String × Json)) : Prop :=
  ∃ members, document = .object members ∧
    members.map (fun member => (member.1, member.2.data? 0)) =
      given.map fun member => (some member.1, some member.2)

/-- A text that some members are written as shows these members. -/
theorem isObjectOf_of_isWrittenAs {given : List (String × Json)}
    (flat : ∀ member ∈ given, member.2.IsFlat) {document : Document}
    (written : document.IsWrittenAs (Json.object given).render) : document.IsObjectOf given := by
  have whole : (Json.object given).HasWholeNumbers := .object fun member listed =>
    (flat member listed).whole
  obtain ⟨members, same, alike⟩ := (written.alike (isWrittenAs_render whole.hasLiterals)).object
  refine ⟨members, same, ?_⟩
  clear same written whole
  rw [memberDocuments_eq_map] at alike
  induction given generalizing members with
  | nil =>
      cases alike
      rfl
  | cons member given ih =>
      cases alike with
      | cons first others =>
          obtain ⟨readable, whole⟩ := flat member List.mem_cons_self
          rw [List.map_cons, List.map_cons, first.1, first.2.data? 0, readable.data?_document whole,
            ih (fun other listed => flat other (List.mem_cons_of_mem _ listed)) _ others]

end Json

/-! ## The last segment of a key -/

theorem slash_not_mem_lastSegment (key : String) : '/' ∉ (lastSegment key).toList := by
  intro among
  rw [lastSegment, String.toList_ofList, List.mem_reverse] at among
  simpa using List.mem_takeWhile_imp among

/-- A key is its last segment, or that follows on a slash. -/
theorem lastSegment_cases (key : String) :
    key = lastSegment key ∨ ∃ directory, key = directory ++ "/" ++ lastSegment key := by
  have split := List.takeWhile_append_dropWhile (p := (· != '/')) (l := key.toList.reverse)
  cases rest : key.toList.reverse.dropWhile (· != '/') with
  | nil =>
      rw [rest, List.append_nil] at split
      refine .inl ?_
      rw [lastSegment, split, List.reverse_reverse, String.ofList_toList]
  | cons slash directory =>
      have isSlash : slash = '/' := by
        have stopped := List.head_dropWhile_not (· != '/') (l := key.toList.reverse)
          (by simp [rest])
        simpa [rest] using stopped
      refine .inr ⟨String.ofList directory.reverse, ?_⟩
      rw [rest, isSlash] at split
      refine String.toList_inj.mp ?_
      rw [← List.reverse_inj, ← split]
      simp [lastSegment]

/-! ## Bodies -/

/-- What the body of a message about a file says. -/
structure FileBody where
  jobId : String
  granuleId : String
  filename : String
  key : String
  destination : String
  status : Nat
  error? : Option String
  requestTime : String
  lastUpdate : String
  completion? : Option String
deriving DecidableEq, Repr

namespace FileBody

def members (body : FileBody) : List (String × Json) :=
  [("job_id", .text body.jobId), ("granule_id", .text body.granuleId),
      ("filename", .text body.filename), ("key_path", .text body.key),
      ("restore_destination", .text body.destination), ("status_id", .natural body.status)] ++
    optionalMember "error_message" (body.error?.map .text) ++
    [("request_time", .text body.requestTime), ("last_update", .text body.lastUpdate)] ++
    optionalMember "completion_time" (body.completion?.map .text)

theorem names_nodup (body : FileBody) : (body.members.map Prod.fst).Nodup := by
  unfold members
  cases body.error? with
  | none =>
      cases body.completion? with
      | none => simp [optionalMember]
      | some time => simp [optionalMember]
  | some reason =>
      cases body.completion? with
      | none => simp [optionalMember]
      | some time => simp [optionalMember]

theorem members_isFlat {body : FileBody} (exact : Json.IsExact body.status) :
    ∀ member ∈ body.members, member.2.IsFlat := by
  have optional (name : String) (text? : Option String) :
      ∀ member ∈ optionalMember name (text?.map .text), member.2.IsFlat := by
    cases text? with
    | none => simp [optionalMember]
    | some text => simp [optionalMember, Json.isFlat_text]
  simp only [members, List.forall_mem_append, List.forall_mem_cons, Json.isFlat_text,
    Json.isFlat_natural exact, true_and]
  exact ⟨⟨⟨nofun, optional _ _⟩, nofun⟩, optional _ _⟩

end FileBody

/-- The body of the message that tells an event. -/
def FileEvent.body (event : FileEvent) : FileBody where
  jobId := event.jobId
  granuleId := event.granuleId
  filename := event.filename
  key := event.key
  destination := event.destination
  status := event.status.code
  error? := event.errorMessage
  requestTime := event.requestTime.render
  lastUpdate := event.lastUpdate.render
  completion? := event.completionTime.map Time.Instant.render

theorem FileEvent.toJson_eq (event : FileEvent) : event.toJson = .object event.body.members := by
  unfold toJson FileBody.members body
  cases event.completionTime with
  | none => rfl
  | some time => rfl

theorem StatusCode.isExact_code (status : StatusCode) : Json.IsExact status.code := by
  cases status <;> decide

/-- A text that an event is written as shows the members of its body. -/
theorem FileEvent.isObjectOf {event : FileEvent} {document : Json.Document}
    (written : document.IsWrittenAs (Message.ofFile event).body) :
    document.IsObjectOf event.body.members := by
  have body : (Message.ofFile event).body = (Json.object event.body.members).render :=
    congrArg Json.render event.toJson_eq
  rw [body] at written
  exact Json.isObjectOf_of_isWrittenAs (FileBody.members_isFlat event.status.isExact_code) written

theorem FileEvent.exists_isWrittenAs (event : FileEvent) :
    ∃ document : Json.Document, document.IsWrittenAs (Message.ofFile event).body := by
  have whole : (Json.object event.body.members).HasWholeNumbers := .object fun member listed =>
    (FileBody.members_isFlat event.status.isExact_code member listed).whole
  rw [← event.toJson_eq] at whole
  exact ⟨_, Json.isWrittenAs_render whole.hasLiterals⟩

end GranuleRecall
