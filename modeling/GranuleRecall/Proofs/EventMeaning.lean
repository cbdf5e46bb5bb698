import Mathlib.Logic.Relation
import GranuleRecall.Proofs.Documents.EventEdits
import GranuleRecall.Proofs.Documents.Reports
import GranuleRecall.Proofs.Documents.Strictness

/-! # Only the meaning of an event counts

The request that an event is read as depends on what its document says. Members may stand in any
order, those that have no meaning may be there or not, the bucket may go by either of its names,
and what is missing may be written out. Only both names of the bucket at once are too many. -/

set_option autoImplicit false

namespace GranuleRecall

open Json

namespace Request

/-- One step from a document of an event to another one that says the same. -/
def Restates (document restated : Document) : Prop :=
  document.Reordered restated ∨ Edited document restated ∨ Edited restated document

theorem Restates.reader {document restated : Document} (restates : Restates document restated)
    {request : Request} (read : reader DistinctMembers nestingBound document request) :
    reader DistinctMembers nestingBound restated request := by
  have room : 6 ≤ nestingBound := by decide
  rcases restates with reordered | edited | edited
  · exact (reader_reordered (Nat.zero_le _) reordered request).mp read
  · exact (reader_edited DistinctMembers room edited request).mp read
  · exact (reader_edited DistinctMembers room edited request).mpr read

theorem reader_of_restates {document restated : Document}
    (restates : Relation.ReflTransGen Restates document restated) {request : Request}
    (read : reader DistinctMembers nestingBound document request) :
    reader DistinctMembers nestingBound restated request := by
  induction restates with
  | refl => exact read
  | tail _ step ih => exact step.reader ih

/-! ## Both names of the bucket -/

/-- The document is an object with the bucket under both of its names. -/
def NamesBucketTwice (configuration : Document) : Prop :=
  ∃ members bucket other, configuration = .object members ∧
    (some "glacier-bucket", bucket) ∈ members ∧ (some "cold_storage_bucket", other) ∈ members

/-- The configuration of an event, which may be an object or an array of its fields. -/
inductive HasConfiguration : Document → Document → Prop
  | member {members : List (Option String × Document)} {configuration : Document} :
      (some "config", configuration) ∈ members → HasConfiguration (.object members) configuration
  | element {configuration : Document} {later : List Document} :
      HasConfiguration (.array (configuration :: later)) configuration

theorem not_bucketReader_of_namesBucketTwice {configuration : Document}
    (twice : NamesBucketTwice configuration) (levels : Nat) (bucket : Option String) :
    ¬ bucketReader levels configuration bucket := by
  obtain ⟨members, value, other, rfl, named, namedOther⟩ := twice
  intro read
  obtain ⟨inner, _, rfl, same, _, _, filled, _, fits, _⟩ :=
    Record.objectReader_cases (Record.eitherReader_object.mp read)
  cases same
  have goes : bucketRecord.slotOf? (some "glacier-bucket") = some BucketSlot.bucket := by
    simp [Record.slotOf?, bucketRecord]
  have goesToo : bucketRecord.slotOf? (some "cold_storage_bucket") = some BucketSlot.bucket := by
    simp [Record.slotOf?, bucketRecord]
  have one := Record.SlotRead.eq_of_mem (fits .bucket) named namedOther goes goesToo
  have names : some "glacier-bucket" = some "cold_storage_bucket" := congrArg Prod.fst one
  exact absurd names (by decide)

theorem HasConfiguration.gives {document configuration : Document}
    (configured : HasConfiguration document configuration) :
    record.Gives .configuration document configuration := by
  cases configured with
  | member among => exact .member among rfl
  | element => exact .element rfl

theorem not_reader_of_namesBucketTwice {document configuration : Document}
    (configured : HasConfiguration document configuration)
    (twice : NamesBucketTwice configuration) (levels : Nat) (request : Request) :
    ¬ reader .none levels document request := by
  intro read
  obtain ⟨inner, _, _, _, _, given⟩ := Record.eitherReader_cases read
  obtain ⟨bucket, _, reads⟩ := given .configuration configuration configured.gives
  exact not_bucketReader_of_namesBucketTwice twice inner bucket reads

/-! ## What events are read as -/

/-- An event that is read as a request is read as the same request when it is restated, and an
event whose configuration has the bucket twice is not read at all. -/
theorem parse_of_restated :
    (∀ {document restated : Document} {text text' : String} {request : Request},
      document.HasDistinctNames → document.IsWrittenAs text → parse text = .ok request →
      Relation.ReflTransGen Restates document restated → restated.IsWrittenAs text' →
      parse text' = .ok request) ∧
    ∀ {document configuration : Document} {text : String},
      HasConfiguration document configuration → NamesBucketTwice configuration →
      document.IsWrittenAs text → ∀ request, parse text ≠ .ok request := by
  constructor
  · intro document restated text text' request distinct written read restates written'
    have meant := reader_distinct distinct ((parse_iff written).mp read)
    have meant' := reader_of_restates restates meant
    exact (parse_iff written').mpr (reader_of_sound DistinctMembers trivial meant')
  · intro document configuration text configured twice written request read
    exact not_reader_of_namesBucketTwice configured twice nestingBound request
      ((parse_iff written).mp read)

/-! An event in two forms, and one that names its bucket twice. -/

def plainEvent : Json :=
  sizedReport.event "archive"

def restatedEvent : Json :=
  .object [("input", sizedReport.toJson), ("note", .null),
    ("config", .object [("cold_storage_bucket", .text "archive")])]

def twiceNamedEvent : Json :=
  .object [("config", .object [("glacier-bucket", .text "archive"),
    ("cold_storage_bucket", .text "archive")]), ("input", sizedReport.toJson)]

theorem plainEvent_hasDistinctNames : plainEvent.document.HasDistinctNames := by
  have file : (RequestedFile.toJson ⟨"a", "target"⟩).document.HasDistinctNames := by
    refine .object (by decide) ?_
    exact List.forall_mem_cons.mpr ⟨.text, List.forall_mem_singleton.mpr .text⟩
  have sizes : (Json.array [.number (.integer 5), .text "large"]).document.HasDistinctNames := by
    refine .array ?_
    exact List.forall_mem_cons.mpr ⟨.number, List.forall_mem_singleton.mpr .text⟩
  have granule : sizedGranule.toJson.document.HasDistinctNames := by
    refine .object (by decide) ?_
    exact List.forall_mem_cons.mpr ⟨.text, List.forall_mem_cons.mpr
      ⟨.array (List.forall_mem_singleton.mpr file), List.forall_mem_cons.mpr
        ⟨.array (List.forall_mem_nil _), List.forall_mem_singleton.mpr sizes⟩⟩⟩
  have input : sizedReport.toJson.document.HasDistinctNames := by
    refine .object (by decide) ?_
    exact List.forall_mem_cons.mpr
      ⟨.array (List.forall_mem_singleton.mpr granule), List.forall_mem_singleton.mpr .text⟩
  refine .object (by decide) (List.forall_mem_cons.mpr ⟨?_, List.forall_mem_singleton.mpr input⟩)
  exact .object (by decide) (List.forall_mem_singleton.mpr .text)

theorem plainEvent_restates :
    Relation.ReflTransGen Restates plainEvent.document restatedEvent.document := by
  let input : Option String × Document := (some "input", sizedReport.toJson.document)
  let configured (name : String) : Option String × Document :=
    (some "config", .object [(some name, .text (some "archive"))])
  have reordered : Restates (.object [configured "glacier-bucket", input])
      (.object [input, configured "glacier-bucket"]) :=
    .inl (.members (.swap _ _ _))
  have noted : Restates (.object [input, configured "glacier-bucket"])
      (.object [input, (some "note", .null), configured "glacier-bucket"]) :=
    .inr (.inl (@Record.Edited.passedOver _ _ _ _ [input] [configured "glacier-bucket"] "note" .null
      rfl rfl))
  have renamed : EditedInside .configuration
      (.object [(some "glacier-bucket", .text (some "archive"))])
      (.object [(some "cold_storage_bucket", .text (some "archive"))]) :=
    @Record.Edited.renamed _ _ _ _ [] [] "glacier-bucket" "cold_storage_bucket" BucketSlot.bucket _
      rfl rfl
  have inside : Restates
      (.object [input, (some "note", .null), configured "glacier-bucket"])
      (.object [input, (some "note", .null), configured "cold_storage_bucket"]) :=
    .inr (.inl (@Record.Edited.inside record _ _ _ [input, (some "note", .null)] []
      (some "config") Slot.configuration _ _ rfl renamed))
  exact ((Relation.ReflTransGen.single reordered).tail noted).tail inside

theorem restatedEvent_parses :
    parse restatedEvent.render = .ok ⟨some "archive", [sizedGranule], some "job"⟩ ∧
      ∀ request, parse twiceNamedEvent.render ≠ .ok request := by
  have whole := sizedGranule_hasWholeNumbers
  constructor
  · have read : parse plainEvent.render = .ok ⟨some "archive", [sizedGranule], some "job"⟩ :=
      Report.parse_event (sizedGranule_isReadable (by decide)) whole "archive"
    have literals : restatedEvent.HasLiterals :=
      ⟨Report.hasLiterals whole, trivial, ⟨trivial, trivial⟩, trivial⟩
    exact parse_of_restated.1 plainEvent_hasDistinctNames
      (isWrittenAs_render (Report.event_hasLiterals whole "archive")) read plainEvent_restates
      (isWrittenAs_render literals)
  · have literals : twiceNamedEvent.HasLiterals :=
      ⟨⟨trivial, trivial, trivial⟩, Report.hasLiterals whole, trivial⟩
    have twice : NamesBucketTwice (.object [(some "glacier-bucket", .text (some "archive")),
        (some "cold_storage_bucket", .text (some "archive"))]) :=
      ⟨_, _, _, rfl, List.mem_cons_self, List.mem_cons_of_mem _ List.mem_cons_self⟩
    exact parse_of_restated.2 (.member List.mem_cons_self) twice (isWrittenAs_render literals)

end Request

end GranuleRecall
