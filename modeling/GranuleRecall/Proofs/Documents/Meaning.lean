import Mathlib.Algebra.Field.Rat
import GranuleRecall.Proofs.Documents.Reread

/-! # What a document says

Documents as data, apart from how they are written: a number is its exact value, and an object maps
each name to what its last member says. Data without numbers but integers say what the document
says that they were read from. -/

set_option autoImplicit false

namespace GranuleRecall.Json

open Decimal

inductive Meaning
  | null
  | bool (value : Bool)
  | number (value : ℚ)
  | text (content : Option String)
  | array (elements : List Meaning)
  | object (value : String → Option Meaning)

def NumberLiteral.exponentValue (literal : NumberLiteral) : Int :=
  match literal.exponent with
  | none => 0
  | some (negative, values) =>
    if negative then -ofDigitValues values else ofDigitValues values

/-- The number that a literal says, with nothing rounded. -/
def NumberLiteral.exactValue (literal : NumberLiteral) : ℚ :=
  let places := literal.fraction.getD []
  let magnitude : ℚ := ofDigitValues (literal.whole ++ places) *
    10 ^ (literal.exponentValue - places.length)
  if literal.negative then -magnitude else magnitude

mutual

def Document.meaning : Document → Meaning
  | .null => .null
  | .bool value => .bool value
  | .number literal => .number literal.exactValue
  | .text content => .text content
  | .array elements => .array (elementMeanings elements)
  | .object members => .object (memberMeaning members)

def elementMeanings : List Document → List Meaning
  | [] => []
  | element :: remaining => element.meaning :: elementMeanings remaining

def memberMeaning : List (Option String × Document) → String → Option Meaning
  | [], _ => none
  | (said, value) :: remaining, name =>
    (memberMeaning remaining name).or (if said = some name then some value.meaning else none)

end

/-- The values of the members of a name, in their order. -/
def valuesOf (name : String) (members : List (Option String × Document)) : List Document :=
  (members.filter fun member => member.1 = some name).map Prod.snd

section

variable {name : String} {said : Option String} {value : Document}
  {members : List (Option String × Document)}

theorem valuesOf_cons_self :
    valuesOf name ((some name, value) :: members) = value :: valuesOf name members := by
  simp [valuesOf]

theorem valuesOf_cons_of_ne (different : said ≠ some name) :
    valuesOf name ((said, value) :: members) = valuesOf name members := by
  simp [valuesOf, different]

theorem memberMeaning_eq (members : List (Option String × Document)) (name : String) :
    memberMeaning members name = (valuesOf name members).getLast?.map Document.meaning := by
  induction members with
  | nil => rfl
  | cons member remaining ih =>
      obtain ⟨said, value⟩ := member
      rw [memberMeaning, ih]
      by_cases same : said = some name
      · subst same
        rw [valuesOf_cons_self, List.getLast?_cons, if_pos rfl]
        cases (valuesOf name remaining).getLast? with
        | none => rfl
        | some last => rfl
      · rw [valuesOf_cons_of_ne same, if_neg same, Option.or_none]

end

/-! ## Members that are read -/

section

variable {name : String} {levels : Nat}

theorem member?_of_valuesOf_eq_nil {members : List (Option String × Document)}
    {found kept : List (String × Json)} (missing : valuesOf name members = [])
    (read : membersData? levels found members = some kept) :
    member? name kept = member? name found := by
  induction members generalizing found with
  | nil =>
      cases read
      rfl
  | cons member remaining ih =>
      obtain ⟨said, value⟩ := member
      obtain ⟨other, same, rest⟩ := Option.bind_eq_some_iff.mp read
      obtain ⟨element, _, readOthers⟩ := Option.bind_eq_some_iff.mp rest
      cases same
      have different : some other ≠ some name := by
        rintro ⟨⟩
        rw [valuesOf_cons_self] at missing
        cases missing
      rw [valuesOf_cons_of_ne different] at missing
      rw [ih missing readOthers]
      exact member?_insertMember_of_ne (fun same => different (congrArg some same.symm)) _ _

/-- Of several members of one name the last one counts. -/
theorem member?_of_last {members : List (Option String × Document)}
    {found kept : List (String × Json)} {value : Document}
    (last : (valuesOf name members).getLast? = some value)
    (read : membersData? levels found members = some kept) :
    ∃ element, value.data? levels = some element ∧ member? name kept = some element := by
  induction members generalizing found with
  | nil => cases last
  | cons member remaining ih =>
      obtain ⟨said, first⟩ := member
      obtain ⟨other, same, rest⟩ := Option.bind_eq_some_iff.mp read
      obtain ⟨element, readFirst, readOthers⟩ := Option.bind_eq_some_iff.mp rest
      cases same
      by_cases same : other = name
      · subst same
        rw [valuesOf_cons_self, List.getLast?_cons] at last
        cases lastOther : (valuesOf other remaining).getLast? with
        | none =>
            rw [lastOther] at last
            cases last
            refine ⟨element, readFirst, ?_⟩
            rw [member?_of_valuesOf_eq_nil (List.getLast?_eq_none_iff.mp lastOther) readOthers]
            exact member?_insertMember_self other element found
        | some lastValue =>
            rw [lastOther] at last
            cases last
            exact ih lastOther readOthers
      · have different : some other ≠ some name := fun equal => same (Option.some.inj equal)
        rw [valuesOf_cons_of_ne different] at last
        exact ih last readOthers

theorem mem_of_member? {members : List (String × Json)} {element : Json}
    (found : member? name members = some element) : (name, element) ∈ members := by
  obtain ⟨member, first, rfl⟩ := Option.map_eq_some_iff.mp found
  have same := List.find?_some first
  rw [← of_decide_eq_true same]
  exact List.mem_of_find?_eq_some first

/-- The values of the entries of a name, in their order. -/
def dataOf (name : String) (entries : List (String × Json)) : List Json :=
  (entries.filter fun entry => entry.1 = name).map Prod.snd

theorem dataOf_cons_self {value : Json} {entries : List (String × Json)} :
    dataOf name ((name, value) :: entries) = value :: dataOf name entries := by
  simp [dataOf]

theorem dataOf_cons_of_ne {other : String} {value : Json} {entries : List (String × Json)}
    (different : other ≠ name) :
    dataOf name ((other, value) :: entries) = dataOf name entries := by
  simp [dataOf, different]

theorem mem_dataOf_of_mem {entry : String × Json} {entries : List (String × Json)}
    (among : entry ∈ entries) : entry.2 ∈ dataOf entry.1 entries :=
  List.mem_map.mpr ⟨entry, List.mem_filter.mpr ⟨among, decide_eq_true rfl⟩, rfl⟩

theorem mem_of_mem_dataOf {value : Json} {entries : List (String × Json)}
    (among : value ∈ dataOf name entries) : (name, value) ∈ entries := by
  obtain ⟨entry, inside, rfl⟩ := List.mem_map.mp among
  obtain ⟨listed, same⟩ := List.mem_filter.mp inside
  rw [← of_decide_eq_true same]
  exact listed

theorem valuesOf_memberDocuments (entries : List (String × Json)) :
    valuesOf name (memberDocuments entries) = (dataOf name entries).map document := by
  induction entries with
  | nil => rfl
  | cons entry remaining ih =>
      obtain ⟨other, value⟩ := entry
      by_cases same : other = name
      · subst same
        rw [memberDocuments, valuesOf_cons_self, dataOf_cons_self, ih, List.map_cons]
      · have different : some other ≠ some name := fun equal => same (Option.some.inj equal)
        rw [memberDocuments, valuesOf_cons_of_ne different, dataOf_cons_of_ne same, ih]

/-- Sorted entries have each name once. -/
theorem dataOf_of_sorted {entries : List (String × Json)} (sorted : SortedByName entries) :
    dataOf name entries = (member? name entries).toList := by
  induction entries with
  | nil => rfl
  | cons entry remaining ih =>
      obtain ⟨other, value⟩ := entry
      obtain ⟨before, sortedRest⟩ := List.pairwise_cons.mp sorted
      by_cases same : other = name
      · subst same
        have missing : member? other remaining = none := by
          refine Option.map_eq_none_iff.mpr (List.find?_eq_none.mpr fun entry among => ?_)
          rw [decide_eq_true_eq]
          exact ne_of_gt (before entry among)
        rw [dataOf_cons_self, ih sortedRest, missing]
        simp [member?]
      · rw [dataOf_cons_of_ne same, ih sortedRest]
        simp [member?, same]

end

/-! ## Read data say the same -/

theorem exactValue_of_isWhole {literal : NumberLiteral} (isWhole : literal.IsWhole) :
    literal.exactValue = literal.wholeValue := by
  unfold NumberLiteral.exactValue NumberLiteral.exponentValue NumberLiteral.wholeValue
  rw [isWhole.noFraction, isWhole.noExponent]
  cases literal.negative with
  | false => simp
  | true => simp

theorem elementMeanings_eq {levels : Nat} {elements : List Document} {values : List Json}
    (read : elementsData? levels elements = some values)
    (same : ∀ element ∈ elements, ∀ value, element.data? levels = some value → value ∈ values →
      element.meaning = value.document.meaning) :
    elementMeanings elements = elementMeanings (elementDocuments values) := by
  induction elements generalizing values with
  | nil =>
      cases read
      rfl
  | cons element remaining ih =>
      obtain ⟨first, readFirst, rest⟩ := Option.bind_eq_some_iff.mp read
      obtain ⟨others, readOthers, built⟩ := Option.bind_eq_some_iff.mp rest
      cases built
      have sameFirst := same element List.mem_cons_self first readFirst List.mem_cons_self
      have sameOthers := ih readOthers fun element among value readValue listed =>
        same element (List.mem_cons_of_mem _ among) value readValue
          (List.mem_cons_of_mem _ listed)
      rw [elementMeanings, elementDocuments, elementMeanings, sameFirst, sameOthers]

theorem mem_of_mem_valuesOf {name : String} {members : List (Option String × Document)}
    {value : Document} (among : value ∈ valuesOf name members) :
    ∃ member ∈ members, member.2 = value := by
  obtain ⟨member, named, same⟩ := List.mem_map.mp among
  exact ⟨member, List.mem_of_mem_filter named, same⟩

theorem memberMeaning_eq_of_read {levels : Nat} {members : List (Option String × Document)}
    {kept : List (String × Json)} (sorted : SortedByName kept)
    (read : membersData? levels [] members = some kept)
    (same : ∀ member ∈ members, ∀ value, member.2.data? levels = some value →
      (∃ name, (name, value) ∈ kept) → member.2.meaning = value.document.meaning) :
    memberMeaning members = memberMeaning (memberDocuments kept) := by
  funext name
  rw [memberMeaning_eq, memberMeaning_eq, valuesOf_memberDocuments, dataOf_of_sorted sorted]
  cases last : (valuesOf name members).getLast? with
  | none =>
      have missing := member?_of_valuesOf_eq_nil (List.getLast?_eq_none_iff.mp last) read
      rw [missing]
      rfl
  | some value =>
      obtain ⟨element, readValue, found⟩ := member?_of_last last read
      obtain ⟨member, among, rfl⟩ := mem_of_mem_valuesOf (List.mem_of_getLast? last)
      rw [found]
      exact congrArg some (same member among element readValue ⟨name, mem_of_member? found⟩)

mutual

/-- Data without numbers but integers say what the document says that they are read from. -/
theorem meaning_of_data? : (document : Document) → (levels : Nat) → {data : Json} →
    document.data? levels = some data → data.HasWholeNumbers →
      document.meaning = data.document.meaning
  | .null, levels, _, read, _ => by
      rw [Document.data?_null] at read
      cases read
      rfl
  | .bool value, levels, _, read, _ => by
      rw [Document.data?_bool] at read
      cases read
      rfl
  | .number literal, levels, _, read, whole => by
      rw [Document.data?_number] at read
      obtain ⟨number, value, rfl⟩ := Option.map_eq_some_iff.mp read
      cases number with
      | real value => cases whole
      | integer value =>
          obtain ⟨isWhole, rfl⟩ := NumberLiteral.isWhole_of_value (toOption_eq_some.mp value)
          have exact := NumberLiteral.isExact_wholeValue isWhole
          rw [document, Number.literal_integer, Document.meaning, Document.meaning,
            exactValue_of_isWhole isWhole, exactValue_of_isWhole (isWhole_wholeLiteral exact),
            wholeValue_wholeLiteral]
  | .text content, levels, _, read, _ => by
      rw [Document.data?_text] at read
      obtain ⟨characters, rfl, rfl⟩ := Option.map_eq_some_iff.mp read
      rfl
  | .array _, 0, _, read, _ => by cases read
  | .array elements, levels + 1, _, read, whole => by
      obtain ⟨values, readElements, rfl⟩ := Option.map_eq_some_iff.mp read
      cases whole with
      | array wholeValues =>
          have same := meaning_of_elements elements levels
          rw [Document.meaning, document, Document.meaning,
            elementMeanings_eq readElements fun element among value readValue listed =>
              same element among readValue (wholeValues value listed)]
  | .object _, 0, _, read, _ => by cases read
  | .object members, levels + 1, _, read, whole => by
      obtain ⟨kept, readMembers, rfl⟩ := Option.map_eq_some_iff.mp read
      have sorted := (readable_of_membersData? members levels (ReadableMembers.nil levels)
        readMembers).sorted
      cases whole with
      | object wholeValues =>
          have same := meaning_of_members members levels
          rw [Document.meaning, document, Document.meaning,
            memberMeaning_eq_of_read sorted readMembers fun member among value readValue named =>
              same member among readValue (named.elim fun name => wholeValues (name, value))]

theorem meaning_of_elements : (elements : List Document) → (levels : Nat) →
    ∀ element ∈ elements, ∀ {data : Json}, element.data? levels = some data →
      data.HasWholeNumbers → element.meaning = data.document.meaning
  | [], _, _, among, _, _, _ => by cases among
  | first :: remaining, levels, element, among, _, read, whole => by
      rcases List.mem_cons.mp among with same | later
      · rw [same] at read ⊢
        exact meaning_of_data? first levels read whole
      · exact meaning_of_elements remaining levels element later read whole

theorem meaning_of_members : (members : List (Option String × Document)) → (levels : Nat) →
    ∀ member ∈ members, ∀ {data : Json}, member.2.data? levels = some data →
      data.HasWholeNumbers → member.2.meaning = data.document.meaning
  | [], _, _, among, _, _, _ => by cases among
  | (name, value) :: remaining, levels, member, among, _, read, whole => by
      rcases List.mem_cons.mp among with same | later
      · rw [same] at read ⊢
        exact meaning_of_data? value levels read whole
      · exact meaning_of_members remaining levels member later read whole

end

end GranuleRecall.Json
