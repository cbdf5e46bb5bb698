import GranuleRecall.Proofs.Documents.Reals
import Mathlib.Algebra.Group.Int.Defs
import Mathlib.Data.String.Basic

/-! # Read data can be read again

The members of an object come out of a document sorted by name, each name once, and a whole
number that fits in 64 bits stays exact. So data without other numbers, once printed, are read as
the same data. -/

set_option autoImplicit false

namespace GranuleRecall.Json

open Decimal

/-! ## Integers -/

/-- The integers that are kept exactly: those of 64 bits, signed or unsigned. -/
def IsExact (value : Int) : Prop :=
  -2 ^ 63 ≤ value ∧ value < 2 ^ 64

instance (value : Int) : Decidable (IsExact value) :=
  inferInstanceAs (Decidable (_ ∧ _))

def ofDigitsAfter (number : Nat) (values : List Nat) : Nat :=
  values.foldl (fun number value => number * 10 + value) number

theorem le_ofDigitsAfter (number : Nat) (values : List Nat) :
    number ≤ ofDigitsAfter number values := by
  induction values generalizing number with
  | nil => exact Nat.le_refl number
  | cons value values ih =>
      have grows := ih (number * 10 + value)
      rw [ofDigitsAfter, List.foldl_cons]
      rw [ofDigitsAfter] at grows
      omega

/-- No digit is dropped exactly when the number that they all make is within the bound. -/
theorem appendDigits_iff (number : Nat) (values : List Nat) {significand : Nat}
    (small : number ≤ significandBound) :
    appendDigits number values = (significand, 0) ↔
      ofDigitsAfter number values = significand ∧ significand ≤ significandBound := by
  induction values generalizing number with
  | nil =>
      rw [appendDigits, ofDigitsAfter, List.foldl_nil, Prod.mk.injEq]
      constructor
      · rintro ⟨rfl, _⟩
        exact ⟨rfl, small⟩
      · rintro ⟨rfl, _⟩
        exact ⟨rfl, rfl⟩
  | cons value values ih =>
      have grows := le_ofDigitsAfter (number * 10 + value) values
      have unfolded : ofDigitsAfter number (value :: values) =
          ofDigitsAfter (number * 10 + value) values := rfl
      rw [appendDigits, unfolded]
      split
      next large =>
        constructor
        · intro dropped
          cases (Prod.mk.inj dropped).2
        · rintro ⟨rfl, fits⟩
          omega
      next fits => exact ih (number * 10 + value) (Nat.not_lt.mp fits)

namespace NumberLiteral

/-- A literal of a whole number that fits in 64 bits; a negative zero is none. -/
structure IsWhole (literal : NumberLiteral) : Prop where
  noFraction : literal.fraction = none
  noExponent : literal.exponent = none
  positive : literal.negative = false → ofDigitValues literal.whole < 2 ^ 64
  negative : literal.negative = true →
    1 ≤ ofDigitValues literal.whole ∧ ofDigitValues literal.whole ≤ 2 ^ 63

def wholeValue (literal : NumberLiteral) : Int :=
  if literal.negative then -ofDigitValues literal.whole else ofDigitValues literal.whole

theorem value_ne_integer_of_realOf? {negative : Bool} {significand : Nat} {exponent value : Int} :
    (realOf? negative significand exponent).elim (.error 0) Except.ok ≠
      (.ok (.integer value) : Except Nat Number) := by
  unfold realOf?
  cases scaleByTen (Binary64.ofNat significand) exponent with
  | none => simp
  | some magnitude => simp

theorem isWhole_of_value {literal : NumberLiteral} {value : Int}
    (read : literal.value = .ok (.integer value)) :
    literal.IsWhole ∧ value = literal.wholeValue := by
  obtain ⟨negative, whole, fraction, exponent⟩ := literal
  cases exponent with
  | some exponent =>
      obtain ⟨negativeExponent, values⟩ := exponent
      simp only [NumberLiteral.value] at read
      split at read
      next =>
        rcases ite_eq_iff.mp read with ⟨_, dropped⟩ | ⟨_, zero⟩
        · cases dropped
        · cases zero
      next => exact absurd read value_ne_integer_of_realOf?
  | none =>
      cases fraction with
      | some values =>
          simp only [NumberLiteral.value, Option.isNone_some, Bool.false_eq_true, false_and,
            if_false] at read
          exact absurd read value_ne_integer_of_realOf?
      | none =>
          simp only [NumberLiteral.value, Option.isNone_none, true_and] at read
          split at read
          next kept =>
            obtain ⟨told, bounded⟩ :=
              (appendDigits_iff 0 whole (Nat.zero_le _)).mp (Prod.ext rfl kept)
            have significand : (appendDigits 0 whole).1 = ofDigitValues whole := told.symm
            have bound : ofDigitValues whole < 2 ^ 64 := by
              rw [← significand]
              exact Nat.lt_of_le_of_lt bounded (by decide)
            rw [significand] at read
            cases negative with
            | false =>
                cases read
                have positive : false ≠ true := Bool.false_ne_true
                exact ⟨⟨rfl, rfl, fun _ => bound, fun same => absurd same positive⟩, rfl⟩
            | true =>
                simp only [not_true_eq_false, if_false] at read
                split at read
                next range =>
                  cases read
                  have negative : true ≠ false := Bool.noConfusion
                  exact ⟨⟨rfl, rfl, fun same => absurd same negative, fun _ => range⟩, rfl⟩
                next => cases read
          next => exact absurd read value_ne_integer_of_realOf?

theorem IsWhole.value {literal : NumberLiteral} (isWhole : literal.IsWhole) :
    literal.value = .ok (.integer literal.wholeValue) := by
  obtain ⟨negative, whole, fraction, exponent⟩ := literal
  obtain ⟨noFraction, noExponent, positive, range⟩ := isWhole
  cases noFraction
  cases noExponent
  have bounded : ofDigitValues whole ≤ significandBound := by
    have bound : significandBound = 2 ^ 64 - 1 := rfl
    cases negative with
    | false =>
        have := positive rfl
        dsimp only at this
        omega
    | true =>
        have := range rfl
        dsimp only at this
        omega
  have kept := (appendDigits_iff 0 whole (Nat.zero_le _)).mpr ⟨rfl, bounded⟩
  have told : ofDigitsAfter 0 whole = ofDigitValues whole := rfl
  rw [told] at kept
  cases negative with
  | false =>
      simp only [NumberLiteral.value, kept]
      rfl
  | true =>
      have range : 1 ≤ ofDigitValues whole ∧ ofDigitValues whole ≤ 1 <<< 63 := range rfl
      simp only [NumberLiteral.value, kept, wholeValue, range, and_self, not_true_eq_false,
        Option.isNone_none, if_true, if_false]

theorem isExact_wholeValue {literal : NumberLiteral} (isWhole : literal.IsWhole) :
    IsExact literal.wholeValue := by
  unfold wholeValue
  split
  next negative =>
    have range := isWhole.negative negative
    constructor <;> omega
  next positive =>
    have bound := isWhole.positive (Bool.eq_false_iff.mpr positive)
    constructor <;> omega

end NumberLiteral

theorem isWhole_wholeLiteral {value : Int} (exact : IsExact value) :
    (wholeLiteral value).IsWhole := by
  obtain ⟨low, high⟩ := exact
  have told : ofDigitValues (wholeLiteral value).whole = value.natAbs :=
    ofDigitValues_digits value.natAbs
  constructor
  · rfl
  · rfl
  · intro positive
    have := of_decide_eq_false positive
    omega
  · intro negative
    have := of_decide_eq_true negative
    omega

theorem wholeValue_wholeLiteral (value : Int) : (wholeLiteral value).wholeValue = value := by
  have told : ofDigitValues (wholeLiteral value).whole = value.natAbs :=
    ofDigitValues_digits value.natAbs
  unfold NumberLiteral.wholeValue
  rw [told]
  split
  next negative =>
    have := of_decide_eq_true negative
    omega
  next positive =>
    have := of_decide_eq_false (Bool.eq_false_iff.mpr positive)
    omega

/-! ## Members sorted by name -/

def SortedByName (members : List (String × Json)) : Prop :=
  members.Pairwise fun member other => member.1 < other.1

theorem mem_insertMember {name : String} {value : Json} {members : List (String × Json)}
    {member : String × Json} (among : member ∈ insertMember name value members) :
    member = (name, value) ∨ member ∈ members := by
  induction members with
  | nil => exact .inl (List.mem_singleton.mp among)
  | cons entry remaining ih =>
      rw [insertMember] at among
      split at among
      next =>
        rcases List.mem_cons.mp among with first | later
        · exact .inl first
        · exact .inr (List.mem_cons_of_mem entry later)
      next =>
        split at among
        next => exact List.mem_cons.mp among
        next =>
          rcases List.mem_cons.mp among with first | later
          · exact .inr (first ▸ List.mem_cons_self)
          · rcases ih later with new | old
            · exact .inl new
            · exact .inr (List.mem_cons_of_mem entry old)

theorem SortedByName.insertMember {members : List (String × Json)} (sorted : SortedByName members)
    (name : String) (value : Json) : SortedByName (insertMember name value members) := by
  induction members with
  | nil => exact List.pairwise_singleton _ _
  | cons entry remaining ih =>
      obtain ⟨first, firstValue⟩ := entry
      obtain ⟨before, sortedRest⟩ := List.pairwise_cons.mp sorted
      rw [Json.insertMember]
      split
      next same =>
        subst same
        exact List.pairwise_cons.mpr ⟨before, sortedRest⟩
      next different =>
        split
        next earlier =>
          refine List.pairwise_cons.mpr ⟨?_, sorted⟩
          intro member among
          rcases List.mem_cons.mp among with rfl | later
          · exact earlier
          · exact earlier.trans (before member later)
        next notEarlier =>
          have later : first < name := lt_of_le_of_ne (not_lt.mp notEarlier) (Ne.symm different)
          refine List.pairwise_cons.mpr ⟨?_, ih sortedRest⟩
          intro member among
          rcases mem_insertMember among with rfl | old
          · exact later
          · exact before member old

/-- A member that comes after all others by its name is put last. -/
theorem insertMember_last {name : String} {value : Json} {members : List (String × Json)}
    (last : ∀ member ∈ members, member.1 < name) :
    insertMember name value members = members ++ [(name, value)] := by
  induction members with
  | nil => rfl
  | cons entry remaining ih =>
      obtain ⟨first, firstValue⟩ := entry
      obtain ⟨before, beforeRest⟩ := List.forall_mem_cons.mp last
      rw [insertMember, if_neg (ne_of_gt before), if_neg (lt_asymm before), ih beforeRest]
      rfl

/-! ## Reading -/

/-- Data that come out of a document in which so many arrays and objects may be opened. -/
inductive Readable : Nat → Json → Prop
  | null {levels : Nat} : Readable levels .null
  | bool {levels : Nat} {value : Bool} : Readable levels (.bool value)
  | integer {levels : Nat} {value : Int} :
      IsExact value → Readable levels (.number (.integer value))
  | real {levels : Nat} {value : Binary64} :
      (Number.real value).IsLiteral → Readable levels (.number (.real value))
  | text {levels : Nat} {content : String} : Readable levels (.text content)
  | array {levels : Nat} {elements : List Json} :
      (∀ element ∈ elements, Readable levels element) → Readable (levels + 1) (.array elements)
  | object {levels : Nat} {members : List (String × Json)} :
      SortedByName members → (∀ member ∈ members, Readable levels member.2) →
      Readable (levels + 1) (.object members)

structure ReadableMembers (levels : Nat) (members : List (String × Json)) : Prop where
  sorted : SortedByName members
  values : ∀ member ∈ members, Readable levels member.2

theorem ReadableMembers.nil (levels : Nat) : ReadableMembers levels [] :=
  ⟨List.Pairwise.nil, List.forall_mem_nil _⟩

theorem ReadableMembers.insertMember {levels : Nat} {members : List (String × Json)}
    (readable : ReadableMembers levels members) (name : String) {value : Json}
    (readableValue : Readable levels value) :
    ReadableMembers levels (insertMember name value members) where
  sorted := readable.sorted.insertMember name value
  values := by
    intro member among
    rcases mem_insertMember among with rfl | old
    · exact readableValue
    · exact readable.values member old

mutual

theorem readable_of_data? : (document : Document) → (levels : Nat) → {data : Json} →
    document.data? levels = some data → Readable levels data
  | .null, levels, _, read => by
      rw [Document.data?_null] at read
      cases read
      exact .null
  | .bool value, levels, _, read => by
      rw [Document.data?_bool] at read
      cases read
      exact .bool
  | .number literal, levels, _, read => by
      rw [Document.data?_number] at read
      obtain ⟨number, told, rfl⟩ := Option.map_eq_some_iff.mp read
      cases number with
      | integer value =>
          obtain ⟨isWhole, rfl⟩ := NumberLiteral.isWhole_of_value (toOption_eq_some.mp told)
          exact .integer (NumberLiteral.isExact_wholeValue isWhole)
      | real value =>
          exact .real (NumberLiteral.isFinite_of_value (toOption_eq_some.mp told)).isLiteral
  | .text content, levels, _, read => by
      rw [Document.data?_text] at read
      obtain ⟨characters, _, rfl⟩ := Option.map_eq_some_iff.mp read
      exact .text
  | .array _, 0, _, read => by cases read
  | .array elements, levels + 1, _, read => by
      obtain ⟨values, readElements, rfl⟩ := Option.map_eq_some_iff.mp read
      exact .array (readable_of_elementsData? elements levels readElements)
  | .object _, 0, _, read => by cases read
  | .object members, levels + 1, _, read => by
      obtain ⟨kept, readMembers, rfl⟩ := Option.map_eq_some_iff.mp read
      have readable := readable_of_membersData? members levels (ReadableMembers.nil levels)
        readMembers
      exact .object readable.sorted readable.values

theorem readable_of_elementsData? : (elements : List Document) → (levels : Nat) →
    {values : List Json} → elementsData? levels elements = some values →
    ∀ value ∈ values, Readable levels value
  | [], _, _, read => by
      cases read
      exact List.forall_mem_nil _
  | element :: remaining, levels, _, read => by
      obtain ⟨first, readFirst, rest⟩ := Option.bind_eq_some_iff.mp read
      obtain ⟨others, readOthers, same⟩ := Option.bind_eq_some_iff.mp rest
      cases same
      exact List.forall_mem_cons.mpr ⟨readable_of_data? element levels readFirst,
        readable_of_elementsData? remaining levels readOthers⟩

theorem readable_of_membersData? : (members : List (Option String × Document)) →
    (levels : Nat) → {found kept : List (String × Json)} → ReadableMembers levels found →
    membersData? levels found members = some kept → ReadableMembers levels kept
  | [], _, _, _, readable, read => by
      cases read
      exact readable
  | (_, value) :: remaining, levels, _, _, readable, read => by
      obtain ⟨name, _, rest⟩ := Option.bind_eq_some_iff.mp read
      obtain ⟨element, readElement, readOthers⟩ := Option.bind_eq_some_iff.mp rest
      have readableElement := readable_of_data? value levels readElement
      exact readable_of_membersData? remaining levels
        (readable.insertMember name readableElement) readOthers

end

/-! ## Reading again -/

/-- All numbers in the data are integers. -/
inductive HasWholeNumbers : Json → Prop
  | null : HasWholeNumbers .null
  | bool {value : Bool} : HasWholeNumbers (.bool value)
  | integer {value : Int} : HasWholeNumbers (.number (.integer value))
  | text {content : String} : HasWholeNumbers (.text content)
  | array {elements : List Json} :
      (∀ element ∈ elements, element.HasWholeNumbers) → HasWholeNumbers (.array elements)
  | object {members : List (String × Json)} :
      (∀ member ∈ members, member.2.HasWholeNumbers) → HasWholeNumbers (.object members)

theorem elementsHaveLiterals {elements : List Json}
    (literals : ∀ element ∈ elements, element.HasLiterals) : ElementsHaveLiterals elements := by
  induction elements with
  | nil => trivial
  | cons element remaining ih =>
      obtain ⟨first, others⟩ := List.forall_mem_cons.mp literals
      exact ⟨first, ih others⟩

theorem membersHaveLiterals {members : List (String × Json)}
    (literals : ∀ member ∈ members, member.2.HasLiterals) : MembersHaveLiterals members := by
  induction members with
  | nil => trivial
  | cons member remaining ih =>
      obtain ⟨first, others⟩ := List.forall_mem_cons.mp literals
      exact ⟨first, ih others⟩

theorem HasWholeNumbers.hasLiterals {data : Json} (whole : data.HasWholeNumbers) :
    data.HasLiterals := by
  induction whole with
  | null => trivial
  | bool => trivial
  | integer => exact Number.isLiteral_integer _
  | text => trivial
  | array _ ih => exact elementsHaveLiterals ih
  | object _ ih => exact membersHaveLiterals ih

/-- Data that were read can be written. -/
theorem Readable.hasLiterals {levels : Nat} {data : Json} (readable : Readable levels data) :
    data.HasLiterals := by
  induction readable with
  | null => trivial
  | bool => trivial
  | integer _ => exact Number.isLiteral_integer _
  | real literal => exact literal
  | text => trivial
  | array _ ih => exact elementsHaveLiterals ih
  | object _ _ ih => exact membersHaveLiterals ih

theorem elementsData?_documents {levels : Nat} {elements : List Json}
    (reads : ∀ element ∈ elements, element.document.data? levels = some element) :
    elementsData? levels (elementDocuments elements) = some elements := by
  induction elements with
  | nil => rfl
  | cons element remaining ih =>
      obtain ⟨first, others⟩ := List.forall_mem_cons.mp reads
      rw [elementDocuments, elementsData?, first, ih others]
      rfl

theorem membersData?_documents {levels : Nat} {found members : List (String × Json)}
    (sorted : SortedByName (found ++ members))
    (reads : ∀ member ∈ members, member.2.document.data? levels = some member.2) :
    membersData? levels found (memberDocuments members) = some (found ++ members) := by
  induction members generalizing found with
  | nil => rw [memberDocuments, membersData?, List.append_nil]
  | cons member remaining ih =>
      obtain ⟨name, value⟩ := member
      obtain ⟨first, others⟩ := List.forall_mem_cons.mp reads
      have last : ∀ member ∈ found, member.1 < name := by
        intro member among
        exact (List.pairwise_append.mp sorted).2.2 member among (name, value) List.mem_cons_self
      have regrouped : found ++ (name, value) :: remaining =
          found ++ [(name, value)] ++ remaining := by
        rw [List.append_assoc, List.singleton_append]
      rw [regrouped] at sorted ⊢
      rw [← ih sorted others, ← insertMember_last last, memberDocuments, membersData?, first]
      rfl

theorem Readable.data?_document {levels : Nat} {data : Json} (readable : Readable levels data)
    (whole : data.HasWholeNumbers) : data.document.data? levels = some data := by
  induction readable with
  | null => exact Document.data?_null _
  | bool => exact Document.data?_bool _ _
  | @integer _ value exact =>
      have told : (wholeLiteral value).value = .ok (.integer value) := by
        rw [(isWhole_wholeLiteral exact).value, wholeValue_wholeLiteral]
      rw [document, Number.literal_integer, Document.data?_number, told]
      rfl
  | real _ => cases whole
  | text => exact Document.data?_text _ _
  | @array levels elements _ ih =>
      cases whole with
      | array wholeElements =>
          rw [document, Document.data?, elementsData?_documents fun element among =>
            ih element among (wholeElements element among)]
          rfl
  | @object levels members sorted _ ih =>
      cases whole with
      | object wholeMembers =>
          have sorted : SortedByName ([] ++ members) := sorted
          rw [document, Document.data?, membersData?_documents sorted fun member among =>
            ih member among (wholeMembers member among)]
          rfl

end GranuleRecall.Json
