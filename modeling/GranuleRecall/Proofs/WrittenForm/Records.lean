import GranuleRecall.Json.Printer
import GranuleRecall.Json.QuotedText
import GranuleRecall.Proofs.WrittenForm.Digits

/-! # Written records can be read back

A quoted text ends at its closing quote, whatever characters it has, and tells the text. So the
written form of an object whose members are texts and integers tells the members, their names and
their order. -/

set_option autoImplicit false

namespace GranuleRecall.Json

open Decimal

/-! ## Quoted texts -/

/-- The character that an escaped text begins with, and what is left; none at a closing quote. -/
def unescape? : List Char → Option (Char × List Char)
  | [] => none
  | first :: rest =>
    if first = '"' then none
    else if first = '\\' then
      match rest with
      | [] => none
      | mark :: rest =>
        match simpleEscape? mark with
        | some meant => some (meant, rest)
        | none =>
          match rest with
          | a :: b :: c :: d :: rest =>
            (hexValueOfFour? a b c d).map fun code => (Char.ofNat code, rest)
          | _ => none
    else some (first, rest)

theorem hexValueOfFour?_hexDigitOf {code : Nat} (small : code < 0x20) :
    hexValueOfFour? '0' '0' (hexDigitOf (code / 16)) (hexDigitOf (code % 16)) = some code := by
  have every : ∀ code ∈ List.range 0x20,
      hexValueOfFour? '0' '0' (hexDigitOf (code / 16)) (hexDigitOf (code % 16)) = some code := by
    decide
  exact every code (List.mem_range.mpr small)

theorem unescape?_escaped (character : Char) (rest : List Char) :
    unescape? (escaped character ++ rest) = some (character, rest) := by
  by_cases quote : character = '"'
  · subst quote
    rfl
  by_cases backslash : character = '\\'
  · subst backslash
    rfl
  by_cases control : character.toNat < 0x20
  · by_cases backspace : character = '\x08'
    · subst backspace
      rfl
    by_cases tab : character = '\t'
    · subst tab
      rfl
    by_cases newline : character = '\n'
    · subst newline
      rfl
    by_cases formFeed : character = '\x0c'
    · subst formFeed
      rfl
    by_cases carriageReturn : character = '\r'
    · subst carriageReturn
      rfl
    simp only [escaped, quote, backslash, control, backspace, tab, newline, formFeed,
      carriageReturn, ↓reduceIte, List.cons_append, List.nil_append]
    have read := hexValueOfFour?_hexDigitOf control
    have mark : simpleEscape? 'u' = none := rfl
    simp only [unescape?, mark, read, Option.map_some, Char.ofNat_toNat]
    rfl
  · simp [escaped, unescape?, quote, backslash, control]

theorem characters_append_inj {characters characters' rest rest' : List Char}
    (same : characters.flatMap escaped ++ '"' :: rest =
      characters'.flatMap escaped ++ '"' :: rest') :
    characters = characters' ∧ rest = rest' := by
  have closed (rest : List Char) : unescape? ('"' :: rest) = none := rfl
  induction characters generalizing characters' with
  | nil =>
      cases characters' with
      | nil => exact ⟨rfl, List.tail_eq_of_cons_eq same⟩
      | cons other others =>
          have read := congrArg unescape? same
          rw [List.flatMap_cons, List.append_assoc, unescape?_escaped] at read
          cases (closed rest).symm.trans read
  | cons first later ih =>
      have read := congrArg unescape? same
      rw [List.flatMap_cons, List.append_assoc, unescape?_escaped] at read
      cases characters' with
      | nil => cases (closed rest').symm.trans read.symm
      | cons other others =>
          rw [List.flatMap_cons, List.append_assoc, unescape?_escaped] at read
          obtain ⟨sameFirst, sameLater⟩ := Prod.mk.inj (Option.some.inj read)
          obtain ⟨sameOthers, ended⟩ := ih sameLater
          exact ⟨by rw [sameFirst, sameOthers], ended⟩

theorem quoted_append_inj {text text' : String} {rest rest' : List Char}
    (same : quoted text.toList ++ rest = quoted text'.toList ++ rest') :
    text = text' ∧ rest = rest' := by
  simp only [quoted, List.cons_append, List.append_assoc, List.nil_append, List.cons.injEq,
    true_and] at same
  obtain ⟨sameCharacters, ended⟩ := characters_append_inj same
  exact ⟨String.toList_inj.mp sameCharacters, ended⟩

/-! ## Values -/

/-- A text or an integer. -/
inductive IsPlain : Json → Prop
  | text (value : String) : IsPlain (.text value)
  | integer (value : Int) : IsPlain (.number (.integer value))

theorem integerDigits_append_ne_quoted (number : Int) (rest text : List Char) :
    integerDigits number ++ rest ≠ '"' :: text := by
  unfold integerDigits
  split
  next => exact fun equal => absurd (List.cons.inj equal).1 (by decide)
  next =>
    rw [digits_eq_padded]
    exact padded_append_ne_cons rfl _ _ _ _

theorem IsPlain.characters_append_inj {value value' : Json} (plain : value.IsPlain)
    (plain' : value'.IsPlain) {rest rest' : List Char} (ends : IsPastDigits rest)
    (ends' : IsPastDigits rest')
    (same : characters value ++ rest = characters value' ++ rest') :
    value = value' ∧ rest = rest' := by
  cases plain with
  | text text =>
      cases plain' with
      | text text' =>
          obtain ⟨sameText, ended⟩ := quoted_append_inj same
          exact ⟨congrArg Json.text sameText, ended⟩
      | integer number' =>
          exact absurd same.symm (integerDigits_append_ne_quoted number' _ _)
  | integer number =>
      cases plain' with
      | text text' => exact absurd same (integerDigits_append_ne_quoted number _ _)
      | integer number' =>
          obtain ⟨sameNumber, ended⟩ := integerDigits_append_inj ends ends' same
          exact ⟨by rw [sameNumber], ended⟩

/-! ## Members -/

/-- What is written after the value of a member, up to the end of the object. -/
def afterMember : List (String × Json) → List Char
  | [] => ['\x7d']
  | member :: later => ',' :: (memberCharacters (member :: later) ++ ['\x7d'])

theorem isPastDigits_afterMember (later : List (String × Json)) :
    IsPastDigits (afterMember later) := by
  cases later with
  | nil => exact isPastDigits_cons rfl _
  | cons member later => exact isPastDigits_cons rfl _

theorem memberCharacters_cons (name : String) (value : Json) (later : List (String × Json)) :
    memberCharacters ((name, value) :: later) ++ ['\x7d'] =
      quoted name.toList ++ ':' :: (characters value ++ afterMember later) := by
  cases later with
  | nil => simp [memberCharacters, afterMember]
  | cons member later => simp [memberCharacters, afterMember]

theorem eq_of_afterMember_eq {later later' : List (String × Json)}
    (same : afterMember later = afterMember later')
    (told : memberCharacters later ++ ['\x7d'] = memberCharacters later' ++ ['\x7d'] →
      later = later') : later = later' := by
  cases later with
  | nil =>
      cases later' with
      | nil => rfl
      | cons member' later' => exact absurd (List.cons.inj same).1 (by decide)
  | cons member later =>
      cases later' with
      | nil => exact absurd (List.cons.inj same).1 (by decide)
      | cons member' later' => exact told (List.tail_eq_of_cons_eq same)

theorem memberCharacters_inj {members members' : List (String × Json)}
    (plain : ∀ member ∈ members, member.2.IsPlain)
    (plain' : ∀ member ∈ members', member.2.IsPlain)
    (same : memberCharacters members ++ ['\x7d'] = memberCharacters members' ++ ['\x7d']) :
    members = members' := by
  induction members generalizing members' with
  | nil =>
      cases members' with
      | nil => rfl
      | cons member' later' =>
          rw [memberCharacters_cons] at same
          exact absurd (List.cons.inj same).1 (by decide)
  | cons member later ih =>
      obtain ⟨name, value⟩ := member
      cases members' with
      | nil =>
          rw [memberCharacters_cons] at same
          exact absurd (List.cons.inj same).1 (by decide)
      | cons member' later' =>
          obtain ⟨name', value'⟩ := member'
          rw [memberCharacters_cons, memberCharacters_cons] at same
          obtain ⟨sameName, afterName⟩ := quoted_append_inj same
          have plainValue : value.IsPlain := plain (name, value) List.mem_cons_self
          have plainValue' : value'.IsPlain := plain' (name', value') List.mem_cons_self
          obtain ⟨sameValue, sameLater⟩ := plainValue.characters_append_inj plainValue'
            (isPastDigits_afterMember later) (isPastDigits_afterMember later')
            (List.tail_eq_of_cons_eq afterName)
          have others : later = later' := eq_of_afterMember_eq sameLater <|
            ih (fun member listed => plain member (List.mem_cons_of_mem _ listed))
              (fun member listed => plain' member (List.mem_cons_of_mem _ listed))
          rw [sameName, sameValue, others]

def members : Json → List (String × Json)
  | .object members => members
  | _ => []

/-- The written form of an object of texts and integers tells the object. -/
theorem render_object_inj {members members' : List (String × Json)}
    (plain : ∀ member ∈ members, member.2.IsPlain)
    (plain' : ∀ member ∈ members', member.2.IsPlain)
    (same : (Json.object members).render = (Json.object members').render) :
    members = members' :=
  memberCharacters_inj plain plain' (List.tail_eq_of_cons_eq (String.ofList_inj.mp same))

end GranuleRecall.Json
