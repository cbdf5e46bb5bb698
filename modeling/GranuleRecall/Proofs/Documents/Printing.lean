import GranuleRecall.Proofs.Documents.Readers
import GranuleRecall.Proofs.WrittenForm.Records

/-! # Printed data are documents

The compact written form of data is a text of the grammar: the text of the document that has the
data's own structure. It can be told where it ends, whatever follows it. -/

set_option autoImplicit false

namespace GranuleRecall.Json

open Decimal

/-! ## Integers -/

theorem digitRun_of_isDigit {characters : List Char} (given : characters ≠ [])
    (digits : ∀ character ∈ characters, isDigit character = true) (rest : List Char) :
    DigitRun (characters.filterMap digitValue?) (characters ++ rest) rest := by
  induction characters with
  | nil => exact absurd rfl given
  | cons first others ih =>
      obtain ⟨value, digit⟩ := Option.isSome_iff_exists.mp (digits first List.mem_cons_self)
      rw [List.filterMap_cons_some digit]
      cases others with
      | nil => exact .last digit
      | cons second others =>
          apply DigitRun.more digit
          apply ih (List.cons_ne_nil second others)
          intro character among
          exact digits character (List.mem_cons_of_mem first among)

theorem digits_values_cons {number : Nat} (positive : number ≠ 0) :
    ∃ value values, (digits number).filterMap digitValue? = value :: values ∧ value ≠ 0 := by
  induction number using Nat.strongRecOn with
  | ind number ih =>
      rw [digits]
      split
      next small =>
        refine ⟨number, [], ?_, positive⟩
        rw [List.filterMap_cons_some (digitValue?_digitOf small), List.filterMap_nil]
      next large =>
        obtain ⟨value, values, begins, first⟩ := ih (number / 10) (by omega) (by omega)
        refine ⟨value, values ++ (digitValue? (digitOf (number % 10))).toList, ?_, first⟩
        rw [List.filterMap_append, begins, List.filterMap_cons, List.filterMap_nil]
        cases digitValue? (digitOf (number % 10)) with
        | none => rfl
        | some last => rfl

theorem wholePart_digits (number : Nat) (rest : List Char) :
    WholePart ((digits number).filterMap digitValue?) (digits number ++ rest) rest := by
  by_cases isZero : number = 0
  · subst isZero
    rw [digits]
    exact .zero
  · have run := digitRun_of_isDigit (digits_ne_nil number)
      (fun _ written => isDigit_of_mem_digits written) rest
    obtain ⟨value, values, begins, first⟩ := digits_values_cons isZero
    rw [begins] at run ⊢
    exact .digits first run

def wholeLiteral (number : Int) : NumberLiteral :=
  ⟨decide (number < 0), (digits number.natAbs).filterMap digitValue?, none, none⟩

theorem wholeLiteral_spelled (number : Int) (rest : List Char) :
    (wholeLiteral number).Spelled (integerDigits number ++ rest) rest := by
  have unsigned : (wholeLiteral number).Unsigned (digits number.natAbs ++ rest) rest :=
    .parts (wholePart_digits number.natAbs rest) .missing .missing
  unfold integerDigits
  split
  next negative => exact .negative (decide_eq_true negative) unsigned
  next positive => exact .positive (decide_eq_false positive) unsigned

/-! ## Numbers -/

/-- The literal that a number is written as. -/
def Number.literal (number : Number) : NumberLiteral :=
  match scanNumber ⟨numberText number, {}⟩ with
  | .ok (literal, _) => literal
  | .error _ => ⟨false, [0], none, none⟩

/-- The written form of the number is a literal. -/
def Number.IsLiteral (number : Number) : Prop :=
  ∀ rest, number.literal.Spelled (numberText number ++ rest) rest

theorem Number.literal_eq {number : Number} {literal : NumberLiteral}
    (spelled : ∀ rest, literal.Spelled (numberText number ++ rest) rest) :
    number.literal = literal := by
  have alone : literal.Spelled (Cursor.mk (numberText number) {}).unread [] := by
    have alone := spelled []
    rw [List.append_nil] at alone
    exact alone
  obtain ⟨following, scan, _⟩ := alone.scanNumber (beginsOutside_nil _)
  simp only [Number.literal, scan]

theorem Number.isLiteral_of_spelled {number : Number} {literal : NumberLiteral}
    (spelled : ∀ rest, literal.Spelled (numberText number ++ rest) rest) : number.IsLiteral := by
  intro rest
  rw [Number.literal_eq spelled]
  exact spelled rest

theorem Number.literal_integer (value : Int) :
    (Number.integer value).literal = wholeLiteral value :=
  Number.literal_eq (wholeLiteral_spelled value)

theorem Number.isLiteral_integer (value : Int) : (Number.integer value).IsLiteral :=
  Number.isLiteral_of_spelled (wholeLiteral_spelled value)

/-! ## Texts -/

def isShortlyEscaped (character : Char) : Bool :=
  character == '\x08' || character == '\t' || character == '\n' || character == '\x0c' ||
    character == '\r'

/-- The piece that a character is written as. -/
def Piece.of (character : Char) : Piece :=
  if character.toNat < 0x20 ∧ isShortlyEscaped character = false then .unit character.toNat
  else .character character

theorem Piece.of_spelled (character : Char) (rest : List Char) :
    (Piece.of character).Spelled (escaped character ++ rest) rest := by
  by_cases quote : character = '"'
  · subst quote
    exact .escape rfl
  by_cases backslash : character = '\\'
  · subst backslash
    exact .escape rfl
  by_cases control : character.toNat < 0x20
  · by_cases backspace : character = '\x08'
    · subst backspace
      exact .escape rfl
    by_cases tab : character = '\t'
    · subst tab
      exact .escape rfl
    by_cases newline : character = '\n'
    · subst newline
      exact .escape rfl
    by_cases formFeed : character = '\x0c'
    · subst formFeed
      exact .escape rfl
    by_cases carriageReturn : character = '\r'
    · subst carriageReturn
      exact .escape rfl
    have long : isShortlyEscaped character = false := by
      simp [isShortlyEscaped, backspace, tab, newline, formFeed, carriageReturn]
    rw [Piece.of, if_pos ⟨control, long⟩]
    simp only [escaped, quote, backslash, control, backspace, tab, newline, formFeed,
      carriageReturn, ↓reduceIte, List.cons_append, List.nil_append]
    exact .unit (hexValueOfFour?_hexDigitOf control)
  · rw [Piece.of, if_neg fun both => control both.1]
    simp only [escaped, quote, backslash, control, ↓reduceIte]
    exact .plain quote backslash (Nat.not_lt.mp control)

theorem Piece.meaning_of (characters : List Char) :
    Piece.meaning (characters.map Piece.of) = some characters := by
  induction characters with
  | nil => rfl
  | cons character characters ih =>
      rw [List.map_cons, Piece.of]
      split
      next short =>
        have notTrailing : isTrailing character.toNat = false := by
          simp only [isTrailing, Bool.and_eq_false_iff, decide_eq_false_iff_not]
          omega
        have notLeading : isLeading character.toNat = false := by
          simp only [isLeading, Bool.and_eq_false_iff, decide_eq_false_iff_not]
          omega
        rw [Piece.meaning_plain _ notTrailing notLeading, ih, Char.ofNat_toNat]
        rfl
      next =>
        rw [Piece.meaning, ih]
        rfl

theorem piecesSpelled_of (characters rest : List Char) :
    PiecesSpelled (characters.map Piece.of) (characters.flatMap escaped ++ '"' :: rest) rest := by
  induction characters with
  | nil => exact .close
  | cons character characters ih =>
      rw [List.map_cons, List.flatMap_cons, List.append_assoc]
      exact .more (Piece.of_spelled character _) ih

theorem textSpelled_of (text : String) (rest : List Char) :
    TextSpelled (some text) (text.toList.flatMap escaped ++ '"' :: rest) rest := by
  refine ⟨text.toList.map Piece.of, piecesSpelled_of text.toList rest, ?_⟩
  rw [Piece.meaning_of, Option.map_some, String.ofList_toList]

theorem quoted_append (characters rest : List Char) :
    quoted characters ++ rest = '"' :: (characters.flatMap escaped ++ '"' :: rest) := by
  simp [quoted]

theorem nameSpelled_of (name : String) (rest : List Char) :
    NameSpelled (some name) (quoted name.toList ++ ':' :: rest) rest := by
  rw [quoted_append]
  exact .quoted .none (textSpelled_of name _) .none

/-! ## Data -/

mutual

/-- The document with the structure of the data. -/
def document : Json → Document
  | .null => .null
  | .bool value => .bool value
  | .number value => .number value.literal
  | .text value => .text (some value)
  | .array elements => .array (elementDocuments elements)
  | .object members => .object (memberDocuments members)

def elementDocuments : List Json → List Document
  | [] => []
  | element :: remaining => element.document :: elementDocuments remaining

def memberDocuments : List (String × Json) → List (Option String × Document)
  | [] => []
  | (name, value) :: remaining => (some name, value.document) :: memberDocuments remaining

end

mutual

/-- Every number in the data has a written form. -/
def HasLiterals : Json → Prop
  | .number value => value.IsLiteral
  | .array elements => ElementsHaveLiterals elements
  | .object members => MembersHaveLiterals members
  | _ => True

def ElementsHaveLiterals : List Json → Prop
  | [] => True
  | element :: remaining => element.HasLiterals ∧ ElementsHaveLiterals remaining

def MembersHaveLiterals : List (String × Json) → Prop
  | [] => True
  | (_, value) :: remaining => value.HasLiterals ∧ MembersHaveLiterals remaining

end

theorem memberDocuments_eq_map (members : List (String × Json)) :
    memberDocuments members = members.map fun member => (some member.1, member.2.document) := by
  induction members with
  | nil => rfl
  | cons member members ih => rw [memberDocuments, ih, List.map_cons]

theorem names_memberDocuments (members : List (String × Json)) :
    (memberDocuments members).map Prod.fst = (members.map Prod.fst).map some := by
  rw [memberDocuments_eq_map, List.map_map, List.map_map]
  rfl

theorem named_memberDocuments (members : List (String × Json)) :
    ∀ member ∈ memberDocuments members, member.1.isSome := by
  rw [memberDocuments_eq_map]
  exact List.forall_mem_map.mpr fun _ _ => rfl

mutual

theorem document_spelled : (data : Json) → data.HasLiterals → (rest : List Char) →
    data.document.Spelled (characters data ++ rest) rest
  | .null, _, _ => .nullWord
  | .bool true, _, _ => .trueWord
  | .bool false, _, _ => .falseWord
  | .number _, literals, rest => .number (literals rest)
  | .text content, _, rest => by
      rw [characters, quoted_append]
      exact .text (textSpelled_of content rest)
  | .array [], _, _ => .emptyArray .none
  | .array (element :: elements), literals, rest => by
      have spelled := elementDocuments_spelled (element :: elements) nofun literals rest
      rw [characters, List.cons_append, List.cons_append, List.append_assoc]
      exact .array spelled
  | .object [], _, _ => .emptyObject .none
  | .object (member :: members), literals, rest => by
      have spelled := memberDocuments_spelled (member :: members) nofun literals rest
      rw [characters, List.cons_append, List.cons_append, List.append_assoc]
      exact .object spelled

theorem elementDocuments_spelled : (elements : List Json) → elements ≠ [] →
    ElementsHaveLiterals elements → (rest : List Char) →
    ElementsSpelled (elementDocuments elements) (elementCharacters elements ++ ']' :: rest) rest
  | [element], _, literals, rest =>
      .last .none (document_spelled element literals.1 (']' :: rest)) .none
  | element :: next :: remaining, _, literals, rest => by
      have spelled := document_spelled element literals.1
        (',' :: (elementCharacters (next :: remaining) ++ ']' :: rest))
      have others := elementDocuments_spelled (next :: remaining) nofun literals.2 rest
      rw [elementCharacters, List.append_assoc]
      exact .more .none spelled .none others

theorem memberDocuments_spelled : (members : List (String × Json)) → members ≠ [] →
    MembersHaveLiterals members → (rest : List Char) →
    MembersSpelled (memberDocuments members) (memberCharacters members ++ '\x7d' :: rest) rest
  | [(name, value)], _, literals, rest => by
      have spelled := document_spelled value literals.1 ('\x7d' :: rest)
      have named := nameSpelled_of name (characters value ++ '\x7d' :: rest)
      rw [memberCharacters, List.append_assoc]
      exact .last named .none spelled .none
  | (name, value) :: next :: remaining, _, literals, rest => by
      have spelled := document_spelled value literals.1
        (',' :: (memberCharacters (next :: remaining) ++ '\x7d' :: rest))
      have named := nameSpelled_of name (characters value ++
        ',' :: (memberCharacters (next :: remaining) ++ '\x7d' :: rest))
      have others := memberDocuments_spelled (next :: remaining) nofun literals.2 rest
      rw [memberCharacters, List.append_assoc, List.cons_append, List.append_assoc]
      exact .more named .none spelled .none others

end

/-- Printed data are a written form of their document. -/
theorem isWrittenAs_render {data : Json} (literals : data.HasLiterals) :
    data.document.IsWrittenAs data.render := by
  refine ⟨characters data, [], ?_, ?_, .none⟩
  · rw [render, String.toList_ofList]
    exact .none
  · have spelled := document_spelled data literals []
    rw [List.append_nil] at spelled
    exact spelled

end GranuleRecall.Json
