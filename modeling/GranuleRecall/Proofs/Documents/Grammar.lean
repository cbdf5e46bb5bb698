import GranuleRecall.Json.NumberLiteral
import GranuleRecall.Json.QuotedText

/-! # Documents and their texts

A JSON document apart from its layout, and which texts it is written as. The grammar says this
without a reader: `Spelled document text rest` holds when the text begins with a written form of
the document and the rest is what follows it. -/

set_option autoImplicit false

namespace GranuleRecall.Json

open Decimal

/-- A document as it is written: numbers digit by digit, members in their order, names as often
as they stand there. A text whose escapes leave a surrogate unpaired has no content. -/
inductive Document
  | null
  | bool (value : Bool)
  | number (literal : NumberLiteral)
  | text (content : Option String)
  | array (elements : List Document)
  | object (members : List (Option String × Document))

instance : Inhabited Document := ⟨.null⟩

inductive Blanks : List Char → List Char → Prop
  | none {text : List Char} : Blanks text text
  | more {character : Char} {text rest : List Char} :
      isBlank character = true → Blanks text rest → Blanks (character :: text) rest

/-! ## Numbers -/

/-- One digit or more, given by their values. -/
inductive DigitRun : List Nat → List Char → List Char → Prop
  | last {character : Char} {value : Nat} {rest : List Char} :
      digitValue? character = some value → DigitRun [value] (character :: rest) rest
  | more {character : Char} {value : Nat} {values : List Nat} {text rest : List Char} :
      digitValue? character = some value → DigitRun values text rest →
      DigitRun (value :: values) (character :: text) rest

/-- The digits before the point: a single zero, or digits of which the first is not zero. -/
inductive WholePart : List Nat → List Char → List Char → Prop
  | zero {rest : List Char} : WholePart [0] ('0' :: rest) rest
  | digits {value : Nat} {values : List Nat} {text rest : List Char} :
      value ≠ 0 → DigitRun (value :: values) text rest → WholePart (value :: values) text rest

inductive FractionPart : Option (List Nat) → List Char → List Char → Prop
  | missing {rest : List Char} : FractionPart none rest rest
  | places {values : List Nat} {text rest : List Char} :
      DigitRun values text rest → FractionPart (some values) ('.' :: text) rest

def isExponentMark (character : Char) : Bool :=
  character == 'e' || character == 'E'

inductive ExponentPart : Option (Bool × List Nat) → List Char → List Char → Prop
  | missing {rest : List Char} : ExponentPart none rest rest
  | unsigned {mark : Char} {values : List Nat} {text rest : List Char} :
      isExponentMark mark = true → DigitRun values text rest →
      ExponentPart (some (false, values)) (mark :: text) rest
  | plus {mark : Char} {values : List Nat} {text rest : List Char} :
      isExponentMark mark = true → DigitRun values text rest →
      ExponentPart (some (false, values)) (mark :: '+' :: text) rest
  | minus {mark : Char} {values : List Nat} {text rest : List Char} :
      isExponentMark mark = true → DigitRun values text rest →
      ExponentPart (some (true, values)) (mark :: '-' :: text) rest

inductive NumberLiteral.Unsigned : NumberLiteral → List Char → List Char → Prop
  | parts {negative : Bool} {whole : List Nat} {fraction : Option (List Nat)}
      {exponent : Option (Bool × List Nat)} {text afterWhole afterFraction rest : List Char} :
      WholePart whole text afterWhole → FractionPart fraction afterWhole afterFraction →
      ExponentPart exponent afterFraction rest →
      Unsigned ⟨negative, whole, fraction, exponent⟩ text rest

inductive NumberLiteral.Spelled : NumberLiteral → List Char → List Char → Prop
  | positive {literal : NumberLiteral} {text rest : List Char} :
      literal.negative = false → literal.Unsigned text rest → Spelled literal text rest
  | negative {literal : NumberLiteral} {text rest : List Char} :
      literal.negative = true → literal.Unsigned text rest → Spelled literal ('-' :: text) rest

/-! ## Texts -/

/-- A part of a quoted text: a character, or a unit of 16 bits that an escape gives. -/
inductive Piece
  | character (value : Char)
  | unit (code : Nat)

inductive Piece.Spelled : Piece → List Char → List Char → Prop
  | plain {character : Char} {rest : List Char} :
      character ≠ '"' → character ≠ '\\' → 0x20 ≤ character.toNat →
      Spelled (.character character) (character :: rest) rest
  | escape {mark meant : Char} {rest : List Char} :
      simpleEscape? mark = some meant → Spelled (.character meant) ('\\' :: mark :: rest) rest
  | unit {first second third fourth : Char} {code : Nat} {rest : List Char} :
      hexValueOfFour? first second third fourth = some code →
      Spelled (.unit code) ('\\' :: 'u' :: first :: second :: third :: fourth :: rest) rest

/-- Pieces up to the closing quote, and what follows the quote. -/
inductive PiecesSpelled : List Piece → List Char → List Char → Prop
  | close {rest : List Char} : PiecesSpelled [] ('"' :: rest) rest
  | more {piece : Piece} {pieces : List Piece} {text following rest : List Char} :
      piece.Spelled text following → PiecesSpelled pieces following rest →
      PiecesSpelled (piece :: pieces) text rest

def isLeading (code : Nat) : Bool :=
  0xD800 ≤ code && code ≤ 0xDBFF

def isTrailing (code : Nat) : Bool :=
  0xDC00 ≤ code && code ≤ 0xDFFF

/-- The characters that pieces stand for: two units that are the surrogates of a pair stand for
one, and an unpaired surrogate for none. -/
def Piece.meaning : List Piece → Option (List Char)
  | [] => some []
  | .character value :: later => (meaning later).map (value :: ·)
  | .unit code :: later =>
    if isTrailing code then none
    else if isLeading code then
      match later with
      | .unit second :: later =>
        if isTrailing second then
          (meaning later).map
            (Char.ofNat ((code - 0xD800) * 0x400 + (second - 0xDC00) + 0x10000) :: ·)
        else none
      | _ => none
    else (meaning later).map (Char.ofNat code :: ·)

/-- What stands after an opening quote. -/
def TextSpelled (content : Option String) (text rest : List Char) : Prop :=
  ∃ pieces, PiecesSpelled pieces text rest ∧ content = (Piece.meaning pieces).map String.ofList

/-- A member's name up to the colon, and what follows the colon. -/
inductive NameSpelled : Option String → List Char → List Char → Prop
  | quoted {name : Option String} {text named afterName rest : List Char} :
      Blanks text ('"' :: named) → TextSpelled name named afterName →
      Blanks afterName (':' :: rest) → NameSpelled name text rest

/-! ## Documents -/

mutual

inductive Document.Spelled : Document → List Char → List Char → Prop
  | nullWord {rest : List Char} :
      Document.Spelled .null ('n' :: 'u' :: 'l' :: 'l' :: rest) rest
  | trueWord {rest : List Char} :
      Document.Spelled (.bool true) ('t' :: 'r' :: 'u' :: 'e' :: rest) rest
  | falseWord {rest : List Char} :
      Document.Spelled (.bool false) ('f' :: 'a' :: 'l' :: 's' :: 'e' :: rest) rest
  | number {literal : NumberLiteral} {text rest : List Char} :
      literal.Spelled text rest → Document.Spelled (.number literal) text rest
  | text {content : Option String} {text rest : List Char} :
      TextSpelled content text rest → Document.Spelled (.text content) ('"' :: text) rest
  | emptyArray {text rest : List Char} :
      Blanks text (']' :: rest) → Document.Spelled (.array []) ('[' :: text) rest
  | array {elements : List Document} {text rest : List Char} :
      ElementsSpelled elements text rest → Document.Spelled (.array elements) ('[' :: text) rest
  | emptyObject {text rest : List Char} :
      Blanks text ('\x7d' :: rest) → Document.Spelled (.object []) ('\x7b' :: text) rest
  | object {members : List (Option String × Document)} {text rest : List Char} :
      MembersSpelled members text rest → Document.Spelled (.object members) ('\x7b' :: text) rest

/-- Elements up to the closing bracket, and what follows the bracket. -/
inductive ElementsSpelled : List Document → List Char → List Char → Prop
  | last {element : Document} {text begun ended rest : List Char} :
      Blanks text begun → Document.Spelled element begun ended → Blanks ended (']' :: rest) →
      ElementsSpelled [element] text rest
  | more {element : Document} {elements : List Document}
      {text begun ended following rest : List Char} :
      Blanks text begun → Document.Spelled element begun ended → Blanks ended (',' :: following) →
      ElementsSpelled elements following rest → ElementsSpelled (element :: elements) text rest

/-- Members up to the closing brace, and what follows the brace. -/
inductive MembersSpelled : List (Option String × Document) → List Char → List Char → Prop
  | last {name : Option String} {value : Document}
      {text afterName begun ended rest : List Char} :
      NameSpelled name text afterName → Blanks afterName begun →
      Document.Spelled value begun ended → Blanks ended ('\x7d' :: rest) →
      MembersSpelled [(name, value)] text rest
  | more {name : Option String} {value : Document} {members : List (Option String × Document)}
      {text afterName begun ended following rest : List Char} :
      NameSpelled name text afterName → Blanks afterName begun →
      Document.Spelled value begun ended → Blanks ended (',' :: following) →
      MembersSpelled members following rest → MembersSpelled ((name, value) :: members) text rest

end

/-- A whole text that the document is written as, with blanks around it. -/
def Document.IsWrittenAs (document : Document) (text : String) : Prop :=
  ∃ begun ended, Blanks text.toList begun ∧ document.Spelled begun ended ∧ Blanks ended []

end GranuleRecall.Json
