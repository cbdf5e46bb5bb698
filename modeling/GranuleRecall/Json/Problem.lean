/-! # Problems in JSON texts

What can be wrong with a JSON text or with the data in it, where it is reported, and the wording.
-/
set_option autoImplicit false

namespace GranuleRecall.Json

/-- A place in a text: the number of its line, from one, and the count of bytes of that line up
to the place. -/
structure Position where
  line : Nat := 1
  column : Nat := 0
deriving DecidableEq, Repr

def Position.after (position : Position) (character : Char) : Position :=
  if character = '\n' then ⟨position.line + 1, 0⟩
  else ⟨position.line, position.column + character.utf8Size⟩

def Position.afterByte (position : Position) (character : Char) : Position :=
  if character = '\n' then ⟨position.line + 1, 0⟩ else ⟨position.line, position.column + 1⟩

inductive Fault
  | endInValue
  | endInText
  | endInArray
  | endInObject
  | expectedValue
  | expectedWord
  | expectedColon
  | expectedArrayEnd
  | expectedObjectEnd
  | nameNotText
  | commaBeforeEnd
  | textAfterEnd
  | invalidNumber
  | numberOutOfRange
  | invalidEscape
  | loneSurrogate
  | unfinishedSurrogate
  | controlCharacter
  | tooDeep
  /-- Data of one kind where another is wanted. -/
  | wrongKind (found wanted : String)
  | repeatedField (name : String)
  | missingField (name : String)
  | wrongLength (length : Nat) (wanted : String) (fields : Nat)
deriving DecidableEq, Repr

def Fault.message : Fault → String
  | .endInValue => "EOF while parsing a value"
  | .endInText => "EOF while parsing a string"
  | .endInArray => "EOF while parsing a list"
  | .endInObject => "EOF while parsing an object"
  | .expectedValue => "expected value"
  | .expectedWord => "expected ident"
  | .expectedColon => "expected `:`"
  | .expectedArrayEnd => "expected `,` or `]`"
  | .expectedObjectEnd => "expected `,` or `\x7d`"
  | .nameNotText => "key must be a string"
  | .commaBeforeEnd => "trailing comma"
  | .textAfterEnd => "trailing characters"
  | .invalidNumber => "invalid number"
  | .numberOutOfRange => "number out of range"
  | .invalidEscape => "invalid escape"
  | .loneSurrogate => "lone leading surrogate in hex escape"
  | .unfinishedSurrogate => "unexpected end of hex escape"
  | .controlCharacter => "control character (\\u0000-\\u001F) found while parsing a string"
  | .tooDeep => "recursion limit exceeded"
  | .wrongKind found wanted => s!"invalid type: {found}, expected {wanted}"
  | .repeatedField name => s!"duplicate field `{name}`"
  | .missingField name => s!"missing field `{name}`"
  | .wrongLength length wanted fields =>
    s!"invalid length {length}, expected {wanted} with {fields} elements"

structure Problem where
  fault : Fault
  position : Position
deriving DecidableEq, Repr

def Problem.message (problem : Problem) : String :=
  s!"{problem.fault.message} at line {problem.position.line} column {problem.position.column}"

end GranuleRecall.Json
