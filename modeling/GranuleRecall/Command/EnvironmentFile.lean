import GranuleRecall.Text.WhiteSpace

/-! # Environment files

Further named values from a text with one `NAME=value` to a line. Values may be quoted, may use
values named before them, and may be followed by a comment. A name that already has a value
keeps it. The first line that cannot be read ends the reading.

This belongs to the outer layer: it stands for the behaviour of a library that reads such files.
What a command tells is proved for every environment, however its values came about. -/
set_option autoImplicit false

namespace GranuleRecall.Command

open Text

abbrev Environment := List (String × String)

def Environment.value? (environment : Environment) (name : String) : Option String :=
  (environment.find? (·.1 = name)).map Prod.snd

inductive Substitution
  | none
  | plain
  | braced
deriving DecidableEq, Repr

structure ValueState where
  inSingleQuotes : Bool := false
  inDoubleQuotes : Bool := false
  escaped : Bool := false
  /-- After a blank outside quotes only blanks and a comment may follow. -/
  ended : Bool := false
  substitution : Substitution := .none
  /-- The name that is to be substituted, reversed. -/
  name : List Char := []
  /-- The value so far, reversed. -/
  value : List Char := []

/-- The value with the named one appended; a name without a value adds nothing. -/
def ValueState.substituted (environment : Environment) (state : ValueState) : ValueState :=
  let found := (environment.value? (String.ofList state.name.reverse)).getD ""
  { state with name := [], value := found.toList.reverse ++ state.value, substitution := .none }

def isNameCharacter (character : Char) : Bool :=
  character.isAlphanum || (0x80 ≤ character.toNat && !isWhiteSpace character)

/-- One character of a value; none when it cannot stand there. -/
def ValueState.step (environment : Environment) (state : ValueState) (character : Char) :
    Option ValueState :=
  let push := fun (state : ValueState) => { state with value := character :: state.value }
  if state.ended then
    if character = ' ' ∨ character = '\t' then some state else Option.none
  else if state.escaped then
    let unescaped := { state with escaped := false }
    if "\\'\"$ ".toList.contains character then some (push unescaped)
    else if character = 'n' then some { unescaped with value := '\n' :: state.value }
    else Option.none
  else if state.inSingleQuotes then
    some (if character = '\'' then { state with inSingleQuotes := false } else push state)
  else if state.substitution ≠ .none then
    if isNameCharacter character then some { state with name := character :: state.name }
    else if state.substitution = .plain then
      if character = '\x7b' ∧ state.name = [] then some { state with substitution := .braced }
      else
        let substituted := state.substituted environment
        some (if character = '$' then { substituted with substitution := .plain }
          else push substituted)
    else
      some (if character = '\x7d' then state.substituted environment
        else { state with name := character :: state.name })
  else if character = '$' then some { state with substitution := .plain }
  else if state.inDoubleQuotes then
    some (if character = '"' then { state with inDoubleQuotes := false }
      else if character = '\\' then { state with escaped := true }
      else push state)
  else if character = '\'' then some { state with inSingleQuotes := true }
  else if character = '"' then some { state with inDoubleQuotes := true }
  else if character = '\\' then some { state with escaped := true }
  else if character = ' ' ∨ character = '\t' then some { state with ended := true }
  else some (push state)

def readValue (environment : Environment) (state : ValueState) : List Char → Option String
  | [] =>
    if state.substitution = .braced ∨ state.inSingleQuotes ∨ state.inDoubleQuotes then
      Option.none
    else some (String.ofList (state.substituted environment).value.reverse)
  | character :: remaining =>
    if state.ended ∧ character = '#' then
      some (String.ofList (state.substituted environment).value.reverse)
    else
      match state.step environment character with
      | Option.none => Option.none
      | some next => readValue environment next remaining

/-- The name at the front of a line: a letter or an underscore, then letters, digits,
underscores and points. -/
def readName (line : List Char) : Option (String × List Char) :=
  match line with
  | [] => none
  | first :: _ =>
    if first.isAlpha ∨ first = '_' then
      let name := line.takeWhile fun character =>
        character.isAlphanum || character == '_' || character == '.'
      some (String.ofList name, (line.drop name.length).dropWhile isWhiteSpace)
    else none

def afterEquals (line : List Char) : Option (List Char) :=
  match line with
  | '=' :: remaining => some (remaining.dropWhile isWhiteSpace)
  | _ => none

def readAssignment (environment : Environment) (line : List Char) :
    Option (String × String) := do
  let (first, afterFirst) ← readName line
  let (name, given) ← match afterEquals afterFirst with
    | some given => some (first, given)
    | none =>
      if first = "export" then do
        let (name, afterName) ← readName afterFirst
        let given ← afterEquals afterName
        some (name, given)
      else none
  match given with
  | [] | '#' :: _ => return (name, "")
  | _ => return (name, ← readValue environment {} given)

/-- What is known after a line, and what was given in the text before; none when the line cannot
be read. Names are looked up in the environment first and then among those given. -/
def readLine (known given : Environment) (line : List Char) :
    Option (Environment × Environment) :=
  let content := ((line.reverse.dropWhile isWhiteSpace).reverse).dropWhile isWhiteSpace
  match content with
  | [] | '#' :: _ => some (known, given)
  | _ =>
    match readAssignment (known ++ given) content with
    | none => none
    | some (name, value) =>
      let known := match known.value? name with
        | some _ => known
        | none => known ++ [(name, value)]
      some (known, (name, value) :: given)

def readLines (known given : Environment) : List (List Char) → Environment
  | [] => known
  | line :: others =>
    match readLine known given line with
    | none => known
    | some (known, given) => readLines known given others

/-- The names that a text may refer to: its longest runs of characters that names are made of. -/
def mentionedNames (content : List Char) : List String :=
  let isPart := fun (character : Char) =>
    isNameCharacter character || character == '_' || character == '.'
  ((content.splitBy fun left right => isPart left == isPart right).filter (·.all isPart)).map
    String.ofList

def linesOf : List Char → List (List Char)
  | [] => [[]]
  | '\n' :: remaining => [] :: linesOf remaining
  | character :: remaining =>
    match linesOf remaining with
    | line :: lines => (character :: line) :: lines
    | [] => [[character]]

def Environment.withFile (environment : Environment) (content : String) : Environment :=
  readLines environment [] (linesOf content.toList)

end GranuleRecall.Command
