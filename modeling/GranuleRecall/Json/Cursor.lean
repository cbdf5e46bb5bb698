import GranuleRecall.Json.Problem

/-! # Reading position

The unread part of a text together with its place. -/
set_option autoImplicit false

namespace GranuleRecall.Json

structure Cursor where
  unread : List Char
  position : Position
deriving Repr

def Cursor.start (text : String) : Cursor :=
  ⟨text.toList, {}⟩

namespace Cursor

def next (cursor : Cursor) : Cursor :=
  match cursor.unread with
  | [] => cursor
  | character :: remaining => ⟨remaining, cursor.position.after character⟩

/-- The place past the first byte of the next character; the end of the text at the end. -/
def seen (cursor : Cursor) : Position :=
  match cursor.unread with
  | [] => cursor.position
  | character :: _ => cursor.position.afterByte character

def here (cursor : Cursor) (fault : Fault) : Problem :=
  ⟨fault, cursor.position⟩

def atNext (cursor : Cursor) (fault : Fault) : Problem :=
  ⟨fault, cursor.seen⟩

def finish (cursor : Cursor) : Position :=
  cursor.unread.foldl Position.after cursor.position

/-- The place a count of bytes further on, inside a character if need be. -/
def placeAfterBytes : Nat → List Char → Position → Position
  | 0, _, position => position
  | _, [], position => position
  | count, character :: remaining, position =>
    if character.utf8Size ≤ count then
      placeAfterBytes (count - character.utf8Size) remaining (position.after character)
    else ⟨position.line, position.column + count⟩

end Cursor

def isBlank (character : Char) : Bool :=
  character == ' ' || character == '\n' || character == '\t' || character == '\r'

def skipBlanksFrom : List Char → Position → Cursor
  | [], position => ⟨[], position⟩
  | character :: remaining, position =>
    if isBlank character then skipBlanksFrom remaining (position.after character)
    else ⟨character :: remaining, position⟩

def Cursor.skipBlanks (cursor : Cursor) : Cursor :=
  skipBlanksFrom cursor.unread cursor.position

/-- A place where a text cannot be read on. Where the data is wanted and where it is only passed
over the problem may be worded or placed differently. -/
structure Break where
  whenRead : Problem
  whenSkipped : Problem
deriving DecidableEq, Repr

def Break.always (problem : Problem) : Break :=
  ⟨problem, problem⟩

end GranuleRecall.Json
