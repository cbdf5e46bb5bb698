import GranuleRecall.Json.Cursor
import GranuleRecall.Decimal.Digits

/-! # Quoted texts

Reading what stands between quotes. Where the text is wanted, escapes of surrogates have to come
in pairs; where it is only passed over, they need not. -/
set_option autoImplicit false

namespace GranuleRecall.Json

open Decimal

def hexValueOfFour? (first second third fourth : Char) : Option Nat := do
  let a ← hexValue? first
  let b ← hexValue? second
  let c ← hexValue? third
  let d ← hexValue? fourth
  return ((a * 16 + b) * 16 + c) * 16 + d

/-- The problem with what stands in place of four hexadecimal digits: the text ends before four
bytes have been read, or those bytes are not digits. -/
def faultyHex (cursor : Cursor) : Problem :=
  let size := (cursor.unread.take 4).foldl (fun size character => size + character.utf8Size) 0
  if size < 4 then ⟨.endInText, cursor.finish⟩
  else ⟨.invalidEscape, Cursor.placeAfterBytes 4 cursor.unread cursor.position⟩

def readHex (cursor : Cursor) : Except Problem (Nat × Cursor) :=
  match cursor.unread with
  | first :: second :: third :: fourth :: _ =>
    match hexValueOfFour? first second third fourth with
    | some value => .ok (value, cursor.next.next.next.next)
    | none => .error (faultyHex cursor)
  | _ => .error (faultyHex cursor)

def simpleEscape? (character : Char) : Option Char :=
  if character = '"' then some '"'
  else if character = '\\' then some '\\'
  else if character = '/' then some '/'
  else if character = 'b' then some '\x08'
  else if character = 'f' then some '\x0c'
  else if character = 'n' then some '\n'
  else if character = 'r' then some '\r'
  else if character = 't' then some '\t'
  else none

/-- Past a character that has to come next in an escape of a surrogate pair. -/
def expectInPair (cursor : Cursor) (wanted : Char) : Except Problem Cursor :=
  match cursor.unread with
  | [] => .error (cursor.here .endInText)
  | character :: _ =>
    if character = wanted then .ok cursor.next
    else .error (cursor.atNext .unfinishedSurrogate)

def readCodeUnits (cursor : Cursor) : Except Problem (Char × Cursor) := do
  let (unit, afterUnit) ← readHex cursor
  if 0xDC00 ≤ unit ∧ unit ≤ 0xDFFF then
    throw (afterUnit.here .loneSurrogate)
  else if unit < 0xD800 ∨ 0xDBFF < unit then
    return (Char.ofNat unit, afterUnit)
  else
    let afterBackslash ← expectInPair afterUnit '\\'
    let afterMark ← expectInPair afterBackslash 'u'
    let (second, afterPair) ← readHex afterMark
    if second < 0xDC00 ∨ 0xDFFF < second then
      throw (afterPair.here .loneSurrogate)
    else
      return (Char.ofNat ((unit - 0xD800) * 0x400 + (second - 0xDC00) + 0x10000), afterPair)

def readEscape (cursor : Cursor) : Except Problem (Char × Cursor) :=
  match cursor.unread with
  | [] => .error (cursor.here .endInText)
  | character :: _ =>
    match simpleEscape? character with
    | some meant => .ok (meant, cursor.next)
    | none =>
      if character = 'u' then readCodeUnits cursor.next
      else .error (cursor.atNext .invalidEscape)

def skipEscape (cursor : Cursor) : Except Problem Cursor :=
  match cursor.unread with
  | [] => .error (cursor.here .endInText)
  | character :: _ =>
    if (simpleEscape? character).isSome then .ok cursor.next
    else if character = 'u' then (readHex cursor.next).map Prod.snd
    else .error (cursor.atNext .invalidEscape)

/-- The characters up to the closing quote. The first argument bounds the count of characters
and escapes. -/
def readTextWithin : Nat → Cursor → Except Problem (List Char × Cursor)
  | 0, cursor => .error (cursor.here .endInText)
  | fuel + 1, cursor =>
    match cursor.unread with
    | [] => .error (cursor.here .endInText)
    | character :: _ =>
      if character = '"' then .ok ([], cursor.next)
      else if character = '\\' then do
        let (meant, following) ← readEscape cursor.next
        let (others, ending) ← readTextWithin fuel following
        return (meant :: others, ending)
      else if character.toNat < 0x20 then .error (cursor.atNext .controlCharacter)
      else do
        let (others, ending) ← readTextWithin fuel cursor.next
        return (character :: others, ending)

def skipTextWithin : Nat → Cursor → Except Problem Cursor
  | 0, cursor => .error (cursor.here .endInText)
  | fuel + 1, cursor =>
    match cursor.unread with
    | [] => .error (cursor.here .endInText)
    | character :: _ =>
      if character = '"' then .ok cursor.next
      else if character = '\\' then do
        let following ← skipEscape cursor.next
        skipTextWithin fuel following
      else if character.toNat < 0x20 then .error (cursor.here .controlCharacter)
      else skipTextWithin fuel cursor.next

def readText (cursor : Cursor) : Except Problem (String × Cursor) :=
  (readTextWithin (cursor.unread.length + 1) cursor).map fun (read, ending) =>
    (String.ofList read, ending)

def skipText (cursor : Cursor) : Except Problem Cursor :=
  skipTextWithin (cursor.unread.length + 1) cursor

/-- A text whose end has been found: what it says, or the problem with its escapes. -/
structure ScannedText where
  content : Except Problem String
  ending : Cursor

def scanText (cursor : Cursor) : Except Break ScannedText :=
  match skipText cursor with
  | .ok ending => .ok ⟨(readText cursor).map Prod.fst, ending⟩
  | .error skipped =>
    match readText cursor with
    | .error read => .error ⟨read, skipped⟩
    | .ok _ => .error (.always skipped)

end GranuleRecall.Json
