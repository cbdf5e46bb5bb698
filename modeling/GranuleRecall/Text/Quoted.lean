import GranuleRecall.Text.Unprintable
import GranuleRecall.Decimal.Digits

/-! # Text in messages

A text between quotes as it stands in a message: backslashes, double quotes and characters that
cannot be seen by themselves are escaped. -/
set_option autoImplicit false

namespace GranuleRecall.Text

open Decimal

def codePointEscape (character : Char) : List Char :=
  '\\' :: 'u' :: '\x7b' :: hexDigits character.toNat ++ ['\x7d']

/-- How a character stands in a message. Characters that join to the one before them count as
not seen by themselves. -/
def shownInMessage (character : Char) : List Char :=
  if character = '\x00' then ['\\', '0']
  else if character = '\t' then ['\\', 't']
  else if character = '\n' then ['\\', 'n']
  else if character = '\r' then ['\\', 'r']
  else if character = '"' then ['\\', '"']
  else if character = '\\' then ['\\', '\\']
  else if isUnprintable character then codePointEscape character
  else [character]

def quotedForMessage (text : String) : String :=
  String.ofList ('"' :: text.toList.flatMap shownInMessage ++ ['"'])

end GranuleRecall.Text
