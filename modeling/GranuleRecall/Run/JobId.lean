import GranuleRecall.Decimal.Digits

/-! # Job ids

A job without an id of its own gets a random one: sixteen random bytes in the written form of a
UUID, of which six bits are fixed to tell its version (4) and its variant (binary 10). -/
set_option autoImplicit false

namespace GranuleRecall.JobId

open Decimal

def byteText (byte : Nat) : List Char :=
  [hexDigitOf (byte / 16 % 16), hexDigitOf (byte % 16)]

/-- The byte at some place, with the fixed bits in it. A byte that is not there is zero. -/
def byteAt (random : List UInt8) (place : Nat) : Nat :=
  let byte := (random[place]?.getD 0).toNat
  if place = 6 then 0x40 + byte % 16
  else if place = 8 then 0x80 + byte % 64
  else byte

/-- The lengths of the groups between hyphens, in bytes, and where each begins. -/
def groups : List (Nat × Nat) :=
  [(0, 4), (4, 2), (6, 2), (8, 2), (10, 6)]

def groupText (random : List UInt8) (group : Nat × Nat) : String :=
  String.ofList ((List.range group.2).flatMap fun offset =>
    byteText (byteAt random (group.1 + offset)))

def ofRandom (random : List UInt8) : String :=
  String.intercalate "-" (groups.map (groupText random))

end GranuleRecall.JobId
