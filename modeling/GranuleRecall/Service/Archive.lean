import GranuleRecall.Run.Trace
import GranuleRecall.Service.Reply

/-! # The archive as a remote service

How the archive is asked for an object and for its restore, and what its replies mean.

This belongs to the outer layer: what is put on the wire and read from it stands for the behaviour
of a client library. Runs know the archive only as `Services`, and nothing is proved of this
module. -/
set_option autoImplicit false

namespace GranuleRecall.Service.Archive

/-! ## Requests -/

/-- Whether a byte stands for itself in a path: letters and digits of ASCII, and `-._~`. -/
def isUnreserved (byte : UInt8) : Bool :=
  let character := Char.ofNat byte.toNat
  byte < 0x80 && (character.isAlphanum || "-._~".toList.contains character)

def upperHexDigit (digit : Nat) : Char :=
  Char.ofNat (if digit < 10 then 0x30 + digit else 0x41 + (digit - 10))

def pathByte (byte : UInt8) : List Char :=
  if isUnreserved byte then [Char.ofNat byte.toNat]
  else ['%', upperHexDigit (byte.toNat / 16), upperHexDigit (byte.toNat % 16)]

def pathSegment (segment : String) : String :=
  String.ofList (segment.toUTF8.toList.flatMap pathByte)

def objectPath (bucket key : String) : String :=
  String.join ((bucket :: key.splitOn "/").map fun segment => "/" ++ pathSegment segment)

def restoreQuery : String := "restore"

/-- The document of a request for a restore, whose elements are in some namespace. -/
def restoreDocument (documentNamespace : String) (days : Int) (tier : Tier) : String :=
  "<RestoreRequest xmlns=\"" ++ documentNamespace ++ "\">" ++
    s!"<Days>{days}</Days>" ++
    s!"<GlacierJobParameters><Tier>{tier.name}</Tier></GlacierJobParameters>" ++
    "</RestoreRequest>"

/-! ## Replies -/

def notFoundStatus : Nat := 404

def probeReply (reply : Reply) : ProbeReply :=
  if reply.succeeded then .present
  else if reply.status = notFoundStatus then .absent
  else .unknown reply.withoutDocument.errorText

def restoreReply (reply : Reply) : RestoreReply :=
  if reply.succeeded then .accepted else .rejected reply.errorText

end GranuleRecall.Service.Archive
