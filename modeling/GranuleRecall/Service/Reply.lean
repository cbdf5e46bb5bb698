import GranuleRecall.Text.Quoted

/-! # Replies of remote services

What a remote service replies to one request, and the wording of a reply that is an error.

This belongs to the outer layer: the wording stands for the behaviour of a client library, and
nothing is proved of it. -/
set_option autoImplicit false

namespace GranuleRecall.Service

/-- A reply: its status, and the code and the message of its error document. Without a code
there is no document. -/
structure Reply where
  status : Nat
  code : String
  message : String
deriving DecidableEq, Repr

namespace Reply

def firstErrorStatus : Nat := 300

def succeeded (reply : Reply) : Bool :=
  reply.status < firstErrorStatus

def withoutDocument (reply : Reply) : Reply :=
  { reply with code := "", message := "" }

def errorText (reply : Reply) : String :=
  if reply.code.isEmpty then "service error: unhandled error: Error"
  else
    let code := Text.quotedForMessage reply.code
    let message := Text.quotedForMessage reply.message
    s!"service error: unhandled error ({reply.code}): " ++
      "Error \x7b code: " ++ code ++ ", message: " ++ message ++ " \x7d"

end Reply

end GranuleRecall.Service
