import GranuleRecall.Run.Trace
import GranuleRecall.Service.Reply

/-! # The queue as a remote service

What is sent along with the body of a message, and what the replies of the queue mean. Runs know
the queue only as `Services`. -/
set_option autoImplicit false

namespace GranuleRecall.Service.Queue

/-- The attributes that are sent along with a body: what is to be done, and to which table. -/
def attributes (message : Message) : List (String × String) :=
  [("RequestMethod", message.method.name), ("TableName", message.table.name)]

def attributeType : String := "String"

def refusal (queueUrl : String) (message : Message) : String :=
  s!"Failed to send {message.table.name} message to queue {queueUrl}"

def refused (queueUrl : String) (message : Message) (reason : String) : SendReply :=
  .refused [refusal queueUrl message, reason]

def sendReply (queueUrl : String) (message : Message) (reply : Reply) : SendReply :=
  if reply.succeeded then .accepted else refused queueUrl message reply.errorText

end GranuleRecall.Service.Queue
