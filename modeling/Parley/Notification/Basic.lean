import Parley.Definition.Protocol
import Parley.Json.Printer
/-!
What the outside tells a machine.
-/

namespace Parley

inductive Progress where
  | done
  /-- It waits for a decision of ours. -/
  | waiting
  | declined
  | failed
  deriving DecidableEq

structure ProofValue where
  name : String
  value : String
  credDefId : Option String
  deriving DecidableEq

inductive StatusPayload where
  | basicMessage (content : String)
  | issuing (credDefId attrs : String)
  | proof (values : List ProofValue)
  | none
  deriving DecidableEq

structure Status where
  connection : String
  protocolId : String
  protocol : Protocol
  progress : Progress
  /-- The protocol was started on this side. -/
  ours : Bool
  payload : StatusPayload
  deriving DecidableEq

structure Question where
  id : String
  connection : String
  values : List ProofValue
  deriving DecidableEq

structure HookData where
  connection : String
  data : TextMap String
  deriving DecidableEq

structure BackendMessage where
  connection : String
  protocol : String
  subject : String
  content : String
  deriving DecidableEq

inductive Notification where
  | status (change : Status)
  | question (asked : Question)
  | hook (data : HookData)
  | backend (message : BackendMessage)
  /-- The stream is still there. -/
  | keepAlive
  deriving DecidableEq

def ProofValue.byName (values : List ProofValue) : TextMap String :=
  TextMap.ofList (values.map fun value => (value.name, value.value))

def ProofValue.content (values : List ProofValue) : String := (Json.ofTextMap (byName values)).print

def StatusPayload.content : StatusPayload → String
  | basicMessage content => content
  | issuing _ attrs => attrs
  | proof values => ProofValue.content values
  | none => ""

def Status.content (status : Status) : String := status.payload.content

def Question.content (question : Question) : String := ProofValue.content question.values

def HookData.content (hook : HookData) : String := (Json.ofTextMap hook.data).print

def Status.message (connection protocolId content : String) : Status where
  connection := connection
  protocolId := protocolId
  protocol := .basicMessage
  progress := .done
  ours := false
  payload := .basicMessage content

namespace Notification

def connection? : Notification → Option String
  | status change => some change.connection
  | question asked => some asked.connection
  | hook data => some data.connection
  | backend message => some message.connection
  | keepAlive => none

def kind : Notification → String
  | status _ => "status"
  | question _ => "question"
  | hook _ => "hook"
  | backend _ => "backend"
  | keepAlive => "keep_alive"

/-- What the rules of triggers look at, where it stands in a field of its own or is made of
several. -/
def content? : Notification → Option String
  | status change => some change.content
  | question asked => some asked.content
  | hook data => some data.content
  | backend _ | keepAlive => none

def isKeepAlive : Notification → Bool
  | keepAlive => true
  | _ => false

end Notification
end Parley
