import Parley.TextMap
/-!
The calls that a conversation makes to the outside.

A client accepts a call or refuses it. What it does may depend on the call and on everything that
was tried before.
-/

namespace Parley

inductive Call where
  | basicMessage (connection content : String)
  | issueCredential (connection credDefId attrs : String)
  | requestProof (connection attributes : String)
  | trustPing (connection : String)
  /-- The answer to a question. -/
  | answer (questionId : String) (ack : Bool) (info : String)
  /-- The decision about a protocol that waits for it. -/
  | resume (connection protocolId : String) (accept : Bool)
  | email (recipient source subject body : String)
  | hook (connection : String) (data : TextMap String) (content : String)
  | backend (connection subject content : String)
  deriving DecidableEq

def Call.kind : Call → String
  | basicMessage _ _ => "basic_message"
  | issueCredential _ _ _ => "issue_credential"
  | requestProof _ _ => "request_proof"
  | trustPing _ => "trust_ping"
  | answer _ _ _ => "answer"
  | resume _ _ _ => "resume"
  | email _ _ _ _ => "email"
  | hook _ _ _ => "hook"
  | backend _ _ _ => "backend"

inductive ClientError where
  | connectionNotFound (connection : String)
  | transport (reason : String)
  | rejected (reason : String)
  | closed
  deriving DecidableEq

namespace ClientError

def message : ClientError → String
  | connectionNotFound connection => "connection not found: " ++ connection
  | transport reason => "transport error: " ++ reason
  | rejected reason => "request rejected: " ++ reason
  | closed => "client closed"

def isRetryable : ClientError → Bool
  | transport _ => true
  | _ => false

end ClientError

structure Attempt where
  /-- The connection whose conversation made the call. -/
  connection : String
  call : Call
  refusal : Option ClientError
  deriving DecidableEq

structure Client where
  /-- Whether a call is refused after earlier attempts, of which the last one comes first. -/
  refuses : List Attempt → Call → Option ClientError

def Client.refusing (refuses : Call → Bool) : Client where
  refuses _ call := if refuses call then some (.transport "refused") else none

def Client.failing (reason : String) : Client where
  refuses _ _ := some (.transport reason)

def acceptedCalls (attempts : List Attempt) : List Call :=
  (attempts.reverse.filter fun attempt => attempt.refusal.isNone).map (·.call)

end Parley
