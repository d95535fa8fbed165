import Parley.Document.OfJson
import Parley.Json.Parser
import Parley.Notification.Encode
/-!
Reading notifications. Names are taken exactly as they are written.
-/

namespace Parley

open Document

/-- The value of the field that tells kinds apart, and everything else. In a list it comes first. -/
def Document.tagged? (tag : String) : Document → Option (Document × Document)
  | .record entries =>
    match entries.filter (·.1 = some tag) with
    | [(_, kind)] => some (kind, .record (entries.filter (·.1 ≠ some tag)))
    | _ => none
  | .list (kind :: rest) => some (kind, .list rest)
  | _ => none

/-- A kind by its name or by its place among the names. -/
def Document.kindAmong? (names : List String) (kind : Document) : Option String :=
  match kind with
  | .scalar readings =>
    match readings.text?, readings.count? with
    | some name, _ => if name ∈ names then some name else none
    | none, some place => names[place]?
    | none, none => none
  | _ => none

/-- Nothing that follows is looked at, but a list must end. -/
def Document.isIgnorable : Document → Bool
  | .list rest => rest.isEmpty
  | _ => true

def Progress.ofName? : String → Option Progress
  | "ok" => some done
  | "waiting" => some waiting
  | "nack" => some declined
  | "error" => some failed
  | _ => none

def ProofValue.ofDocument? (document : Document) : Option ProofValue := do
  let [name, value, credDefId] ← document.fields? ["name", "value", "cred_def_id"] | none
  some
    { name := ← required text? name
      value := ← required text? value
      credDefId := ← optional text? credDefId }

def ProofValue.attributes? (document : Document) : Option (List ProofValue) := do
  let [attributes] ← document.fields? ["attributes"] | none
  required (listOf ProofValue.ofDocument?) attributes

def StatusPayload.ofDocument? (document : Document) : Option StatusPayload := do
  let (kind, rest) ← document.tagged? "kind"
  match ← kind.kindAmong? ["basic_message", "issuing", "proof", "none"] with
  | "basic_message" => do
    let [content] ← rest.fields? ["content"] | none
    some (.basicMessage (← required text? content))
  | "issuing" => do
    let [credDefId, attrs] ← rest.fields? ["cred_def_id", "attrs"] | none
    some (.issuing (← required text? credDefId) (← required text? attrs))
  | "proof" => (ProofValue.attributes? rest).map .proof
  | _ => if rest.isIgnorable then some .none else none

def Status.ofDocument? (document : Document) : Option Status := do
  let [connection, protocolId, protocol, progress, ours, payload] ←
    document.fields? ["conn_id", "protocol_id", "protocol", "state", "initiated_by_us", "payload"]
    | none
  some
    { connection := ← required text? connection
      protocolId := ← required text? protocolId
      protocol := ← required (choice? Protocol.ofName?) protocol
      progress := ← required (choice? Progress.ofName?) progress
      ours := ← defaulted truth? false ours
      payload := ← defaulted StatusPayload.ofDocument? .none payload }

/-- The fields of a question and those of its kind stand side by side. -/
def Question.ofDocument? (document : Document) : Option Question :=
  match document with
  | .record entries => do
    let [id, connection] ← document.fields? ["id", "conn_id"] | none
    let own := entries.filter fun entry => entry.1 ≠ some "id" && entry.1 ≠ some "conn_id"
    let (kind, rest) ← (Document.record own).tagged? "kind"
    let _ ← kind.kindAmong? ["proof_verify"]
    some
      { id := ← required text? id
        connection := ← required text? connection
        values := ← ProofValue.attributes? rest }
  | _ => none

def HookData.ofDocument? (document : Document) : Option HookData := do
  let [connection, data] ← document.fields? ["conn_id", "data"] | none
  some
    { connection := ← required text? connection
      data := ← defaulted texts? .empty data }

def BackendMessage.ofDocument? (document : Document) : Option BackendMessage := do
  let [connection, protocol, subject, content] ←
    document.fields? ["conn_id", "protocol", "subject", "content"] | none
  some
    { connection := ← required text? connection
      protocol := ← defaulted text? "" protocol
      subject := ← defaulted text? "" subject
      content := ← required text? content }

namespace Notification

def ofDocument? (document : Document) : Option Notification := do
  let (kind, rest) ← document.tagged? "type"
  match ← text? kind with
  | "status" => (Status.ofDocument? rest).map status
  | "question" => (Question.ofDocument? rest).map question
  | "hook" => (HookData.ofDocument? rest).map hook
  | "backend" => (BackendMessage.ofDocument? rest).map backend
  | "keep_alive" => if rest.isIgnorable then some keepAlive else none
  | _ => none

def parse? (text : String) : Option Notification :=
  (Json.parseStrict text).bind fun value => ofDocument? (Document.ofJson value)

end Notification
end Parley
