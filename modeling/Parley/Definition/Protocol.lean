import Parley.Text.Blank
import Parley.Text.LetterCase
/-!
The protocols an event can belong to, and the two sides of a transition it can stand on.
-/

namespace Parley

inductive Protocol where
  | basicMessage
  | issueCredential
  | presentProof
  | trustPing
  /-- The reply to a question. -/
  | answer
  /-- A call of the user's own. -/
  | hook
  /-- A channel beside the credential protocols. -/
  | backend
  /-- What a machine sends to itself. -/
  | transient
  | email
  deriving DecidableEq, Inhabited

namespace Protocol

def name : Protocol → String
  | basicMessage => "basic_message"
  | issueCredential => "issue_credential"
  | presentProof => "present_proof"
  | trustPing => "trust_ping"
  | answer => "answer"
  | hook => "hook"
  | backend => "backend"
  | transient => "transient"
  | email => "email"

def ofName? : String → Option Protocol
  | "basic_message" => some basicMessage
  | "issue_credential" => some issueCredential
  | "present_proof" => some presentProof
  | "trust_ping" => some trustPing
  | "answer" => some answer
  | "hook" => some hook
  | "backend" => some backend
  | "transient" => some transient
  | "email" => some email
  | _ => none

def ofAlias? : String → Option Protocol
  | "basicmessage" => some basicMessage
  | "issue_cred" => some issueCredential
  | "issuecredential" => some issueCredential
  | "presentproof" => some presentProof
  | "proof" => some presentProof
  | "trustping" => some trustPing
  | "qa" => some answer
  | _ => none

/-- A name or an alias as an author writes it: blanks around it and the case of its letters do not
matter. -/
def parse? (text : String) : Option Protocol :=
  let word := Text.lower (Text.trim text)
  ofName? word <|> ofAlias? word

theorem ofName?_name (protocol : Protocol) : ofName? protocol.name = some protocol := by
  cases protocol <;> rfl

end Protocol

inductive Side where
  | trigger
  | send
  deriving DecidableEq

namespace Side

def name : Side → String
  | trigger => "trigger"
  | send => "send"

end Side

/-- Nothing comes in by email. -/
def Protocol.allowedOn (protocol : Protocol) : Side → Bool
  | .trigger => protocol ≠ .email
  | .send => true

end Parley
