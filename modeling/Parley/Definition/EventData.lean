import Parley.TextMap
/-!
The structured part of an event, one kind for each sort of payload.
-/

namespace Parley

inductive EventData where
  | basicMessage (content : String)
  /-- The attributes are the template of a JSON document. -/
  | issuing (credDefId attrs : String)
  | proof (attributes : String)
  | hook (data : TextMap String)
  | backend (subject : Option String)
  | email (recipient source subject : String)
  | answer (ack : Bool)
  deriving DecidableEq

namespace EventData

inductive Kind where
  | basicMessage
  | issuing
  | proof
  | hook
  | backend
  | email
  | answer
  deriving DecidableEq

def Kind.name : Kind → String
  | .basicMessage => "basic_message"
  | .issuing => "issuing"
  | .proof => "proof"
  | .hook => "hook"
  | .backend => "backend"
  | .email => "email"
  | .answer => "answer"

def Kind.ofName? : String → Option Kind
  | "basic_message" => some .basicMessage
  | "issuing" => some .issuing
  | "proof" => some .proof
  | "hook" => some .hook
  | "backend" => some .backend
  | "email" => some .email
  | "answer" => some .answer
  | _ => none

def kind : EventData → Kind
  | basicMessage _ => .basicMessage
  | issuing _ _ => .issuing
  | proof _ => .proof
  | hook _ => .hook
  | backend _ => .backend
  | email _ _ _ => .email
  | answer _ => .answer

end EventData
end Parley
