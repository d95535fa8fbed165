import Parley.Definition.EventData
/-!
A machine as its author writes it, before anything in it is looked up or checked.

Names of protocols and rules are still texts. States keep their order, and a state that is written
twice stands there twice.
-/

namespace Parley

inductive MachineKind where
  /-- Notifications about a conversation. -/
  | conversation
  /-- Messages of a backend channel. -/
  | backend
  deriving DecidableEq, Inhabited

namespace MachineKind

def name : MachineKind → String
  | conversation => "conversation"
  | backend => "backend"

def ofName? : String → Option MachineKind
  | "conversation" => some conversation
  | "backend" => some backend
  | _ => none

end MachineKind

structure Draft.Event where
  protocol : String
  typeId : Option String
  rule : Option String
  data : Option String
  eventData : Option EventData
  /-- The sender does not want to hear how the send ends. -/
  noStatus : Bool
  deriving DecidableEq

structure Draft.Transition where
  trigger : Option Draft.Event
  sends : List Draft.Event
  target : String
  deriving DecidableEq

structure Draft.State where
  transitions : List Draft.Transition
  terminate : Bool
  deriving DecidableEq

structure Draft where
  name : String
  kind : MachineKind
  keepMemory : Bool
  initial : Draft.Transition
  states : List (String × Draft.State)
  deriving DecidableEq

end Parley
