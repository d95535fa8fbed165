import Parley.Definition.EventData
import Parley.Definition.Rule
/-!
What can be wrong with a machine, or go wrong while its sends are built.
-/

namespace Parley

inductive Fault where
  | missingInitialState (target : String)
  | multipleInitialStates (target : String) (count : Nat)
  | duplicateState (state : String)
  | unknownTarget (state target : String)
  | unknownProtocol (protocol : String)
  | unknownRule (rule : String)
  | unsupportedRule (protocol : Protocol) (rule : Rule) (side : Side)
  | unsupportedProtocol (protocol : Protocol) (side : Side)
  | missingEventData (protocol : Protocol) (kind : EventData.Kind)
  | initialTrigger
  | missingTrigger (state : String)
  | emptyScript (protocol : Protocol) (side : Side)
  /-- The text is not one, or not one of a machine. -/
  | unreadable
  | missingFile
  | badTemplate
  deriving DecidableEq

namespace Fault

def code : Fault → String
  | missingInitialState _ => "MISSING_INITIAL_STATE"
  | multipleInitialStates _ _ => "MULTIPLE_INITIAL_STATES"
  | duplicateState _ => "DUPLICATE_STATE"
  | unknownTarget _ _ => "UNKNOWN_TARGET"
  | unknownProtocol _ => "UNKNOWN_PROTOCOL"
  | unknownRule _ => "UNKNOWN_RULE"
  | unsupportedRule _ _ _ => "UNSUPPORTED_RULE"
  | unsupportedProtocol _ _ => "UNSUPPORTED_PROTOCOL"
  | missingEventData _ _ => "MISSING_EVENT_DATA"
  | initialTrigger => "BAD_DEFINITION"
  | missingTrigger _ => "BAD_DEFINITION"
  | emptyScript _ _ => "BAD_DEFINITION"
  | unreadable => "BAD_DEFINITION"
  | missingFile => "IO_ERROR"
  | badTemplate => "TEMPLATE_ERROR"

def isStructural : Fault → Bool
  | unreadable | missingFile | badTemplate => false
  | _ => true

def message : Fault → String
  | missingInitialState target =>
    "machine has no initial state: no state is named '" ++ target ++ "'"
  | multipleInitialStates target count =>
    "machine has " ++ Nat.repr count ++ " initial states named '" ++ target ++ "'"
  | duplicateState state => "duplicate state '" ++ state ++ "'"
  | unknownTarget state target =>
    "transition in state '" ++ state ++ "' targets unknown state '" ++ target ++ "'"
  | unknownProtocol protocol => "unknown protocol '" ++ protocol ++ "'"
  | unknownRule rule => "unknown rule '" ++ rule ++ "'"
  | unsupportedRule protocol rule side =>
    "rule '" ++ rule.name ++ "' cannot be used on the " ++ side.name ++ " side of protocol '" ++
      protocol.name ++ "'"
  | unsupportedProtocol protocol side =>
    "protocol '" ++ protocol.name ++ "' cannot be used as a " ++ side.name
  | missingEventData protocol kind =>
    protocol.name ++ " event is missing required event_data: " ++ kind.name
  | initialTrigger => "invalid machine definition: initial transition cannot have a trigger"
  | missingTrigger state =>
    "invalid machine definition: transition in state '" ++ state ++ "' has no trigger"
  | emptyScript protocol side =>
    "invalid machine definition: " ++ protocol.name ++ " " ++ side.name ++
      " event has an empty script"
  | unreadable => "unreadable machine definition"
  | missingFile => "no such file"
  | badTemplate => "template error"

end Fault
end Parley
