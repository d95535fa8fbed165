import Parley.Definition.Draft
import Parley.Json.Printer
/-!
The canonical JSON of a machine as written. What is left out, and a flag that is off, is not
written where the reader takes the same for granted.
-/

namespace Parley

def EventData.toJson : EventData → Json
  | basicMessage content => .object [("basic_message", .object [("content", .string content)])]
  | issuing credDefId attrs =>
    .object [("issuing", .object [("cred_def_id", .string credDefId), ("attrs", .string attrs)])]
  | proof attributes => .object [("proof", .object [("attributes", .string attributes)])]
  | hook data => .object [("hook", .object [("data", .ofTextMap data)])]
  | backend none => .object [("backend", .object [])]
  | backend (some subject) => .object [("backend", .object [("subject", .string subject)])]
  | email recipient source subject =>
    .object [("email", .object
      [("to", .string recipient), ("from", .string source), ("subject", .string subject)])]
  | answer ack => .object [("answer", .object [("ack", .bool ack)])]

namespace Draft

def memberIf {α : Type} (name : String) (encode : α → Json) : Option α → List (String × Json)
  | some value => [(name, encode value)]
  | none => []

def flagIf (name : String) : Bool → List (String × Json)
  | true => [(name, .bool true)]
  | false => []

def Event.toJson (event : Event) : Json :=
  .object (("protocol", .string event.protocol) ::
    (memberIf "type_id" .string event.typeId ++ memberIf "rule" .string event.rule ++
      memberIf "data" .string event.data ++
      memberIf "event_data" EventData.toJson event.eventData ++
      flagIf "no_status" event.noStatus))

def Transition.toJson (transition : Transition) : Json :=
  .object (memberIf "trigger" Event.toJson transition.trigger ++
    [("sends", .array (transition.sends.map Event.toJson)), ("target", .string transition.target)])

def State.toJson (state : State) : Json :=
  .object (("transitions", .array (state.transitions.map Transition.toJson)) ::
    flagIf "terminate" state.terminate)

def toJson (draft : Draft) : Json :=
  .object
    [("name", .string draft.name), ("type", .string draft.kind.name),
      ("keep_memory", .bool draft.keepMemory), ("initial", draft.initial.toJson),
      ("states", .object (draft.states.map fun (name, state) => (name, state.toJson)))]

def canonical (draft : Draft) : String := draft.toJson.print

end Draft
end Parley
