import Parley.Definition.Draft
import Parley.Document
/-!
Reading a machine as written from a document.
-/

namespace Parley

open Document

def EventData.ofFields? (kind : Kind) (document : Document) : Option EventData :=
  match kind with
  | .basicMessage => do
    let [content] ← document.fields? ["content"] | none
    some (.basicMessage (← required text? content))
  | .issuing => do
    let [credDefId, attrs] ← document.fields? ["cred_def_id", "attrs"] | none
    some (.issuing (← required text? credDefId) (← required text? attrs))
  | .proof => do
    let [attributes] ← document.fields? ["attributes"] | none
    some (.proof (← required text? attributes))
  | .hook => do
    let [data] ← document.fields? ["data"] | none
    some (.hook (← defaulted texts? TextMap.empty data))
  | .backend => do
    let [subject] ← document.fields? ["subject"] | none
    some (.backend (← optional text? subject))
  | .email => do
    let [recipient, source, subject] ← document.fields? ["to", "from", "subject"] | none
    some (.email (← required text? recipient) (← defaulted text? "" source)
      (← defaulted text? "" subject))
  | .answer => do
    let [ack] ← document.fields? ["ack"] | none
    some (.answer (← defaulted truth? true ack))

def EventData.ofDocument? : Document → Option EventData
  | .record [(some name, document)] =>
    match Kind.ofName? name with
    | some kind => ofFields? kind document
    | none => none
  | _ => none

namespace Draft

def Event.ofDocument? (document : Document) : Option Event := do
  let [protocol, typeId, rule, data, eventData, noStatus] ←
    document.fields? ["protocol", "type_id", "rule", "data", "event_data", "no_status"] | none
  some
    { protocol := ← required text? protocol
      typeId := ← optional text? typeId
      rule := ← optional text? rule
      data := ← optional text? data
      eventData := ← optional EventData.ofDocument? eventData
      noStatus := ← defaulted truth? false noStatus }

def Transition.ofDocument? (document : Document) : Option Transition := do
  let [trigger, sends, target] ← document.fields? ["trigger", "sends", "target"] | none
  some
    { trigger := ← optional Event.ofDocument? trigger
      sends := ← defaulted (listOf Event.ofDocument?) [] sends
      target := ← required text? target }

def State.ofDocument? (document : Document) : Option State := do
  let [transitions, terminate] ← document.fields? ["transitions", "terminate"] | none
  some
    { transitions := ← defaulted (listOf Transition.ofDocument?) [] transitions
      terminate := ← defaulted truth? false terminate }

def statesOfDocument? (document : Document) : Option (List (String × State)) :=
  match document.entries? with
  | some entries => entries.mapM fun entry => (State.ofDocument? entry.2).map (entry.1, ·)
  | none => none

def ofDocument? (document : Document) : Option Draft := do
  let [name, kind, keepMemory, initial, states] ←
    document.fields? ["name", "type", "keep_memory", "initial", "states"] | none
  some
    { name := ← defaulted text? "" name
      kind := ← defaulted (choice? MachineKind.ofName?) .conversation kind
      keepMemory := ← defaulted truth? false keepMemory
      initial := ← required Transition.ofDocument? initial
      states := ← required statesOfDocument? states }

end Draft
end Parley
