import Parley.Checksum
import Parley.Definition.Basic
import Parley.Definition.Encode
/-!
Checking a machine as written, and resolving its names.

The names of the states come first: after that a target is known to exist or not, in whatever
order the states stand. Of several faults the first one in the order of the text is reported.
-/

namespace Parley.Draft

def repeatedName? (seen : List String) : List String → Option String
  | [] => none
  | name :: rest => if name ∈ seen then some name else repeatedName? (name :: seen) rest

def nameFault? (names : List String) (target : String) : Option Fault :=
  match names.count target with
  | 0 => some (.missingInitialState target)
  | 1 => (repeatedName? [] names).map .duplicateState
  | count => some (.multipleInitialStates target count)

def checkSends (sends : List Event) : Except Fault (List Parley.Event) :=
  sends.mapM (Parley.Event.resolve .send)

def checkTransition (names : List String) (state : String) (transition : Transition) :
    Except Fault Parley.Transition :=
  match transition.trigger with
  | none => .error (.missingTrigger state)
  | some written =>
    if transition.target ∈ names then do
      let trigger ← Parley.Event.resolve .trigger written
      let sends ← checkSends transition.sends
      return { trigger, sends, target := transition.target }
    else .error (.unknownTarget state transition.target)

def checkState (names : List String) (entry : String × State) : Except Fault Parley.State := do
  let transitions ← entry.2.transitions.mapM (checkTransition names entry.1)
  return { name := entry.1, transitions, terminal := entry.2.terminate }

def checksum (draft : Draft) : String := Checksum.ofText draft.canonical

def check (draft : Draft) : Except Fault Definition :=
  let names := draft.states.map (·.1)
  let target := draft.initial.target
  match nameFault? names target with
  | some fault => .error fault
  | none =>
    if draft.initial.trigger.isSome then .error .initialTrigger
    else do
      let sends ← checkSends draft.initial.sends
      let states ← draft.states.mapM (checkState names)
      match states.findFinIdx? fun state => state.name = target with
      | none => .error (.missingInitialState target)
      | some initialIndex =>
        .ok
          { name := draft.name
            kind := draft.kind
            keepMemory := draft.keepMemory
            initial := { sends, target }
            states, initialIndex
            checksum := draft.checksum }

end Parley.Draft
