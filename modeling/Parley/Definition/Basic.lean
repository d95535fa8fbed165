import Parley.Definition.Draft
import Parley.Definition.Event
/-!
Machines ready to run: every name in them is resolved, and the states stand in their order.
-/

namespace Parley

structure Transition where
  trigger : Event
  sends : List Event
  target : String
  deriving DecidableEq

structure State where
  name : String
  transitions : List Transition
  /-- Entering the state ends the machine. -/
  terminal : Bool
  deriving DecidableEq

structure Initial where
  sends : List Event
  target : String
  deriving DecidableEq

structure Definition where
  name : String
  kind : MachineKind
  /-- The memory stays when the machine is back at its initial state. -/
  keepMemory : Bool
  initial : Initial
  states : List State
  initialIndex : Fin states.length
  /-- Taken over the machine as written. -/
  checksum : String

def Transition.withTarget (transition : Transition) (target : String) : Transition :=
  { transition with target }

def Transition.events (transition : Transition) : List Event :=
  transition.trigger :: transition.sends

namespace Definition

def stateIndex? (definition : Definition) (name : String) : Option (Fin definition.states.length) :=
  definition.states.findFinIdx? fun state => state.name = name

def state? (definition : Definition) (name : String) : Option State :=
  (definition.stateIndex? name).map definition.states.get

def hasState (definition : Definition) (name : String) : Bool :=
  (definition.stateIndex? name).isSome

def events (definition : Definition) : List Event :=
  definition.initial.sends ++
    definition.states.flatMap fun state => state.transitions.flatMap Transition.events

def needsEvaluator (definition : Definition) : Bool :=
  definition.events.any fun event => event.rule = .lua

end Definition
end Parley
