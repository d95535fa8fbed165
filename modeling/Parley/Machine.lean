import Parley.Definition.Basic
import Parley.Send.Build
import Parley.Trigger
/-!
One running copy of a machine.

To find the transition for a notification and to take it are two steps. In between the sends of the
transition are built and sent, and if that fails the memory goes back to what it was before.
-/

namespace Parley

inductive EndSignal where
  /-- There is no channel. -/
  | none
  /-- Somebody listens. -/
  | awaited
  /-- Nobody listens any more. -/
  | abandoned
  | given
  deriving DecidableEq

structure Machine (definition : Definition) (σ : Type) where
  current : Fin definition.states.length
  store : Store σ
  /-- The memory as it was before a transition was looked for. -/
  checkpoint : Option Registers
  signal : EndSignal
  /-- A terminal state has been entered. -/
  terminated : Bool

namespace Machine

variable {definition : Definition} {σ : Type}

def new (definition : Definition) (scripts : Option σ) (pins : PinStream) (signal : EndSignal) :
    Machine definition σ where
  current := definition.initialIndex
  store := { memory := .empty, scripts, pins }
  checkpoint := none
  signal := signal
  terminated := false

def memory (machine : Machine definition σ) : Registers := machine.store.memory

def state (machine : Machine definition σ) : State := definition.states.get machine.current

def start [Evaluator σ] (machine : Machine definition σ) :
    Except Fault (List Send) × Machine definition σ :=
  let (sends, store) := buildAll definition.initial.sends "" machine.store
  (sends, { machine with store })

/-- The target that a script asks for counts if it is a state. -/
def retarget (definition : Definition) (transition : Transition) : Option String → Transition
  | some target => if definition.hasState target then transition.withTarget target else transition
  | none => transition

def firstFiring [Evaluator σ] (definition : Definition) (content : String)
    (admits : Event → Bool) : List Transition → Store σ → Option Transition × Store σ
  | [], store => (none, store)
  | transition :: rest, store =>
    if admits transition.trigger then
      match transition.trigger.fires content store with
      | (some fired, store) => (some (retarget definition transition fired.target), store)
      | (none, store) => firstFiring definition content admits rest store
    else firstFiring definition content admits rest store

def resolve [Evaluator σ] (machine : Machine definition σ) (content : String)
    (admits : Event → Bool) : Option Transition × Machine definition σ :=
  let (found, store) :=
    firstFiring definition content admits machine.state.transitions machine.store
  (found, { machine with store, checkpoint := some machine.memory })

/-- Triggers for the status of a protocol: `OUR_STATUS` for ours, every other rule for theirs. -/
def admitsStatus (status : Status) (trigger : Event) : Bool :=
  trigger.protocol = status.protocol && ((trigger.rule = .ourStatus) == status.ours)

/-- A trigger with a type id is for one subject only. -/
def admitsBackend (message : BackendMessage) (trigger : Event) : Bool :=
  trigger.protocol = .backend && trigger.typeId.all (· = message.subject)

def onStatus [Evaluator σ] (machine : Machine definition σ) (status : Status) :
    Option Transition × Machine definition σ :=
  machine.resolve status.content (admitsStatus status)

def onHook [Evaluator σ] (machine : Machine definition σ) (hook : HookData) :
    Option Transition × Machine definition σ :=
  machine.resolve hook.content fun trigger => trigger.protocol = .hook

def onBackend [Evaluator σ] (machine : Machine definition σ) (message : BackendMessage) :
    Option Transition × Machine definition σ :=
  machine.resolve message.content (admitsBackend message)

def onTransient [Evaluator σ] (machine : Machine definition σ) (content : String) :
    Option Transition × Machine definition σ :=
  machine.resolve content fun trigger => trigger.protocol = .transient

/-- Values that are accepted are kept, each in the register of its name. -/
def onQuestion [Evaluator σ] (machine : Machine definition σ) (question : Question) :
    Option Transition × Machine definition σ :=
  match machine.resolve question.content fun trigger => trigger.protocol = .answer with
  | (none, machine) => (none, machine)
  | (some transition, machine) =>
    if transition.trigger.rule = .acceptAndInputValues then
      (some transition,
        { machine with
          store := { machine.store with memory := storeValues machine.memory question.values } })
    else (some transition, machine)

def buildSends [Evaluator σ] (machine : Machine definition σ) (transition : Transition)
    (input : String) : Except Fault (List Send) × Machine definition σ :=
  let (sends, store) := buildAll transition.sends input machine.store
  (sends, { machine with store })

/-- The memory as it was before a transition was looked for that has not been taken since. -/
def rollback (machine : Machine definition σ) : Machine definition σ :=
  match machine.checkpoint with
  | some memory => { machine with store := { machine.store with memory }, checkpoint := none }
  | none => machine

def abandonSignal (machine : Machine definition σ) : Machine definition σ :=
  match machine.signal with
  | .awaited => { machine with signal := .abandoned }
  | _ => machine

/-- The first terminal state is signalled. -/
def noteEnd (machine : Machine definition σ) : Machine definition σ :=
  if machine.state.terminal && !machine.terminated then
    { machine with
      terminated := true
      signal := if machine.signal = .awaited then .given else machine.signal }
  else machine

/-- The machine in another state. Back at the initial state it forgets, unless it is to keep its
memory. -/
def enter (machine : Machine definition σ) (next : Fin definition.states.length) :
    Machine definition σ :=
  let memory :=
    if next = definition.initialIndex && !definition.keepMemory then .empty else machine.memory
  noteEnd
    { machine with
      current := next, store := { machine.store with memory }, checkpoint := none }

def step (machine : Machine definition σ) (transition : Transition) :
    Except Fault (Machine definition σ) :=
  match definition.stateIndex? transition.target with
  | some next => .ok (machine.enter next)
  | none => .error (.unknownTarget machine.state.name transition.target)

end Machine
end Parley
