import Parley.Pin
import Parley.Script.Evaluator
/-!
What events read and write: the memory, the scripts if there are any, and the PINs to come.
-/

namespace Parley

structure Store (σ : Type) where
  memory : Registers
  scripts : Option σ
  pins : PinStream

namespace Store

variable {σ : Type}

def write (store : Store σ) (name value : String) : Store σ :=
  { store with memory := store.memory.insert name value }

def drawPin (store : Store σ) : String × Store σ :=
  let text := pinText store.pins.head
  (text, { store with memory := store.memory.insert Register.pin text, pins := store.pins.tail })

def runScript [Evaluator σ] (store : Store σ) (script input : String) (sentinel : Script.Sentinel) :
    Option (Except Script.Failure Script.Outcome) × Store σ :=
  match store.scripts with
  | none => (none, store)
  | some scripts =>
    match Script.run scripts store.memory script input sentinel with
    | (result, memory, scripts) => (some result, { store with memory, scripts := some scripts })

end Store
end Parley
