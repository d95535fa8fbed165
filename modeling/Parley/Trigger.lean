import Parley.Definition.Event
import Parley.Notification.Basic
import Parley.Store
/-!
Whether a trigger fires.
-/

namespace Parley

variable {σ : Type}

structure Fired where
  /-- The state that a script asks for. -/
  target : Option String
  deriving DecidableEq

def Fired.plain : Fired := ⟨none⟩

def Fired.when (holds : Bool) : Option Fired := if holds then some .plain else none

/-- Whether the trigger fires for a content. A script that fails does not fire it. -/
def Event.fires [Evaluator σ] (event : Event) (content : String) (store : Store σ) :
    Option Fired × Store σ :=
  match event.rule with
  | .input | .data | .transient | .ourStatus | .acceptAndInputValues | .notAcceptValues =>
    (some .plain, store)
  | .inputSave => (some .plain, store.write event.data content)
  | .inputEqual => (Fired.when (content = event.data), store)
  | .validateEqual => (Fired.when (store.memory.read event.data = content), store)
  | .validateNotEqual => (Fired.when (store.memory.read event.data ≠ content), store)
  | .lua =>
    match store.runScript event.data content .usual with
    | (some (.ok outcome), store) => (if outcome.ok then some ⟨outcome.target⟩ else none, store)
    | (_, store) => (none, store)
  | .format | .formatMem | .genPin => (none, store)

def storeValues (memory : Registers) (values : List ProofValue) : Registers :=
  values.foldl (fun memory value => memory.insert value.name value.value) memory

end Parley
