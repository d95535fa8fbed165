import Parley.Definition.Event
import Parley.Send.Basic
import Parley.Store
import Parley.Template.Positional
import Parley.Template.Render
/-!
Building the sends of a transition.

The rule of an event makes the content, and may write a register on the way. Then the payload is
made with the memory as it is by then.
-/

namespace Parley

variable {σ : Type}

def renderOr (source : String) (memory : Registers) : Except Fault String :=
  match Template.render? source memory with
  | some text => .ok text
  | none => .error .badTemplate

def renderEach (memory : Registers) : List (String × String) → Except Fault (List (String × String))
  | [] => .ok []
  | (name, source) :: rest =>
    match renderOr source memory with
    | .error fault => .error fault
    | .ok value =>
      match renderEach memory rest with
      | .error fault => .error fault
      | .ok values => .ok ((name, value) :: values)

namespace Event

/-- The content of a send. There is none if a script fails. -/
def content [Evaluator σ] (event : Event) (input : String) (store : Store σ) :
    Except Fault (Option String) × Store σ :=
  match event.rule with
  | .input | .ourStatus => (.ok input, store)
  | .inputSave => (.ok input, store.write event.data input)
  | .format => (.ok (Template.fill event.data input), store)
  | .formatMem => ((renderOr event.data store.memory).map some, store)
  | .genPin =>
    let (pin, store) := store.drawPin
    if event.data.isEmpty then (.ok pin, store)
    else ((renderOr event.data store.memory).map some, store)
  | .lua =>
    match store.runScript event.data input .any with
    | (some (.ok outcome), store) => (.ok outcome.output, store)
    | (_, store) => (.ok none, store)
  | .inputEqual | .data | .transient | .validateEqual | .validateNotEqual | .acceptAndInputValues
  | .notAcceptValues => (.ok event.data, store)

def payload (event : Event) (memory : Registers) : Except Fault Payload :=
  match event.protocol, event.eventData with
  | .basicMessage, _ | .trustPing, _ | .transient, _ => .ok .none
  | .issueCredential, some (.issuing credDefId attrs) =>
    (renderOr attrs memory).map (.issuing credDefId)
  | .issueCredential, _ => .error (.missingEventData .issueCredential .issuing)
  | .presentProof, some (.proof attributes) => (renderOr attributes memory).map .proof
  | .presentProof, _ => .error (.missingEventData .presentProof .proof)
  | .answer, some (.answer ack) => .ok (.answer ack)
  | .answer, _ => .ok (.answer true)
  | .hook, some (.hook data) =>
    (renderEach memory data.entries).map fun values => .hook (TextMap.ofList values)
  | .hook, _ => .ok (.hook .empty)
  | .backend, data =>
    match event.typeId, data with
    | some subject, _ => .ok (.backend subject)
    | none, some (.backend (some subject)) => .ok (.backend subject)
    | none, _ => .ok (.backend "")
  | .email, some (.email recipient source subject) =>
    match renderOr recipient memory with
    | .error fault => .error fault
    | .ok recipient => (renderOr subject memory).map fun subject => .email recipient source subject
  | .email, _ => .error (.missingEventData .email .email)

def send (event : Event) (content : String) (payload : Payload) : Send where
  protocol := event.protocol
  typeId := event.typeId
  content := content
  payload := payload
  wantStatus := event.wantStatus

def build [Evaluator σ] (event : Event) (input : String) (store : Store σ) :
    Except Fault (Option Send) × Store σ :=
  match event.content input store with
  | (.error fault, store) => (.error fault, store)
  | (.ok none, store) => (.ok none, store)
  | (.ok (some content), store) =>
    ((event.payload store.memory).map fun payload => some (event.send content payload), store)

end Event

/-- The sends of events in their order, up to the first fault. What has been written until then
stays written. -/
def buildAll [Evaluator σ] : List Event → String → Store σ → Except Fault (List Send) × Store σ
  | [], _, store => (.ok [], store)
  | event :: rest, input, store =>
    match event.build input store with
    | (.error fault, store) => (.error fault, store)
    | (.ok built, store) =>
      match buildAll rest input store with
      | (.error fault, store) => (.error fault, store)
      | (.ok sends, store) => (.ok (built.toList ++ sends), store)

end Parley
