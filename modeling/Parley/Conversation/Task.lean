import Parley.Conversation.Basic
/-!
A conversation that runs by itself and is fed through two channels.

Between two items it may go on with whatever is ready, in any order: a notification, a hook, or the
news that it is cancelled. An item is taken out of its channel first and handled after that, so that
its place may be filled in between. `moves` are the choices it has, and `advance?` makes one of
them.
-/

namespace Parley

structure Channel (α : Type) where
  items : List α
  isOpen : Bool

namespace Channel

variable {α : Type}

def fresh : Channel α := ⟨[], true⟩

def push (channel : Channel α) (item : α) : Channel α :=
  { channel with items := channel.items ++ [item] }

def close (channel : Channel α) : Channel α := { channel with isOpen := false }

end Channel

inductive Phase where
  /-- It has not said anything yet. -/
  | fresh
  | listening
  /-- It has taken an item that it is not done with. -/
  | handling (item : Notification)
  /-- It takes nothing any more; what is in its channels is lost. -/
  | ended
  /-- Its end has been told. -/
  | reported
  deriving DecidableEq

structure Task (definition : Definition) (σ : Type) where
  conversation : Conversation definition σ
  phase : Phase
  notifications : Channel Notification
  hooks : Channel HookData

inductive Task.Move where
  | begin
  | takeNotification
  | takeHook
  /-- Handles what it has taken. -/
  | handle
  /-- No more notifications will come. -/
  | noticeClosed
  | noticeCancelled
  | report
  deriving DecidableEq

namespace Task

variable {definition : Definition} {σ : Type}

def spawn (conversation : Conversation definition σ) : Task definition σ where
  conversation := conversation
  phase := .fresh
  notifications := .fresh
  hooks := .fresh

def isLive (task : Task definition σ) : Bool :=
  match task.phase with
  | .fresh | .listening | .handling _ => true
  | .ended | .reported => false

/-- After an item the task listens on, unless its machine has ended. -/
def settled (task : Task definition σ) (session : Session definition σ) :
    Task definition σ × Ledger :=
  ({ task with
      conversation := session.conversation
      phase := if session.isFinished then .ended else .listening },
    session.ledger)

def advance? [Evaluator σ] (client : Client) (isCancelled : Bool) (move : Move)
    (task : Task definition σ) (ledger : Ledger) : Option (Task definition σ × Ledger) :=
  let session : Session definition σ := ⟨task.conversation, ledger⟩
  match move, task.phase with
  | .begin, .fresh => some (task.settled (session.begin client))
  | .takeNotification, .listening =>
    match task.notifications.items with
    | item :: rest =>
      some
        ({ task with
            notifications := { task.notifications with items := rest }, phase := .handling item },
          ledger)
    | [] => none
  | .takeHook, .listening =>
    match task.hooks.items with
    | hook :: rest =>
      some
        ({ task with
            hooks := { task.hooks with items := rest }, phase := .handling (.hook hook) },
          ledger)
    | [] => none
  | .handle, .handling item => some (task.settled (session.take client item))
  | .noticeClosed, .listening =>
    if task.notifications.items.isEmpty && !task.notifications.isOpen then
      some ({ task with phase := .ended }, ledger)
    else none
  | .noticeCancelled, .listening =>
    if isCancelled then some ({ task with phase := .ended }, ledger) else none
  | .report, .ended => some ({ task with phase := .reported }, ledger)
  | _, _ => none

/-- All moves, in the order in which they are tried where one has to be chosen. -/
def moves : List Move :=
  [.begin, .handle, .noticeCancelled, .takeNotification, .takeHook, .noticeClosed, .report]

/-- The first move that the task may make. -/
def next? [Evaluator σ] (client : Client) (isCancelled : Bool) (task : Task definition σ)
    (ledger : Ledger) : Option (Task definition σ × Ledger) :=
  moves.findSome? fun move => advance? client isCancelled move task ledger

def runFor [Evaluator σ] (client : Client) (isCancelled : Bool) :
    Nat → Task definition σ → Ledger → Task definition σ × Ledger
  | 0, task, ledger => (task, ledger)
  | fuel + 1, task, ledger =>
    match task.next? client isCancelled ledger with
    | some (task, ledger) => runFor client isCancelled fuel task ledger
    | none => (task, ledger)

/-- The number of moves a task can still make without getting anything new. -/
def work (task : Task definition σ) : Nat :=
  2 * task.notifications.items.length + 2 * task.hooks.items.length +
    match task.phase with
    | .fresh => 3
    | .listening => 2
    | .handling _ => 3
    | .ended => 1
    | .reported => 0

def run [Evaluator σ] (client : Client) (isCancelled : Bool) (task : Task definition σ)
    (ledger : Ledger) : Task definition σ × Ledger :=
  runFor client isCancelled task.work task ledger

def offer? (task : Task definition σ) (item : Notification) : Option (Task definition σ) :=
  if task.isLive && task.notifications.isOpen then
    some { task with notifications := task.notifications.push item }
  else none

def offerHook? (task : Task definition σ) (data : HookData) : Option (Task definition σ) :=
  if task.isLive && task.hooks.isOpen then some { task with hooks := task.hooks.push data }
  else none

def deliver? (task : Task definition σ) (item : Notification) : Option (Task definition σ) :=
  match item with
  | .hook data => task.offerHook? data
  | other => task.offer? other

def waiting (task : Task definition σ) (item : Notification) : Nat :=
  match item with
  | .hook _ => task.hooks.items.length
  | _ => task.notifications.items.length

def closeChannels (task : Task definition σ) : Task definition σ :=
  { task with notifications := task.notifications.close, hooks := task.hooks.close }

end Task
end Parley
