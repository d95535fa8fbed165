import Parley.Conversation.Task
/-!
Many conversations, one for each connection.

A router takes items from one stream and hands each to the conversation of its connection, which it
starts if there is none. The table says which conversation an item goes to. A conversation that has
ended stays in the table until its end has been told, so an item may find it there; it then goes to
a fresh one. Generations tell the conversations of one connection apart.

The router and the conversations run at the same time: `Multiplexer.Move` are the choices of what
happens next, and `Multiplexer.advance?` makes one of them. To find the conversation of an item and
to hand the item over are two moves, and a conversation may go on, and end, in between.
-/

namespace Parley

structure Worker (definition : Definition) (σ : Type) where
  generation : Nat
  task : Task definition σ

structure Completion where
  connection : String
  generation : Nat
  deriving DecidableEq

structure Parcel where
  item : Notification
  connection : String
  attempts : Nat
  deriving DecidableEq

inductive Stage where
  | routing
  /-- No more items are routed; the conversations are waited for. -/
  | stopping
  | stopped
  deriving DecidableEq

structure Setting (σ : Type) where
  client : Client
  /-- How many items a channel of a conversation holds. -/
  capacity : Nat
  /-- What a conversation runs its scripts with. -/
  scripts : σ
  /-- The pins of each conversation with a connection, counted from the first one. -/
  pins : String → Nat → PinStream

structure Multiplexer (definition : Definition) (σ : Type) where
  inbound : Channel Notification
  /-- Hooks from beside the stream. -/
  control : List HookData
  /-- The generation to which the items of a connection go. -/
  table : TextMap Nat
  /-- All conversations there ever were, the first one first. -/
  workers : List (Worker definition σ)
  completions : List Completion
  /-- An item on its way to a conversation, for as long as there is no room in its channel. Nothing
  else is routed before it. -/
  held : Option Parcel
  nextGeneration : Nat
  isCancelled : Bool
  stage : Stage
  ledger : Ledger

inductive Multiplexer.Move where
  /-- The router hears of the end of a conversation. -/
  | evict
  | routeInbound
  | routeControl
  /-- The router hands over what it holds. -/
  | handOver
  | noticeClosed
  | noticeCancelled
  /-- All conversations have ended. -/
  | finish
  | work (generation : Nat) (move : Task.Move)
  deriving DecidableEq

namespace Worker

variable {definition : Definition} {σ : Type}

def connection (worker : Worker definition σ) : String := worker.task.conversation.connection

end Worker

/-- The status of a protocol of ours is for the conversation that started it. -/
def Notification.startsConversation : Notification → Bool
  | .status change => !change.ours
  | _ => true

namespace Multiplexer

variable {definition : Definition} {σ : Type}

def initial (definition : Definition) (σ : Type) : Multiplexer definition σ where
  inbound := .fresh
  control := []
  table := .empty
  workers := []
  completions := []
  held := none
  nextGeneration := 0
  isCancelled := false
  stage := .routing
  ledger := .empty

def create (definition : Definition) (σ : Type) (scriptsAllowed : Bool) :
    Except AgencyError (Multiplexer definition σ) :=
  if definition.mayRun scriptsAllowed then .ok (initial definition σ)
  else .error (.scriptsDisabled definition.name)

def note (multiplexer : Multiplexer definition σ) (write : Ledger → Ledger) :
    Multiplexer definition σ :=
  { multiplexer with ledger := write multiplexer.ledger }

def worker? (multiplexer : Multiplexer definition σ) (generation : Nat) :
    Option (Worker definition σ) :=
  multiplexer.workers.find? fun worker => worker.generation = generation

def holder? (multiplexer : Multiplexer definition σ) (connection : String) :
    Option (Worker definition σ) :=
  (multiplexer.table.get? connection).bind multiplexer.worker?

def setTask (multiplexer : Multiplexer definition σ) (generation : Nat)
    (task : Task definition σ) : Multiplexer definition σ :=
  { multiplexer with
    workers := multiplexer.workers.map fun worker =>
      if worker.generation = generation then { worker with task } else worker }

def startedWith (multiplexer : Multiplexer definition σ) (connection : String) : Nat :=
  multiplexer.workers.countP fun worker => worker.connection = connection

def spawn (setting : Setting σ) (connection : String)
    (multiplexer : Multiplexer definition σ) : Multiplexer definition σ :=
  let pins := setting.pins connection (multiplexer.startedWith connection)
  let task := Task.spawn (.new definition connection setting.scripts pins)
  note
    { multiplexer with
      workers := multiplexer.workers ++ [⟨multiplexer.nextGeneration, task⟩]
      table := multiplexer.table.insert connection multiplexer.nextGeneration
      nextGeneration := multiplexer.nextGeneration + 1 }
    .noteStart

/-- There is a conversation for a connection, of before or just started. An item that may not start
one finds none. -/
def ensure? (setting : Setting σ) (item : Notification) (connection : String)
    (multiplexer : Multiplexer definition σ) : Option (Multiplexer definition σ) :=
  if multiplexer.table.contains connection then some multiplexer
  else if item.startsConversation then some (multiplexer.spawn setting connection)
  else none

/-- Takes an item in hand for the conversation of its connection, if there are attempts left and
there is one. -/
def pick (setting : Setting σ) (item : Notification) (connection : String)
    (multiplexer : Multiplexer definition σ) : Nat → Multiplexer definition σ
  | 0 => multiplexer.note .noteRoutingError
  | attempts + 1 =>
    match multiplexer.ensure? setting item connection with
    | none => multiplexer.note .noteUnmatched
    | some multiplexer => { multiplexer with held := some ⟨item, connection, attempts⟩ }

/-- Hands a parcel to the conversation of its connection. If that has met its end, the next attempt
goes to another one. -/
def handOver (setting : Setting σ) (parcel : Parcel) (multiplexer : Multiplexer definition σ) :
    Multiplexer definition σ :=
  match multiplexer.holder? parcel.connection with
  | none => multiplexer
  | some worker =>
    match worker.task.deliver? parcel.item with
    | none =>
      pick setting parcel.item parcel.connection
        { multiplexer with table := multiplexer.table.erase parcel.connection } parcel.attempts
    | some task => multiplexer.setTask worker.generation task

def attemptLimit : Nat := 2

/-- An item goes to the conversation of its connection; of those with none, the stream is just still
there. -/
def route (setting : Setting σ) (item : Notification)
    (multiplexer : Multiplexer definition σ) : Multiplexer definition σ :=
  match item.connection? with
  | none => multiplexer.note .noteKeepAlive
  | some connection =>
    (multiplexer.note .noteNotification).pick setting item connection attemptLimit

/-- The conversation that holds a parcel up still runs and has no room yet. -/
def isFull (setting : Setting σ) (parcel : Parcel)
    (multiplexer : Multiplexer definition σ) : Bool :=
  match multiplexer.holder? parcel.connection with
  | some worker =>
    (worker.task.deliver? parcel.item).isSome &&
      !decide (worker.task.waiting parcel.item < setting.capacity)
  | none => false

/-- Only the conversation that the news is about leaves the table. -/
def complete (completion : Completion) (multiplexer : Multiplexer definition σ) :
    Multiplexer definition σ :=
  let multiplexer := multiplexer.note .noteCompletion
  if multiplexer.table.get? completion.connection = some completion.generation then
    { multiplexer with table := multiplexer.table.erase completion.connection }
  else multiplexer

def stop (multiplexer : Multiplexer definition σ) : Multiplexer definition σ :=
  { multiplexer with
    table := .empty
    workers := multiplexer.workers.map fun worker =>
      { worker with task := worker.task.closeChannels }
    stage := .stopping }

def allReported (multiplexer : Multiplexer definition σ) : Bool :=
  multiplexer.workers.all fun worker => worker.task.phase = .reported

def finish (multiplexer : Multiplexer definition σ) : Multiplexer definition σ :=
  { multiplexer.completions.foldl (fun held completion => held.complete completion) multiplexer with
    completions := []
    stage := .stopped }

def isReady (multiplexer : Multiplexer definition σ) : Bool :=
  multiplexer.stage = .routing && multiplexer.held.isNone

def work? [Evaluator σ] (setting : Setting σ) (generation : Nat) (move : Task.Move)
    (multiplexer : Multiplexer definition σ) : Option (Multiplexer definition σ) := do
  let worker ← multiplexer.worker? generation
  let (task, ledger) ←
    worker.task.advance? setting.client multiplexer.isCancelled move multiplexer.ledger
  let multiplexer := { multiplexer.setTask generation task with ledger }
  if move = .report then
    some
      { multiplexer with
        completions := multiplexer.completions ++ [⟨worker.connection, generation⟩] }
  else some multiplexer

def advance? [Evaluator σ] (setting : Setting σ) (move : Move)
    (multiplexer : Multiplexer definition σ) : Option (Multiplexer definition σ) :=
  match move with
  | .evict =>
    match multiplexer.completions with
    | completion :: rest =>
      if multiplexer.isReady then
        some ({ multiplexer with completions := rest }.complete completion)
      else none
    | [] => none
  | .routeInbound =>
    match multiplexer.inbound.items with
    | item :: rest =>
      if multiplexer.isReady then
        some
          ({ multiplexer with inbound := { multiplexer.inbound with items := rest } }.route
            setting item)
      else none
    | [] => none
  | .routeControl =>
    match multiplexer.control with
    | data :: rest =>
      if multiplexer.isReady then
        some ({ multiplexer with control := rest }.route setting (.hook data))
      else none
    | [] => none
  | .handOver =>
    match multiplexer.held with
    | some parcel =>
      if multiplexer.stage = .routing && !multiplexer.isFull setting parcel then
        some ({ multiplexer with held := none }.handOver setting parcel)
      else none
    | none => none
  | .noticeClosed =>
    if multiplexer.isReady && multiplexer.inbound.items.isEmpty && !multiplexer.inbound.isOpen then
      some multiplexer.stop
    else none
  | .noticeCancelled =>
    if multiplexer.isReady && multiplexer.isCancelled then some multiplexer.stop else none
  | .finish =>
    if multiplexer.stage = .stopping && multiplexer.allReported then some multiplexer.finish
    else none
  | .work generation move => multiplexer.work? setting generation move

end Multiplexer
end Parley
