import Parley.Ledger
import Parley.Machine
/-!
One conversation: a machine, its connection, and what it has to tell itself.

A notification is taken through three steps. The machine finds a transition, its sends go out one by
one, and only then the transition is taken. If a send cannot be built or is refused, the machine
goes back to the memory it had, and what it queued for itself is dropped.
-/

namespace Parley

structure Conversation (definition : Definition) (σ : Type) where
  connection : String
  machine : Machine definition σ
  /-- The contents of transient sends that are still to be told to the machine. -/
  queue : List String

inductive AgencyError where
  | scriptsDisabled (machine : String)
  | shuttingDown
  deriving DecidableEq

namespace AgencyError

def code : AgencyError → String
  | scriptsDisabled _ => "SCRIPTS_DISABLED"
  | shuttingDown => "SHUTTING_DOWN"

def message : AgencyError → String
  | scriptsDisabled machine => "machine '" ++ machine ++ "' uses LUA rules but scripts are disabled"
  | shuttingDown => "multiplexer shutting down"

end AgencyError

def Definition.mayRun (definition : Definition) (scriptsAllowed : Bool) : Bool :=
  scriptsAllowed || !definition.needsEvaluator

namespace Conversation

variable {definition : Definition} {σ : Type}

/-- A conversation that has not said anything yet. Only a machine that has scripts is given
something to run them. -/
def new (definition : Definition) (connection : String) (scripts : σ) (pins : PinStream) :
    Conversation definition σ where
  connection := connection
  machine :=
    .new definition (if definition.needsEvaluator then some scripts else none) pins .awaited
  queue := []

def create (definition : Definition) (connection : String) (scriptsAllowed : Bool) (scripts : σ)
    (pins : PinStream) : Except AgencyError (Conversation definition σ) :=
  if definition.mayRun scriptsAllowed then .ok (new definition connection scripts pins)
  else .error (.scriptsDisabled definition.name)

def isFinished (conversation : Conversation definition σ) : Bool :=
  conversation.machine.terminated || conversation.machine.state.terminal

end Conversation

structure Session (definition : Definition) (σ : Type) where
  conversation : Conversation definition σ
  ledger : Ledger

/-- The call for a send. Answers are called where their question is at hand. -/
def Send.call? (connection : String) (send : Send) : Option Call :=
  match send.payload with
  | .issuing credDefId attrs => some (.issueCredential connection credDefId attrs)
  | .proof attributes => some (.requestProof connection attributes)
  | .email recipient source subject => some (.email recipient source subject send.content)
  | .hook data => some (.hook connection data send.content)
  | .backend subject => some (.backend connection subject send.content)
  | .answer _ => none
  | .none =>
    if send.protocol = .trustPing then some (.trustPing connection)
    else some (.basicMessage connection send.content)

namespace Session

variable {definition : Definition} {σ : Type}

def machine (session : Session definition σ) : Machine definition σ := session.conversation.machine

def queue (session : Session definition σ) : List String := session.conversation.queue

def connection (session : Session definition σ) : String := session.conversation.connection

def isFinished (session : Session definition σ) : Bool := session.conversation.isFinished

def withMachine (session : Session definition σ) (machine : Machine definition σ) :
    Session definition σ :=
  { session with conversation := { session.conversation with machine } }

def withQueue (session : Session definition σ) (queue : List String) : Session definition σ :=
  { session with conversation := { session.conversation with queue } }

def note (session : Session definition σ) (write : Ledger → Ledger) : Session definition σ :=
  { session with ledger := write session.ledger }

def call (session : Session definition σ) (client : Client) (call : Call) :
    Bool × Session definition σ :=
  let (accepted, ledger) := session.ledger.call client session.connection call
  (accepted, { session with ledger })

structure Dispatch (definition : Definition) (σ : Type) where
  /-- All of them went out. -/
  complete : Bool
  /-- One of them answered the question. -/
  answered : Bool
  session : Session definition σ

def dispatchOne (client : Client) (question : Option Question) (send : Send)
    (session : Session definition σ) : Dispatch definition σ :=
  let called (answers : Bool) (call : Call) : Dispatch definition σ :=
    match session.call client call with
    | (true, session) => ⟨true, answers, session.note .noteSend⟩
    | (false, session) => ⟨false, false, session⟩
  let silent : Dispatch definition σ := ⟨true, false, session.note .noteSend⟩
  if send.protocol = .transient then
    ⟨true, false, (session.withQueue (session.queue ++ [send.content])).note .noteSend⟩
  else
    match send.payload, question with
    | .answer ack, some question => called true (.answer question.id ack send.content)
    | .answer _, none => silent
    | _, _ =>
      match send.call? session.connection with
      | some call => called false call
      | none => silent

def dispatchAll (client : Client) (question : Option Question) :
    List Send → Session definition σ → Dispatch definition σ
  | [], session => ⟨true, false, session⟩
  | send :: rest, session =>
    match dispatchOne client question send session with
    | ⟨false, answered, session⟩ => ⟨false, answered, session⟩
    | ⟨true, answered, session⟩ =>
      let later := dispatchAll client question rest session
      { later with answered := answered || later.answered }

def answer (client : Client) (question : Question) (ack : Bool) (session : Session definition σ) :
    Bool × Session definition σ :=
  session.call client (.answer question.id ack "")

/-- Drops a transition: the memory and the queue are what they were before it was found, and a
question that is still open is declined. -/
def abandon (client : Client) (queued : Nat) (question : Option Question)
    (session : Session definition σ) : Session definition σ :=
  let session :=
    (session.withMachine session.machine.rollback).withQueue (session.queue.take queued)
  match question with
  | some question => (session.answer client question false).2
  | none => session

def commit (transition : Transition) (session : Session definition σ) : Session definition σ :=
  match session.machine.step transition with
  | .ok machine => (session.withMachine machine).note .noteTransition
  | .error _ => session

def acknowledges (transition : Transition) : Bool := transition.trigger.rule ≠ .notAcceptValues

def fire [Evaluator σ] (client : Client) (transition : Transition) (input : String)
    (question : Option Question) (session : Session definition σ) : Session definition σ :=
  let queued := session.queue.length
  match session.machine.buildSends transition input with
  | (.error _, machine) =>
    ((session.withMachine machine).note .noteSendError).abandon client queued question
  | (.ok sends, machine) =>
    match dispatchAll client question sends (session.withMachine machine) with
    | ⟨false, answered, session⟩ =>
      session.abandon client queued (if answered then none else question)
    | ⟨true, answered, session⟩ =>
      match if answered then none else question with
      | none => session.commit transition
      | some question =>
        match session.answer client question (acknowledges transition) with
        | (true, session) => session.commit transition
        | (false, session) => session.abandon client queued none

def follow [Evaluator σ] (client : Client) (found : Option Transition × Machine definition σ)
    (input : String) (session : Session definition σ) : Session definition σ :=
  match found with
  | (some transition, machine) => (session.withMachine machine).fire client transition input none
  | (none, machine) => (session.withMachine machine).note .noteUnmatched

/-- A protocol that waits for us is told first whether it may go on. -/
def handleStatus [Evaluator σ] (client : Client) (status : Status)
    (session : Session definition σ) : Session definition σ :=
  match status.progress with
  | .declined | .failed => session
  | progress =>
    let found := session.machine.onStatus status
    if progress = .waiting && !status.ours then
      let accept := found.1.isSome
      match session.call client (.resume session.connection status.protocolId accept) with
      | (true, session) => session.follow client found status.content
      | (false, session) =>
        session.withMachine (if accept then found.2.rollback else found.2)
    else session.follow client found status.content

/-- A question that nothing fires for is declined. -/
def handleQuestion [Evaluator σ] (client : Client) (question : Question)
    (session : Session definition σ) : Session definition σ :=
  match session.machine.onQuestion question with
  | (some transition, machine) =>
    (session.withMachine machine).fire client transition question.content (some question)
  | (none, machine) =>
    (((session.withMachine machine).note .noteUnmatched).answer client question false).2

def handleHook [Evaluator σ] (client : Client) (hook : HookData) (session : Session definition σ) :
    Session definition σ :=
  session.follow client (session.machine.onHook hook) hook.content

def handleBackend [Evaluator σ] (client : Client) (message : BackendMessage)
    (session : Session definition σ) : Session definition σ :=
  session.follow client (session.machine.onBackend message) message.content

def handleTransient [Evaluator σ] (client : Client) (content : String)
    (session : Session definition σ) : Session definition σ :=
  session.follow client (session.machine.onTransient content) content

def handle [Evaluator σ] (client : Client) (notification : Notification)
    (session : Session definition σ) : Session definition σ :=
  match notification with
  | .status status => session.handleStatus client status
  | .question question => session.handleQuestion client question
  | .hook data => session.handleHook client data
  | .backend message => session.handleBackend client message
  | .keepAlive => session

def hopLimit : Nat := 32

/-- Tells the machine what it has queued for itself, so many things at most. Nothing is left in the
queue. -/
def drainFrom [Evaluator σ] (client : Client) : Nat → Session definition σ → Session definition σ
  | 0, session => session.withQueue []
  | hops + 1, session =>
    match session.queue with
    | [] => session
    | content :: rest =>
      if session.isFinished then session.withQueue []
      else drainFrom client hops ((session.withQueue rest).handleTransient client content)

def drain [Evaluator σ] (client : Client) (session : Session definition σ) :
    Session definition σ :=
  session.drainFrom client hopLimit

def start [Evaluator σ] (client : Client) (session : Session definition σ) :
    Session definition σ :=
  match session.machine.start with
  | (.error _, machine) => (session.withMachine machine).note .noteSendError
  | (.ok sends, machine) => (dispatchAll client none sends (session.withMachine machine)).session

def begin [Evaluator σ] (client : Client) (session : Session definition σ) : Session definition σ :=
  (session.start client).drain client

def take [Evaluator σ] (client : Client) (notification : Notification)
    (session : Session definition σ) : Session definition σ :=
  (session.handle client notification).drain client

end Session
end Parley
