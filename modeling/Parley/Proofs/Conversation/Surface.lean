import Parley.Proofs.Conversation.Steady
import Parley.Proofs.Conversation.Step
/-!
What shows of a conversation.

The memory that a machine may go back to is set anew each time a transition is looked for, so what
it was before does not matter. Nor do the counters of what has come in and of what nothing fired
for: nobody reads them. Conversations that are the same apart from these stay so.
-/

namespace Parley

variable {definition : Definition} {σ : Type}

/-- Without the counters of what came in and of what nothing fired for. -/
def Ledger.surface (ledger : Ledger) : Ledger :=
  { ledger with counters := { ledger.counters with notifications := 0, unmatched := 0 } }

/-- Without the memory to go back to. -/
def Conversation.surface (conversation : Conversation definition σ) : Conversation definition σ :=
  { conversation with machine := { conversation.machine with checkpoint := none } }

def Task.surface (task : Task definition σ) : Task definition σ :=
  { task with conversation := task.conversation.surface }

theorem Ledger.call_surface (ledger : Ledger) (client : Client) (name : String) (call : Call) :
    ledger.surface.call client name call =
      ((ledger.call client name call).1, (ledger.call client name call).2.surface) := by
  have attempts : ledger.surface.attempts = ledger.attempts := rfl
  unfold Ledger.call
  rw [attempts]
  cases client.refuses ledger.attempts call <;> rfl

theorem Client.surface_steady (client : Client) (name : String) :
    client.Steady name fun here there => there.surface = here.surface where
  call := fun {here there} call same => by
    have both := there.call_surface client name call
    rw [same, here.call_surface client name call] at both
    obtain ⟨accepted, after⟩ := Prod.mk.inj both
    exact ⟨accepted.symm, after.symm⟩
  send := congrArg Ledger.noteSend
  sendError := congrArg Ledger.noteSendError
  transition := congrArg Ledger.noteTransition
  unmatched := id

namespace Session

def bare (session : Session definition σ) : Session definition σ :=
  { session with conversation := session.conversation.surface }

variable (client : Client)

theorem dispatchOne_withMachine (question : Option Question) (send : Send)
    (session : Session definition σ) (machine : Machine definition σ) :
    dispatchOne client question send (session.withMachine machine) =
      { dispatchOne client question send session with
        session := (dispatchOne client question send session).session.withMachine machine } := by
  rw [dispatchOne_eq, dispatchOne_eq]
  have connection : (session.withMachine machine).connection = session.connection := rfl
  rw [connection]
  cases send.callOn session.connection question with
  | none => rfl
  | some call =>
    have called : (session.withMachine machine).call client call =
        ((session.call client call).1, (session.call client call).2.withMachine machine) := rfl
    dsimp only
    rw [called]
    cases session.call client call with
    | mk accepted after => cases accepted <;> rfl

theorem dispatchAll_withMachine (question : Option Question) (sends : List Send)
    (session : Session definition σ) (machine : Machine definition σ) :
    dispatchAll client question sends (session.withMachine machine) =
      { dispatchAll client question sends session with
        session := (dispatchAll client question sends session).session.withMachine machine } := by
  induction sends generalizing session with
  | nil => rfl
  | cons send rest ih =>
    unfold dispatchAll
    rw [dispatchOne_withMachine]
    cases dispatchOne client question send session with
    | mk complete answered after =>
      cases complete with
      | false => rfl
      | true =>
        dsimp only
        rw [ih after]

variable [Evaluator σ]

theorem follow_bare (session : Session definition σ)
    (found : Option Transition × Machine definition σ) (input : String) :
    session.bare.follow client found input = session.follow client found input := by
  obtain ⟨transition, machine⟩ := found
  cases transition <;> rfl

theorem handleStatus_bare (status : Status) (session : Session definition σ) :
    (session.bare.handleStatus client status).bare =
      (session.handleStatus client status).bare := by
  have found : session.bare.machine.onStatus status = session.machine.onStatus status := rfl
  unfold handleStatus
  rw [found]
  split
  next => rfl
  next => rfl
  next =>
    dsimp only
    split
    next =>
      have connection : session.bare.connection = session.connection := rfl
      have called (call : Call) : session.bare.call client call =
          ((session.call client call).1, (session.call client call).2.bare) := rfl
      rw [called, connection]
      cases session.call client (.resume session.connection status.protocolId
        (session.machine.onStatus status).1.isSome) with
      | mk accepted after =>
        cases accepted with
        | true =>
          dsimp only
          rw [follow_bare]
        | false => rfl
    next => rw [follow_bare]

/-- The machine looks for a transition, and then it forgets what it could go back to before, or
nothing happens at all. -/
theorem handle_bare (notification : Notification) (session : Session definition σ) :
    (session.bare.handle client notification).bare = (session.handle client notification).bare := by
  cases notification with
  | status change => exact handleStatus_bare client change session
  | question asked =>
    have found : session.bare.machine.onQuestion asked = session.machine.onQuestion asked := rfl
    simp only [handle, handleQuestion, found]
    cases session.machine.onQuestion asked with
    | mk transition machine => cases transition <;> rfl
  | hook data => exact congrArg bare (follow_bare client session _ _)
  | backend message => exact congrArg bare (follow_bare client session _ _)
  | keepAlive => rfl

theorem drainFrom_bare (hops : Nat) (session : Session definition σ) :
    (session.bare.drainFrom client hops).bare = (session.drainFrom client hops).bare := by
  induction hops generalizing session with
  | zero => rfl
  | succ hops ih =>
    have queue : session.bare.queue = session.queue := rfl
    have isFinished : session.bare.isFinished = session.isFinished := rfl
    unfold drainFrom
    rw [queue, isFinished]
    cases session.queue with
    | nil => rfl
    | cons content rest =>
      dsimp only
      split
      next => rfl
      next =>
        have told : (session.bare.withQueue rest).handleTransient client content =
            (session.withQueue rest).handleTransient client content :=
          follow_bare client (session.withQueue rest) _ _
        rw [told]

theorem take_bare (notification : Notification) (session : Session definition σ) :
    (session.bare.take client notification).bare = (session.take client notification).bare := by
  unfold take drain
  rw [← drainFrom_bare, handle_bare, drainFrom_bare]

theorem start_bare (session : Session definition σ) :
    (session.bare.start client).bare = (session.start client).bare := by
  have built : session.bare.machine.start =
      (session.machine.start.1, { session.machine.start.2 with checkpoint := none }) := rfl
  unfold start
  rw [built]
  cases session.machine.start with
  | mk result machine =>
    cases result with
    | error _ => rfl
    | ok sends =>
      show (dispatchAll client none sends
          (session.withMachine { machine with checkpoint := none })).session.bare =
        (dispatchAll client none sends (session.withMachine machine)).session.bare
      rw [dispatchAll_withMachine, dispatchAll_withMachine]
      rfl

theorem begin_bare (session : Session definition σ) :
    (session.bare.begin client).bare = (session.begin client).bare := by
  unfold begin drain
  rw [← drainFrom_bare, start_bare, drainFrom_bare]

section Outside

variable {client} {here there : Session definition σ}

def surface (session : Session definition σ) : Session definition σ :=
  ⟨session.conversation.surface, session.ledger.surface⟩

omit [Evaluator σ] in
theorem surface_of_bare (same : there.bare = here.bare) : there.surface = here.surface :=
  (congrArg (fun session => Session.mk session.conversation session.ledger.surface) same :)

omit [Evaluator σ] in
theorem Alike.surface {name : String}
    (alike : Alike name (fun here there => there.surface = here.surface) here there) :
    there.surface = here.surface := by
  rw [Session.surface, Session.surface, alike.conversation, alike.ledger]

omit [Evaluator σ] in
theorem alike_of_surface (same : there.surface = here.surface) :
    Alike here.connection (fun here there => there.surface = here.surface) here.bare there.bare :=
  ⟨(congrArg Session.conversation same :), rfl, (congrArg Session.ledger same :)⟩

theorem begin_surface (same : there.surface = here.surface) :
    (there.begin client).surface = (here.begin client).surface := by
  have alike := (alike_of_surface same).begin (client.surface_steady here.connection)
  calc (there.begin client).surface
      _ = (there.bare.begin client).surface := (surface_of_bare (begin_bare client there)).symm
      _ = (here.bare.begin client).surface := alike.surface
      _ = (here.begin client).surface := surface_of_bare (begin_bare client here)

theorem take_surface (same : there.surface = here.surface) (notification : Notification) :
    (there.take client notification).surface = (here.take client notification).surface := by
  have alike := (alike_of_surface same).take (client.surface_steady here.connection) notification
  calc (there.take client notification).surface
      _ = (there.bare.take client notification).surface :=
        (surface_of_bare (take_bare client notification there)).symm
      _ = (here.bare.take client notification).surface := alike.surface
      _ = (here.take client notification).surface :=
        surface_of_bare (take_bare client notification here)

end Outside

end Session

namespace Task

variable {client : Client} {here there : Task definition σ} {left right : Ledger}

theorem settled_surface {first second : Session definition σ} (same : there.surface = here.surface)
    (after : second.surface = first.surface) :
    (there.settled second).1.surface = (here.settled first).1.surface ∧
      (there.settled second).2.surface = (here.settled first).2.surface := by
  have conversation : second.conversation.surface = first.conversation.surface :=
    (congrArg Session.conversation after :)
  have isFinished : second.isFinished = first.isFinished :=
    (congrArg Conversation.isFinished conversation :)
  have notifications : there.notifications = here.notifications :=
    (congrArg Task.notifications same :)
  have hooks : there.hooks = here.hooks := (congrArg Task.hooks same :)
  refine ⟨?_, (congrArg Session.ledger after :)⟩
  simp only [settled, surface, isFinished, conversation, notifications, hooks]

variable [Evaluator σ]

/-- Tasks that show the same have the same moves, and go on to show the same. -/
theorem advance?_surface (client : Client) (same : there.surface = here.surface)
    (ledgers : right.surface = left.surface) (isCancelled : Bool) (move : Move) :
    Option.Rel (fun first second => second.1.surface = first.1.surface ∧
        second.2.surface = first.2.surface)
      (here.advance? client isCancelled move left)
      (there.advance? client isCancelled move right) := by
  have sessions : Session.surface ⟨there.conversation, right⟩ =
      Session.surface ⟨here.conversation, left⟩ := by
    have conversation : there.conversation.surface = here.conversation.surface :=
      (congrArg Task.conversation same :)
    simp only [Session.surface, conversation, ledgers]
  have phase : there.phase = here.phase := (congrArg Task.phase same :)
  have notifications : there.notifications = here.notifications :=
    (congrArg Task.notifications same :)
  have hooks : there.hooks = here.hooks := (congrArg Task.hooks same :)
  have changed (phase : Phase) (notifications : Channel Notification) (hooks : Channel HookData) :
      Option.Rel (fun first second => second.1.surface = first.1.surface ∧
          second.2.surface = first.2.surface)
        (some (Task.mk here.conversation phase notifications hooks, left))
        (some (Task.mk there.conversation phase notifications hooks, right)) := by
    refine .some ⟨?_, ledgers⟩
    exact (congrArg (fun task : Task definition σ =>
      Task.mk task.conversation phase notifications hooks) same :)
  unfold advance?
  rw [phase, notifications, hooks]
  dsimp only
  split
  next => exact .some (settled_surface same (Session.begin_surface sessions))
  next =>
    cases here.notifications.items with
    | nil => exact .none
    | cons item rest => exact changed _ _ _
  next =>
    cases here.hooks.items with
    | nil => exact .none
    | cons hook rest => exact changed _ _ _
  next item _ => exact .some (settled_surface same (Session.take_surface sessions item))
  next =>
    split
    next => exact changed _ _ _
    next => exact .none
  next =>
    split
    next => exact changed _ _ _
    next => exact .none
  next => exact changed _ _ _
  next => exact .none

end Task
end Parley
