import Parley.Proofs.Conversation.Surface
/-!
A conversation that hears of its own protocols.

If no trigger of the machine asks for the status of a protocol of ours, then no trigger is tried on
one: no script runs, and nothing is written, sent or told. All that comes of it is that it is
counted.
-/

namespace Parley

variable {definition : Definition} {σ : Type}

def Notification.isEcho : Notification → Bool
  | .status change => change.ours
  | _ => false

theorem Notification.exists_status {item : Notification} (echo : item.isEcho = true) :
    ∃ change : Status, item = .status change ∧ change.ours = true := by
  cases item with
  | status change => exact ⟨change, rfl, echo⟩
  | _ => cases echo

def Definition.IgnoresOwn (definition : Definition) : Prop :=
  ∀ state ∈ definition.states, ∀ transition ∈ state.transitions,
    transition.trigger.rule ≠ .ourStatus

instance (definition : Definition) : Decidable definition.IgnoresOwn :=
  inferInstanceAs (Decidable (∀ state ∈ definition.states, ∀ transition ∈ state.transitions,
    transition.trigger.rule ≠ .ourStatus))

namespace Machine

variable [Evaluator σ]

theorem firstFiring_of_refused {content : String} {admits : Event → Bool}
    {transitions : List Transition} (refused : ∀ transition ∈ transitions,
      admits transition.trigger = false) (store : Store σ) :
    firstFiring definition content admits transitions store = (none, store) := by
  induction transitions with
  | nil => rfl
  | cons transition rest ih =>
    rw [firstFiring, refused transition List.mem_cons_self]
    exact ih fun other later => refused other (List.mem_cons_of_mem _ later)

/-- No trigger is tried, and so no script is run. -/
theorem onStatus_echo (ignores : definition.IgnoresOwn) (machine : Machine definition σ)
    {status : Status} (ours : status.ours = true) :
    machine.onStatus status = (none, { machine with checkpoint := some machine.memory }) := by
  have refused : ∀ transition ∈ machine.state.transitions,
      admitsStatus status transition.trigger = false := by
    intro transition member
    have other := ignores machine.state (List.get_mem _ _) transition member
    simp [admitsStatus, ours, other]
  rw [onStatus, resolve, firstFiring_of_refused refused]

end Machine

namespace Session

variable [Evaluator σ] {client : Client} {session : Session definition σ}

theorem drainFrom_queue (hops : Nat) (session : Session definition σ) :
    (session.drainFrom client hops).queue = [] := by
  induction hops generalizing session with
  | zero => rfl
  | succ hops ih =>
    unfold drainFrom
    split
    next empty => exact empty
    next =>
      split
      next => rfl
      next => exact ih _

theorem drain_of_queue_nil (empty : session.queue = []) : session.drain client = session := by
  unfold drain hopLimit drainFrom
  rw [empty]

theorem handle_echo (ignores : definition.IgnoresOwn) (session : Session definition σ)
    {status : Status} (ours : status.ours = true) :
    session.handle client (.status status) = session ∨
      session.handle client (.status status) =
        (session.withMachine
          { session.machine with checkpoint := some session.machine.memory }).note
            .noteUnmatched := by
  have found := Machine.onStatus_echo ignores session.machine ours
  unfold handle handleStatus
  dsimp only
  split
  next => exact .inl rfl
  next => exact .inl rfl
  next =>
    rw [found, ours]
    simp only [Bool.not_true, Bool.and_false, Bool.false_eq_true, if_false]
    exact .inr rfl

theorem take_echo (client : Client) (ignores : definition.IgnoresOwn)
    (session : Session definition σ) (empty : session.queue = []) {status : Status}
    (ours : status.ours = true) :
    (session.take client (.status status)).surface = session.surface := by
  unfold take
  rcases handle_echo ignores session ours with same | noted
  · rw [same, drain_of_queue_nil empty]
  · rw [noted, drain_of_queue_nil (by exact empty)]
    rfl

end Session

namespace Task

variable {task : Task definition σ}

def atHand (task : Task definition σ) : Move → Option Notification
  | .takeNotification => task.notifications.items.head?
  | .takeHook => task.hooks.items.head?.map .hook
  | .handle =>
    match task.phase with
    | .handling item => some item
    | _ => none
  | _ => none

def Drained (task : Task definition σ) : Prop :=
  task.isLive = true → task.phase ≠ .fresh →
    task.conversation.queue = [] ∧ task.conversation.isFinished = false

theorem drained_spawn (conversation : Conversation definition σ) :
    (Task.spawn conversation).Drained :=
  fun _ begun => absurd rfl begun

theorem Drained.of_same {after : Task definition σ} (drained : task.Drained)
    (phase : after.phase = task.phase) (conversation : after.conversation = task.conversation) :
    after.Drained := by
  unfold Drained isLive
  rw [phase, conversation]
  exact drained

theorem drained_settled {session : Session definition σ} (empty : session.queue = []) :
    (task.settled session).1.Drained := by
  intro live _
  cases finished : session.isFinished with
  | false => exact ⟨empty, finished⟩
  | true => simp [settled, isLive, finished] at live

variable [Evaluator σ] {client : Client} {isCancelled : Bool} {ledger : Ledger} {move : Move}
  {result : Task definition σ × Ledger}

theorem Step.drained (step : Step client isCancelled task ledger move result)
    (drained : task.Drained) : result.1.Drained := by
  have goesOn (listening : task.phase = .listening) :
      task.conversation.queue = [] ∧ task.conversation.isFinished = false :=
    drained (by rw [Task.isLive, listening]) (by simp [listening])
  cases step with
  | begin _ => exact drained_settled (Session.drainFrom_queue _ _)
  | handle _ => exact drained_settled (Session.drainFrom_queue _ _)
  | takeNotification listening _ => exact fun _ _ => goesOn listening
  | takeHook listening _ => exact fun _ _ => goesOn listening
  | noticeClosed _ _ _ => exact fun live => by cases live
  | noticeCancelled _ _ => exact fun live => by cases live
  | report _ => exact fun live => by cases live

omit [Evaluator σ] in
theorem phase_settled_ne_reported (session : Session definition σ) :
    (task.settled session).1.phase ≠ .reported := by
  unfold settled
  cases session.isFinished <;> simp

theorem Step.report_of_reported (step : Step client isCancelled task ledger move result)
    (reported : result.1.phase = .reported) : move = .report := by
  cases step with
  | begin _ | handle _ => exact absurd reported (phase_settled_ne_reported _)
  | report _ => rfl
  | _ => cases reported

theorem settled_echo (client : Client) (ledger : Ledger) (ignores : definition.IgnoresOwn)
    (drained : task.Drained) {item : Notification} (handling : task.phase = .handling item)
    (echo : item.isEcho = true) :
    (task.settled (Session.take client item ⟨task.conversation, ledger⟩)).1.surface =
        { task.surface with phase := .listening } ∧
      (task.settled (Session.take client item ⟨task.conversation, ledger⟩)).2.surface =
        ledger.surface := by
  obtain ⟨status, rfl, ours⟩ := Notification.exists_status echo
  obtain ⟨empty, unfinished⟩ := drained (by simp [isLive, handling]) (by simp [handling])
  have silent := Session.take_echo client ignores ⟨task.conversation, ledger⟩ empty ours
  obtain ⟨shown, noted⟩ := settled_surface (Eq.refl task.surface) silent
  refine ⟨?_, noted⟩
  rw [shown]
  simp only [settled, surface, Session.isFinished, unfinished, Bool.false_eq_true, if_false]

theorem Step.silent (step : Step client isCancelled task ledger move result)
    (ignores : definition.IgnoresOwn) (drained : task.Drained) {item : Notification}
    (about : task.atHand move = some item) (echo : item.isEcho = true) :
    result.1.conversation.surface = task.conversation.surface ∧
      result.2.surface = ledger.surface := by
  cases step with
  | begin _ => cases about
  | takeNotification _ _ => exact ⟨rfl, rfl⟩
  | takeHook _ items =>
    simp only [atHand, items, List.head?_cons, Option.map_some, Option.some.injEq] at about
    subst about
    cases echo
  | handle handling =>
    simp only [atHand, handling, Option.some.injEq] at about
    subst about
    obtain ⟨shown, noted⟩ := settled_echo client ledger ignores drained handling echo
    exact ⟨(congrArg Task.conversation shown :), noted⟩
  | noticeClosed _ _ _ => cases about
  | noticeCancelled _ _ => cases about
  | report _ => cases about

end Task
end Parley
