import Parley.Conversation.Task
import Parley.Proofs.Conversation.Lives
/-!
The moves of a conversation that runs by itself, one by one: when it may make them, and what they
leave as it is. No move brings back to life what has ended.
-/

namespace Parley.Task

variable {definition : Definition} {σ : Type} [Evaluator σ] {client : Client} {isCancelled : Bool}
  {task : Task definition σ} {ledger : Ledger} {move : Move} {result : Task definition σ × Ledger}

inductive Step (client : Client) (isCancelled : Bool) (task : Task definition σ)
    (ledger : Ledger) : Move → Task definition σ × Ledger → Prop where
  | begin : task.phase = .fresh →
      Step client isCancelled task ledger .begin
        (task.settled (Session.begin client ⟨task.conversation, ledger⟩))
  | takeNotification {item : Notification} {rest : List Notification} :
      task.phase = .listening → task.notifications.items = item :: rest →
        Step client isCancelled task ledger .takeNotification
          ({ task with
              notifications := { task.notifications with items := rest }, phase := .handling item },
            ledger)
  | takeHook {hook : HookData} {rest : List HookData} :
      task.phase = .listening → task.hooks.items = hook :: rest →
        Step client isCancelled task ledger .takeHook
          ({ task with
              hooks := { task.hooks with items := rest }, phase := .handling (.hook hook) },
            ledger)
  | handle {item : Notification} : task.phase = .handling item →
      Step client isCancelled task ledger .handle
        (task.settled (Session.take client item ⟨task.conversation, ledger⟩))
  | noticeClosed : task.phase = .listening → task.notifications.items = [] →
      task.notifications.isOpen = false →
        Step client isCancelled task ledger .noticeClosed ({ task with phase := .ended }, ledger)
  | noticeCancelled : task.phase = .listening → isCancelled = true →
      Step client isCancelled task ledger .noticeCancelled ({ task with phase := .ended }, ledger)
  | report : task.phase = .ended →
      Step client isCancelled task ledger .report ({ task with phase := .reported }, ledger)

theorem step_of_advance? (advanced : task.advance? client isCancelled move ledger = some result) :
    Step client isCancelled task ledger move result := by
  unfold advance? at advanced
  dsimp only at advanced
  split at advanced
  next fresh => cases advanced; exact .begin fresh
  next listening =>
    split at advanced
    next items => cases advanced; exact .takeNotification listening items
    next => cases advanced
  next listening =>
    split at advanced
    next items => cases advanced; exact .takeHook listening items
    next => cases advanced
  next handling => cases advanced; exact .handle handling
  next listening =>
    split at advanced
    next closed =>
      cases advanced
      simp only [Bool.and_eq_true, List.isEmpty_iff, Bool.not_eq_true'] at closed
      exact .noticeClosed listening closed.1 closed.2
    next => cases advanced
  next listening =>
    split at advanced
    next cancelled => cases advanced; exact .noticeCancelled listening cancelled
    next => cases advanced
  next ended => cases advanced; exact .report ended
  next => cases advanced

theorem advance?_of_step (step : Step client isCancelled task ledger move result) :
    task.advance? client isCancelled move ledger = some result := by
  cases step with
  | begin fresh => simp only [advance?, fresh]
  | takeNotification listening items => simp only [advance?, listening, items]
  | takeHook listening items => simp only [advance?, listening, items]
  | handle handling => simp only [advance?, handling]
  | noticeClosed listening items closed => simp [advance?, listening, items, closed]
  | noticeCancelled listening cancelled => simp only [advance?, listening, cancelled, if_true]
  | report ended => simp only [advance?, ended]

namespace Step

theorem connection (step : Step client isCancelled task ledger move result) :
    result.1.conversation.connection = task.conversation.connection := by
  cases step with
  | begin _ => exact Session.begin_connection client ⟨task.conversation, ledger⟩
  | handle _ => exact Session.take_connection client _ ⟨task.conversation, ledger⟩
  | _ => rfl

theorem isOpen (step : Step client isCancelled task ledger move result) :
    result.1.notifications.isOpen = task.notifications.isOpen ∧
      result.1.hooks.isOpen = task.hooks.isOpen := by
  cases step <;> exact ⟨rfl, rfl⟩

theorem isLive (step : Step client isCancelled task ledger move result)
    (live : result.1.isLive = true) : task.isLive = true := by
  cases step with
  | begin phase | takeNotification phase _ | takeHook phase _ | handle phase
  | noticeClosed phase _ _ | noticeCancelled phase _ => rw [Task.isLive, phase]
  | report _ => cases live

theorem reported (step : Step client isCancelled task ledger .report result) :
    result.1.phase = .reported := by
  cases step
  rfl

end Step

def queued (task : Task definition σ) : List Notification :=
  task.notifications.items ++ task.hooks.items.map .hook

structure Delivered (item : Notification) (before after : Task definition σ) : Prop where
  live : before.isLive = true
  conversation : after.conversation = before.conversation
  phase : after.phase = before.phase
  isOpen : after.notifications.isOpen = before.notifications.isOpen ∧
    after.hooks.isOpen = before.hooks.isOpen
  queued : after.queued.Perm (item :: before.queued)

omit [Evaluator σ] in
theorem deliver?_delivered {item : Notification} {after : Task definition σ}
    (delivered : task.deliver? item = some after) : Delivered item task after := by
  unfold deliver? at delivered
  split at delivered
  next data =>
    unfold offerHook? at delivered
    split at delivered
    next free =>
      cases delivered
      refine ⟨(Bool.and_eq_true _ _ ▸ free).1, rfl, rfl, ⟨rfl, rfl⟩, ?_⟩
      simp only [Task.queued, Channel.push, List.map_append, List.map_cons, List.map_nil,
        ← List.append_assoc]
      exact List.perm_append_comm
    next => cases delivered
  next =>
    unfold offer? at delivered
    split at delivered
    next free =>
      cases delivered
      refine ⟨(Bool.and_eq_true _ _ ▸ free).1, rfl, rfl, ⟨rfl, rfl⟩, ?_⟩
      simp only [Task.queued, Channel.push, List.append_assoc, List.singleton_append]
      exact List.perm_middle
    next => cases delivered

omit [Evaluator σ] in
theorem deliver?_of_gone (gone : task.isLive = false) (item : Notification) :
    task.deliver? item = none := by
  unfold deliver? offerHook? offer?
  rw [gone]
  split <;> rfl

omit [Evaluator σ] in
theorem isLive_of_deliver?_none {item : Notification}
    (isOpen : task.notifications.isOpen = true ∧ task.hooks.isOpen = true)
    (refused : task.deliver? item = none) : task.isLive = false := by
  unfold deliver? offerHook? offer? at refused
  rw [isOpen.1, isOpen.2, Bool.and_true] at refused
  cases live : task.isLive with
  | false => rfl
  | true =>
    rw [live] at refused
    split at refused <;> cases refused

end Parley.Task
