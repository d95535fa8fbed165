import Parley.Multiplexer.Run
import Parley.Proofs.Conversation.Step
/-!
The moves of a multiplexer, one by one, and its runs.

A run is a list of occurrences: moves, and what comes in from outside in between. The setting does
not change on the way, but a client may answer differently each time, and so anything that may
happen at all happens on some run.
-/

namespace Parley.Multiplexer

variable {definition : Definition} {σ : Type} {setting : Setting σ}
  {multiplexer after : Multiplexer definition σ}

inductive Picked (setting : Setting σ) (item : Notification) (connection : String)
    (multiplexer : Multiplexer definition σ) : Nat → Multiplexer definition σ → Prop where
  | exhausted : Picked setting item connection multiplexer 0 (multiplexer.note .noteRoutingError)
  | dismissed {attempts : Nat} : multiplexer.table.get? connection = none →
      item.startsConversation = false →
        Picked setting item connection multiplexer (attempts + 1) (multiplexer.note .noteUnmatched)
  | found {attempts generation : Nat} : multiplexer.table.get? connection = some generation →
      Picked setting item connection multiplexer (attempts + 1)
        { multiplexer with held := some ⟨item, connection, attempts⟩ }
  | started {attempts : Nat} : multiplexer.table.get? connection = none →
      item.startsConversation = true →
        Picked setting item connection multiplexer (attempts + 1)
          { multiplexer.spawn setting connection with held := some ⟨item, connection, attempts⟩ }

theorem pick_picked (setting : Setting σ) (item : Notification) (connection : String)
    (multiplexer : Multiplexer definition σ) (attempts : Nat) :
    Picked setting item connection multiplexer attempts
      (multiplexer.pick setting item connection attempts) := by
  cases attempts with
  | zero => exact .exhausted
  | succ attempts =>
    cases entry : multiplexer.table.get? connection with
    | some generation =>
      simp only [pick, ensure?, TextMap.contains, entry, Option.isSome_some, if_true]
      exact .found entry
    | none =>
      cases starts : item.startsConversation with
      | true =>
        simp only [pick, ensure?, TextMap.contains, entry, starts, Option.isSome_none,
          Bool.false_eq_true, if_false, if_true]
        exact .started entry starts
      | false =>
        simp only [pick, ensure?, TextMap.contains, entry, starts, Option.isSome_none,
          Bool.false_eq_true, if_false]
        exact .dismissed entry starts

theorem pick_of_picked {item : Notification} {connection : String} {attempts : Nat}
    (picked : Picked setting item connection multiplexer attempts after) :
    multiplexer.pick setting item connection attempts = after := by
  cases picked with
  | exhausted => rfl
  | found entry => simp [pick, ensure?, TextMap.contains, entry]
  | dismissed entry starts | started entry starts =>
    simp [pick, ensure?, TextMap.contains, entry, starts]

inductive HandedOver (setting : Setting σ) (parcel : Parcel)
    (multiplexer : Multiplexer definition σ) : Multiplexer definition σ → Prop where
  | nowhere : multiplexer.holder? parcel.connection = none →
      HandedOver setting parcel multiplexer multiplexer
  | delivered {worker : Worker definition σ} {task : Task definition σ} :
      multiplexer.holder? parcel.connection = some worker →
      worker.task.deliver? parcel.item = some task →
        HandedOver setting parcel multiplexer (multiplexer.setTask worker.generation task)
  | refused {worker : Worker definition σ} {after : Multiplexer definition σ} :
      multiplexer.holder? parcel.connection = some worker →
      worker.task.deliver? parcel.item = none →
      Picked setting parcel.item parcel.connection
        { multiplexer with table := multiplexer.table.erase parcel.connection } parcel.attempts
        after →
        HandedOver setting parcel multiplexer after

theorem handOver_handedOver (setting : Setting σ) (parcel : Parcel)
    (multiplexer : Multiplexer definition σ) :
    HandedOver setting parcel multiplexer (multiplexer.handOver setting parcel) := by
  unfold handOver
  split
  next absent => exact .nowhere absent
  next worker found =>
    split
    next refused => exact .refused found refused (pick_picked _ _ _ _ _)
    next task delivered => exact .delivered found delivered

inductive Routed (setting : Setting σ) (item : Notification)
    (multiplexer : Multiplexer definition σ) : Multiplexer definition σ → Prop where
  | keptAlive : item.connection? = none →
      Routed setting item multiplexer (multiplexer.note .noteKeepAlive)
  | picked {connection : String} {after : Multiplexer definition σ} :
      item.connection? = some connection →
      Picked setting item connection (multiplexer.note .noteNotification) attemptLimit after →
        Routed setting item multiplexer after

theorem route_routed (setting : Setting σ) (item : Notification)
    (multiplexer : Multiplexer definition σ) :
    Routed setting item multiplexer (multiplexer.route setting item) := by
  unfold route
  split
  next silent => exact .keptAlive silent
  next connection addressed => exact .picked addressed (pick_picked _ _ _ _ _)

theorem route_of_routed {item : Notification} (routed : Routed setting item multiplexer after) :
    multiplexer.route setting item = after := by
  unfold route
  cases routed with
  | keptAlive silent => rw [silent]
  | picked addressed picked => rw [addressed]; exact pick_of_picked picked

inductive Step [Evaluator σ] (setting : Setting σ) (multiplexer : Multiplexer definition σ) :
    Move → Multiplexer definition σ → Prop where
  | evict {completion : Completion} {rest : List Completion} :
      multiplexer.completions = completion :: rest → multiplexer.isReady = true →
        Step setting multiplexer .evict
          ({ multiplexer with completions := rest }.complete completion)
  | routeInbound {item : Notification} {rest : List Notification}
      {after : Multiplexer definition σ} :
      multiplexer.inbound.items = item :: rest → multiplexer.isReady = true →
      Routed setting item
        { multiplexer with inbound := { multiplexer.inbound with items := rest } } after →
        Step setting multiplexer .routeInbound after
  | routeControl {data : HookData} {rest : List HookData} {after : Multiplexer definition σ} :
      multiplexer.control = data :: rest → multiplexer.isReady = true →
      Routed setting (.hook data) { multiplexer with control := rest } after →
        Step setting multiplexer .routeControl after
  | handOver {parcel : Parcel} {after : Multiplexer definition σ} :
      multiplexer.held = some parcel → multiplexer.stage = .routing →
      multiplexer.isFull setting parcel = false →
      HandedOver setting parcel { multiplexer with held := none } after →
        Step setting multiplexer .handOver after
  | noticeClosed : multiplexer.isReady = true → multiplexer.inbound.items = [] →
      multiplexer.inbound.isOpen = false → Step setting multiplexer .noticeClosed multiplexer.stop
  | noticeCancelled : multiplexer.isReady = true → multiplexer.isCancelled = true →
      Step setting multiplexer .noticeCancelled multiplexer.stop
  | finish : multiplexer.stage = .stopping → multiplexer.allReported = true →
      Step setting multiplexer .finish multiplexer.finish
  | work {generation : Nat} {move : Task.Move} {worker : Worker definition σ}
      {result : Task definition σ × Ledger} :
      multiplexer.worker? generation = some worker →
      worker.task.Step setting.client multiplexer.isCancelled multiplexer.ledger move result →
        Step setting multiplexer (.work generation move)
          { multiplexer.setTask generation result.1 with
            ledger := result.2
            completions :=
              multiplexer.completions ++
                if move = .report then [⟨worker.connection, generation⟩] else [] }

section

variable [Evaluator σ] {move : Move}

theorem step_of_advance? (advanced : multiplexer.advance? setting move = some after) :
    Step setting multiplexer move after := by
  cases move with
  | evict =>
    simp only [advance?] at advanced
    split at advanced
    next completions =>
      split at advanced
      next ready => cases advanced; exact .evict completions ready
      next => cases advanced
    next => cases advanced
  | routeInbound =>
    simp only [advance?] at advanced
    split at advanced
    next items =>
      split at advanced
      next ready => cases advanced; exact .routeInbound items ready (route_routed _ _ _)
      next => cases advanced
    next => cases advanced
  | routeControl =>
    simp only [advance?] at advanced
    split at advanced
    next items =>
      split at advanced
      next ready => cases advanced; exact .routeControl items ready (route_routed _ _ _)
      next => cases advanced
    next => cases advanced
  | handOver =>
    simp only [advance?] at advanced
    split at advanced
    next parcel held =>
      split at advanced
      next free =>
        cases advanced
        simp only [Bool.and_eq_true, decide_eq_true_eq, Bool.not_eq_true'] at free
        exact .handOver held free.1 free.2 (handOver_handedOver _ _ _)
      next => cases advanced
    next => cases advanced
  | noticeClosed =>
    simp only [advance?] at advanced
    split at advanced
    next closed =>
      cases advanced
      simp only [Bool.and_eq_true, List.isEmpty_iff, Bool.not_eq_true'] at closed
      exact .noticeClosed closed.1.1 closed.1.2 closed.2
    next => cases advanced
  | noticeCancelled =>
    simp only [advance?] at advanced
    split at advanced
    next cancelled =>
      cases advanced
      simp only [Bool.and_eq_true] at cancelled
      exact .noticeCancelled cancelled.1 cancelled.2
    next => cases advanced
  | finish =>
    simp only [advance?] at advanced
    split at advanced
    next stopped =>
      cases advanced
      simp only [Bool.and_eq_true, decide_eq_true_eq] at stopped
      exact .finish stopped.1 stopped.2
    next => cases advanced
  | work generation move =>
    simp only [advance?, work?, Option.bind_eq_bind, Option.bind_eq_some_iff] at advanced
    obtain ⟨worker, found, result, moved, rest⟩ := advanced
    have step : Step setting multiplexer (.work generation move) _ :=
      .work found (Task.step_of_advance? moved)
    split at rest
    next report =>
      cases rest
      rw [if_pos report] at step
      exact step
    next other =>
      cases rest
      rw [if_neg other, List.append_nil] at step
      exact step

end

inductive Occurrence where
  | offered (item : Notification)
  /-- A hook comes in beside the stream. -/
  | hooked (data : HookData)
  | closed
  | cancelled
  | moved (move : Move)
  deriving DecidableEq

def occur? [Evaluator σ] (setting : Setting σ) (multiplexer : Multiplexer definition σ) :
    Occurrence → Option (Multiplexer definition σ)
  | .offered item => multiplexer.offer? item
  | .hooked data => (multiplexer.offerHook data).toOption
  | .closed => some multiplexer.closeInbound
  | .cancelled => some multiplexer.cancel
  | .moved move => multiplexer.advance? setting move

def run? [Evaluator σ] (setting : Setting σ) :
    List Occurrence → Multiplexer definition σ → Option (Multiplexer definition σ)
  | [], multiplexer => some multiplexer
  | occurrence :: rest, multiplexer =>
    (multiplexer.occur? setting occurrence).bind (run? setting rest)

structure Untouched (before after : Multiplexer definition σ) : Prop where
  workers : after.workers = before.workers
  table : after.table = before.table
  completions : after.completions = before.completions
  nextGeneration : after.nextGeneration = before.nextGeneration
  held : after.held = before.held
  stage : after.stage = before.stage

theorem untouched_of_occur? [Evaluator σ] {occurrence : Occurrence}
    (outside : ∀ move, occurrence ≠ .moved move)
    (occurred : multiplexer.occur? setting occurrence = some after) :
    Untouched multiplexer after := by
  cases occurrence with
  | moved move => exact absurd rfl (outside move)
  | offered item =>
    simp only [occur?, offer?] at occurred
    split at occurred
    next => cases occurred; exact ⟨rfl, rfl, rfl, rfl, rfl, rfl⟩
    next => cases occurred
  | hooked data =>
    simp only [occur?, offerHook] at occurred
    split at occurred
    next => cases occurred
    next => cases occurred; exact ⟨rfl, rfl, rfl, rfl, rfl, rfl⟩
  | closed => cases occurred; exact ⟨rfl, rfl, rfl, rfl, rfl, rfl⟩
  | cancelled => cases occurred; exact ⟨rfl, rfl, rfl, rfl, rfl, rfl⟩

end Parley.Multiplexer
