import Parley.Proofs.Conversation.Echo
import Parley.Proofs.Multiplexer.Closing
/-!
Echoes in a multiplexer.

Whatever else is going on, a move that has to do with an echo starts no conversation and changes
none, and it leaves the counters alone but for what has come in and what nothing fired for. A router
that finds the conversation of an echo ended dismisses the echo on its next attempt.
-/

namespace Parley

variable {definition : Definition} {σ : Type}

theorem Notification.startsConversation_eq (item : Notification) :
    item.startsConversation = !item.isEcho := by
  cases item <;> rfl

namespace Multiplexer

def atHand (multiplexer : Multiplexer definition σ) : Move → Option Notification
  | .routeInbound => multiplexer.inbound.items.head?
  | .routeControl => multiplexer.control.head?.map .hook
  | .handOver => multiplexer.held.map Parcel.item
  | .work generation move =>
    (multiplexer.worker? generation).bind fun worker => worker.task.atHand move
  | _ => none

def conversations (multiplexer : Multiplexer definition σ) :
    List (Nat × Conversation definition σ) :=
  multiplexer.workers.map fun worker => (worker.generation, worker.task.conversation.surface)

variable {setting : Setting σ} {multiplexer after : Multiplexer definition σ}
  {worker : Worker definition σ} {generation : Nat} {connection : String} {item : Notification}

theorem Picked.of_echo {attempts : Nat}
    (picked : Picked setting item connection multiplexer attempts after)
    (echo : item.isEcho = true) (few : 0 < attempts) :
    after = multiplexer.note .noteUnmatched ∨
      ∃ generation, multiplexer.table.get? connection = some generation ∧
        after = { multiplexer with held := some ⟨item, connection, attempts - 1⟩ } := by
  cases picked with
  | exhausted => cases few
  | dismissed _ _ => exact .inl rfl
  | found entry => exact .inr ⟨_, entry, rfl⟩
  | started _ starts =>
    rw [item.startsConversation_eq, echo] at starts
    cases starts

/-- No conversation that goes on has anything left to tell itself, and an echo in hand has been
tried for the first time. -/
structure Collected (multiplexer : Multiplexer definition σ) : Prop where
  drained : ∀ worker ∈ multiplexer.workers, worker.task.Drained
  once : ∀ parcel, multiplexer.held = some parcel → parcel.item.isEcho = true →
    0 < parcel.attempts

namespace Collected

theorem initial : (initial definition σ).Collected where
  drained := by simp [Multiplexer.initial]
  once := by simp [Multiplexer.initial]

theorem of_same (collected : multiplexer.Collected) (workers : after.workers = multiplexer.workers)
    (held : after.held = multiplexer.held ∨ after.held = none) : after.Collected where
  drained := by rw [workers]; exact collected.drained
  once := fun parcel here => by
    rcases held with same | none
    · exact collected.once parcel (same.symm.trans here)
    · rw [none] at here
      cases here

theorem picked {attempts : Nat} (collected : multiplexer.Collected)
    (few : item.isEcho = true → multiplexer.table.get? connection = none ∨ 1 < attempts)
    (picked : Picked setting item connection multiplexer attempts after) : after.Collected := by
  cases picked with
  | exhausted => exact collected.of_same rfl (.inl rfl)
  | dismissed _ _ => exact collected.of_same rfl (.inl rfl)
  | found entry =>
    refine ⟨collected.drained, fun parcel here echo => ?_⟩
    cases here
    rcases few echo with absent | more
    · rw [entry] at absent
      cases absent
    · exact Nat.lt_of_succ_lt_succ more
  | started _ starts =>
    refine ⟨fun worker member => ?_, fun parcel here echo => ?_⟩
    · rcases List.mem_append.mp member with old | new
      · exact collected.drained worker old
      · cases List.mem_singleton.mp new
        exact Task.drained_spawn _
    · cases here
      rw [item.startsConversation_eq, echo] at starts
      cases starts

theorem routed (collected : multiplexer.Collected)
    (routed : Routed setting item multiplexer after) : after.Collected := by
  cases routed with
  | keptAlive _ => exact collected.of_same rfl (.inl rfl)
  | picked _ picked =>
    refine Collected.picked ?_ ?_ picked
    · exact collected.of_same rfl (.inl rfl)
    · exact fun _ => .inr (by decide)

theorem handedOver {parcel : Parcel} (collected : multiplexer.Collected)
    (handed : HandedOver setting parcel multiplexer after) : after.Collected := by
  cases handed with
  | nowhere _ => exact collected
  | @delivered worker task found delivered =>
    have given := Task.deliver?_delivered delivered
    have before := collected.drained worker (holder?_some found).1
    refine ⟨forall_setTask (P := Task.Drained) ?_ collected.drained, collected.once⟩
    exact before.of_same given.phase given.conversation
  | refused _ _ picked =>
    have erased : Collected
        { multiplexer with table := multiplexer.table.erase parcel.connection } :=
      collected.of_same rfl (.inl rfl)
    exact Collected.picked erased (fun _ => .inl (by simp [TextMap.get?_erase])) picked

variable [Evaluator σ] {move : Move}

theorem step (collected : multiplexer.Collected) (step : Step setting multiplexer move after) :
    after.Collected := by
  cases step with
  | @evict completion rest _ _ =>
    obtain ⟨workers, _, held⟩ := complete_frame completion { multiplexer with completions := rest }
    exact collected.of_same workers (.inl held)
  | routeInbound _ _ routed =>
    refine Collected.routed ?_ routed
    exact collected.of_same rfl (.inl rfl)
  | routeControl _ _ routed =>
    refine Collected.routed ?_ routed
    exact collected.of_same rfl (.inl rfl)
  | handOver _ _ _ handed =>
    refine Collected.handedOver ?_ handed
    exact collected.of_same rfl (.inr rfl)
  | noticeClosed _ _ _ | noticeCancelled _ _ =>
    refine ⟨fun worker member => ?_, collected.once⟩
    obtain ⟨other, inside, rfl⟩ := List.mem_map.mp member
    exact (collected.drained other inside).of_same rfl rfl
  | finish _ _ =>
    obtain ⟨table, ledger, same⟩ := exists_finish multiplexer
    rw [same]
    exact collected.of_same rfl (.inl rfl)
  | work found moved =>
    refine ⟨forall_setTask (P := Task.Drained) ?_ collected.drained, collected.once⟩
    exact moved.drained (collected.drained _ (worker?_some found).1)

theorem run {occurrences : List Occurrence} (collected : multiplexer.Collected)
    (ran : multiplexer.run? setting occurrences = some after) : after.Collected := by
  induction occurrences generalizing multiplexer with
  | nil => cases ran; exact collected
  | cons occurrence rest ih =>
    obtain ⟨next, occurred, later⟩ := Option.bind_eq_some_iff.mp ran
    refine ih ?_ later
    cases occurrence with
    | moved move => exact collected.step (step_of_advance? occurred)
    | _ =>
      have same := untouched_of_occur? (by simp) occurred
      exact collected.of_same same.workers (.inl same.held)

theorem reaches (collected : multiplexer.Collected)
    (reaches : Reaches setting multiplexer after) : after.Collected := by
  obtain ⟨moves, ran⟩ := reaches
  exact collected.run ran

end Collected

theorem conversations_setTask (distinct : (multiplexer.workers.map Worker.generation).Nodup)
    (found : multiplexer.worker? generation = some worker) {task : Task definition σ}
    (same : task.conversation.surface = worker.task.conversation.surface) :
    (multiplexer.setTask generation task).conversations = multiplexer.conversations := by
  obtain ⟨member, own⟩ := worker?_some found
  rw [conversations, conversations, setTask, List.map_map]
  apply List.map_congr_left
  intro other inside
  by_cases changed : other.generation = generation
  · have one : other = worker :=
      List.inj_on_of_nodup_map distinct inside member (changed.trans own.symm)
    subst one
    simp only [Function.comp, if_pos changed, same]
  · simp only [Function.comp, if_neg changed]

theorem Step.silent [Evaluator σ] {move : Move} (step : Step setting multiplexer move after)
    (ignores : definition.IgnoresOwn) (coherent : multiplexer.Coherent)
    (collected : multiplexer.Collected) (about : multiplexer.atHand move = some item)
    (echo : item.isEcho = true) :
    after.ledger.surface = multiplexer.ledger.surface ∧
      after.conversations = multiplexer.conversations := by
  cases step with
  | evict _ _ => cases about
  | noticeClosed _ _ _ => cases about
  | noticeCancelled _ _ => cases about
  | finish _ _ => cases about
  | routeControl control _ _ =>
    simp only [atHand, control, List.head?_cons, Option.map_some, Option.some.injEq] at about
    subst about
    cases echo
  | routeInbound items _ routed =>
    simp only [atHand, items, List.head?_cons, Option.some.injEq] at about
    subst about
    cases routed with
    | keptAlive silent =>
      obtain ⟨status, rfl, _⟩ := Notification.exists_status echo
      cases silent
    | picked _ picked =>
      rcases picked.of_echo echo (by decide) with rfl | ⟨_, _, rfl⟩ <;> exact ⟨rfl, rfl⟩
  | @handOver parcel _ held routing _ handed =>
    simp only [atHand, held, Option.map_some, Option.some.injEq] at about
    subst about
    cases handed with
    | nowhere _ => exact ⟨rfl, rfl⟩
    | delivered found delivered =>
      have given := Task.deliver?_delivered delivered
      refine ⟨rfl, ?_⟩
      apply conversations_setTask coherent.distinct (worker?_of_holder? found)
      rw [given.conversation]
    | refused _ _ picked =>
      rcases picked.of_echo echo (collected.once parcel held echo) with rfl | ⟨_, _, rfl⟩ <;>
        exact ⟨rfl, rfl⟩
  | work found moved =>
    simp only [atHand, found, Option.bind_some] at about
    have drained := collected.drained _ (worker?_some found).1
    obtain ⟨shown, noted⟩ := moved.silent ignores drained about echo
    exact ⟨noted, conversations_setTask coherent.distinct found shown⟩

end Multiplexer
end Parley
