import Parley.Proofs.Conversation.Steady
import Parley.Proofs.Conversation.Step
/-!
What a conversation adds to the ledger.

With a client that decides by the call alone, a conversation makes the same moves whatever has been
written down before. What it writes down is then the same as on an empty page, and is laid over what
was there.
-/

namespace Parley

variable {definition : Definition} {σ : Type}

def Counters.add (first second : Counters) : Counters where
  notifications := first.notifications + second.notifications
  keepAlives := first.keepAlives + second.keepAlives
  started := first.started + second.started
  completed := first.completed + second.completed
  active := first.active + second.active
  routingErrors := first.routingErrors + second.routingErrors
  transitions := first.transitions + second.transitions
  unmatched := first.unmatched + second.unmatched
  sends := first.sends + second.sends
  sendErrors := first.sendErrors + second.sendErrors

theorem Counters.zero_add (counters : Counters) : Counters.zero.add counters = counters := by
  simp only [add, zero, Nat.zero_add]

theorem Counters.add_left_comm (first second third : Counters) :
    first.add (second.add third) = second.add (first.add third) := by
  simp only [add, Nat.add_left_comm]

namespace Ledger

/-- What has been written since, laid over what was there. -/
def atop (fresh base : Ledger) : Ledger where
  attempts := fresh.attempts ++ base.attempts
  counters := fresh.counters.add base.counters

theorem empty_atop (base : Ledger) : empty.atop base = base := by
  rw [atop, empty, Counters.zero_add, List.nil_append]

theorem atop_noteSendError (fresh base : Ledger) :
    (fresh.atop base).noteSendError = fresh.noteSendError.atop base := by
  simp only [atop, noteSendError, Counters.add, Nat.add_right_comm]

theorem call_deciding (ledger : Ledger) (refuses : Call → Option ClientError) (name : String)
    (call : Call) :
    (ledger.call (.deciding refuses) name call).2 =
      let noted : Ledger :=
        { ledger with attempts := ⟨name, call, refuses call⟩ :: ledger.attempts }
      if (refuses call).isNone then noted else noted.noteSendError := by
  unfold Ledger.call
  dsimp only [Client.deciding]
  split <;> rfl

def IsOf (name : String) (ledger : Ledger) : Prop :=
  ∀ attempt ∈ ledger.attempts, attempt.connection = name

structure Laid (name : String) (base fresh whole : Ledger) : Prop where
  whole : whole = fresh.atop base
  isOf : fresh.IsOf name

theorem Laid.nothing (name : String) (base : Ledger) : Laid name base empty base :=
  ⟨(empty_atop base).symm, by simp [IsOf, empty]⟩

theorem Laid.note {name : String} {base fresh whole : Ledger} (laid : Laid name base fresh whole)
    {write : Ledger → Ledger} (attempts : (write fresh).attempts = fresh.attempts)
    (counted : write (fresh.atop base) = (write fresh).atop base) :
    Laid name base (write fresh) (write whole) where
  whole := by rw [laid.whole, counted]
  isOf := by
    rw [IsOf, attempts]
    exact laid.isOf

end Ledger

theorem Client.deciding_steady (refuses : Call → Option ClientError) (name : String)
    (base : Ledger) : (Client.deciding refuses).Steady name (Ledger.Laid name base) where
  call := fun {fresh whole} call laid => by
    obtain ⟨rfl, isOf⟩ := laid
    have attempts := fresh.call_attempts (.deciding refuses) name call
    have marked : (fresh.call (.deciding refuses) name call).2.IsOf name := by
      rw [Ledger.IsOf, attempts.1]
      exact List.forall_mem_cons.mpr ⟨rfl, isOf⟩
    refine ⟨?_, ?_, marked⟩
    · rw [attempts.2, ((fresh.atop base).call_attempts (.deciding refuses) name call).2]
      rfl
    · rw [Ledger.call_deciding, Ledger.call_deciding]
      split
      next => rfl
      next => exact Ledger.atop_noteSendError ⟨_ :: fresh.attempts, fresh.counters⟩ base
  send := fun laid => laid.note rfl (by
    simp only [Ledger.atop, Ledger.noteSend, Counters.add, Nat.add_right_comm])
  sendError := fun laid => laid.note rfl (Ledger.atop_noteSendError _ base)
  transition := fun laid => laid.note rfl (by
    simp only [Ledger.atop, Ledger.noteTransition, Counters.add, Nat.add_right_comm])
  unmatched := fun laid => laid.note rfl (by
    simp only [Ledger.atop, Ledger.noteUnmatched, Counters.add, Nat.add_right_comm])

namespace Task

variable [Evaluator σ] {refuses : Call → Option ClientError} {isCancelled : Bool}
  {task : Task definition σ} {ledger : Ledger} {move : Move} {result : Task definition σ × Ledger}

omit [Evaluator σ] in
theorem settled_of_laid {name : String} {base : Ledger} {alone among : Session definition σ}
    (alike : Session.Alike name (Ledger.Laid name base) alone among) (task : Task definition σ) :
    task.settled among = ((task.settled alone).1, alone.ledger.atop base) := by
  simp only [settled, alike.conversation, alike.isFinished, alike.ledger.whole]

theorem Step.written (step : Step (.deciding refuses) isCancelled task ledger move result) :
    ∃ fresh : Ledger, fresh.IsOf task.conversation.connection ∧ result.2 = fresh.atop ledger ∧
      ∀ base : Ledger, Step (.deciding refuses) isCancelled task base move
        (result.1, fresh.atop base) := by
  have steady := Client.deciding_steady refuses task.conversation.connection
  have alike (base : Ledger) : Session.Alike task.conversation.connection
      (Ledger.Laid task.conversation.connection base) ⟨task.conversation, .empty⟩
      ⟨task.conversation, base⟩ :=
    ⟨rfl, rfl, .nothing _ base⟩
  have unwritten {move : Move} {after : Task definition σ}
      (made : ∀ base, Step (.deciding refuses) isCancelled task base move (after, base)) :
      ∃ fresh : Ledger, fresh.IsOf task.conversation.connection ∧ ledger = fresh.atop ledger ∧
        ∀ base : Ledger, Step (.deciding refuses) isCancelled task base move
          (after, fresh.atop base) := by
    refine ⟨.empty, by simp [Ledger.IsOf, Ledger.empty], (Ledger.empty_atop ledger).symm, ?_⟩
    intro base
    rw [Ledger.empty_atop]
    exact made base
  cases step with
  | begin phase =>
    have begun (base : Ledger) := settled_of_laid ((alike base).begin (steady base)) task
    refine ⟨_, ((alike ledger).begin (steady ledger)).ledger.isOf, ?_, fun base => ?_⟩
    · rw [begun ledger]
    · rw [begun ledger, ← begun base]
      exact .begin phase
  | @handle item phase =>
    have taken (base : Ledger) := settled_of_laid ((alike base).take (steady base) item) task
    refine ⟨_, ((alike ledger).take (steady ledger) item).ledger.isOf, ?_, fun base => ?_⟩
    · rw [taken ledger]
    · rw [taken ledger, ← taken base]
      exact .handle phase
  | takeNotification listening items =>
    exact unwritten fun _ => .takeNotification listening items
  | takeHook listening items => exact unwritten fun _ => .takeHook listening items
  | noticeClosed listening items closed =>
    exact unwritten fun _ => .noticeClosed listening items closed
  | noticeCancelled listening cancelled =>
    exact unwritten fun _ => .noticeCancelled listening cancelled
  | report ended => exact unwritten fun _ => .report ended

end Task
end Parley
