import Parley.Proofs.Conversation.Turn
/-!
What a machine tells itself.

A machine is told what it has queued for itself in turns of their own, the first one queued first.
Such a turn may queue any number of further things. It is the number of turns that bounds them, not
the queue, and what is left over then is dropped.
-/

namespace Parley

variable {definition : Definition} {σ : Type} [Evaluator σ]

namespace Session

def reach (session : Session definition σ) (turns : List (Turn definition σ)) :
    Session definition σ :=
  turns.foldl (fun _ turn => turn.after) session

def hop (client : Client) (content : String) (rest : List String)
    (session : Session definition σ) : Turn definition σ :=
  ⟨client, .item (.transient content), session.withQueue rest⟩

def hopsFrom (client : Client) : Nat → Session definition σ → List (Turn definition σ)
  | 0, _ => []
  | limit + 1, session =>
    match session.queue with
    | [] => []
    | content :: rest =>
      if session.isFinished then []
      else
        session.hop client content rest ::
          hopsFrom client limit (session.hop client content rest).after

def hops (client : Client) (session : Session definition σ) : List (Turn definition σ) :=
  session.hopsFrom client hopLimit

/-- Turns in which a machine is told what stands first in its queue, until it has ended, there is
nothing left to tell, or there have been so many. -/
inductive Feeds (client : Client) :
    Nat → Session definition σ → List (Turn definition σ) → Prop where
  | full {session : Session definition σ} : Feeds client 0 session []
  | empty {limit : Nat} {session : Session definition σ} :
      session.queue = [] → Feeds client limit session []
  | finished {limit : Nat} {session : Session definition σ} :
      session.isFinished = true → Feeds client limit session []
  | hop {limit : Nat} {session : Session definition σ} {content : String} {rest : List String}
      {later : List (Turn definition σ)} :
      session.queue = content :: rest → session.isFinished = false →
        Feeds client limit (session.hop client content rest).after later →
          Feeds client (limit + 1) session (session.hop client content rest :: later)

theorem hopsFrom_feeds (client : Client) (limit : Nat) (session : Session definition σ) :
    Feeds client limit session (session.hopsFrom client limit) := by
  induction limit generalizing session with
  | zero => exact .full
  | succ limit ih =>
    unfold hopsFrom
    split
    next nothing => exact .empty nothing
    next queued =>
      split
      next ended => exact .finished ended
      next running => exact .hop queued (Bool.eq_false_iff.mpr running) (ih _)

theorem hops_feeds (client : Client) (session : Session definition σ) :
    Feeds client hopLimit session (session.hops client) :=
  hopsFrom_feeds client hopLimit session

namespace Feeds

variable {client : Client} {limit : Nat} {session : Session definition σ}
  {turns : List (Turn definition σ)}

theorem length_le (feeds : Feeds client limit session turns) : turns.length ≤ limit := by
  induction feeds with
  | full => exact Nat.le_refl 0
  | empty _ => exact Nat.zero_le _
  | finished _ => exact Nat.zero_le _
  | hop _ _ _ ih => exact Nat.succ_le_succ ih

theorem length_heard (feeds : Feeds client limit session turns) :
    (turns.flatMap Turn.heard).length = turns.length := by
  induction feeds with
  | full | empty _ | finished _ => rfl
  | hop _ _ _ ih => exact congrArg Nat.succ ih

theorem occasion (feeds : Feeds client limit session turns) {turn : Turn definition σ}
    (member : turn ∈ turns) : ∃ content, turn.occasion = .item (.transient content) := by
  induction feeds with
  | full | empty _ | finished _ => cases member
  | hop _ _ _ ih =>
    rcases List.mem_cons.mp member with rfl | later
    · exact ⟨_, rfl⟩
    · exact ih later

theorem suffix (feeds : Feeds client limit session turns) {prior later : List (Turn definition σ)}
    (parts : turns = prior ++ later) :
    Feeds client (limit - prior.length) (session.reach prior) later := by
  induction feeds generalizing prior with
  | full =>
    obtain ⟨rfl, rfl⟩ := List.nil_eq_append_iff.mp parts
    exact .full
  | empty nothing =>
    obtain ⟨rfl, rfl⟩ := List.nil_eq_append_iff.mp parts
    exact .empty nothing
  | finished ended =>
    obtain ⟨rfl, rfl⟩ := List.nil_eq_append_iff.mp parts
    exact .finished ended
  | @hop limit _ _ _ _ queued running more ih =>
    cases prior with
    | nil =>
      rw [← show _ = later from parts]
      exact .hop queued running more
    | cons first prior =>
      obtain ⟨rfl, rest⟩ := List.cons.inj parts
      rw [List.length_cons, Nat.add_sub_add_right]
      exact ih rest

/-- First in, first out: what has been told is what was queued, from the front on. -/
theorem inOrder (feeds : Feeds client limit session turns)
    {prior later : List (Turn definition σ)} (parts : turns = prior ++ later) :
    prior.flatMap Turn.heard ++ (session.reach prior).queue =
      session.queue ++ prior.flatMap Turn.told := by
  induction feeds generalizing prior with
  | full | empty _ | finished _ =>
    obtain ⟨rfl, _⟩ := List.nil_eq_append_iff.mp parts
    exact (List.append_nil _).symm
  | @hop limit session content rest _ queued running more ih =>
    cases prior with
    | nil => exact (List.append_nil _).symm
    | cons first prior =>
      obtain ⟨rfl, others⟩ := List.cons.inj parts
      -- The hop takes its content off the front, and what it tells goes to the back.
      have later := ih others
      have told := (session.hop client content rest).after_queue
      calc (session.hop client content rest :: prior).flatMap Turn.heard ++
              (session.reach (session.hop client content rest :: prior)).queue
          = content :: (prior.flatMap Turn.heard ++
              ((session.hop client content rest).after.reach prior).queue) := rfl
        _ = content :: ((session.hop client content rest).after.queue ++
              prior.flatMap Turn.told) := by rw [later]
        _ = content :: (rest ++ (session.hop client content rest).told ++
              prior.flatMap Turn.told) := by rw [told]; rfl
        _ = session.queue ++ (session.hop client content rest :: prior).flatMap Turn.told := by
            rw [queued]
            simp

theorem stops (feeds : Feeds client limit session turns) :
    turns.length = limit ∨ (session.reach turns).queue = [] ∨
      (session.reach turns).isFinished = true := by
  induction feeds with
  | full => exact .inl rfl
  | empty nothing => exact .inr (.inl nothing)
  | finished ended => exact .inr (.inr ended)
  | hop _ _ _ ih => exact ih.imp_left (congrArg Nat.succ)

theorem takes (feeds : Feeds client limit session turns) :
    TakesAtMost turns.length session (session.reach turns) := by
  induction feeds with
  | full | empty _ | finished _ => exact .of_eq rfl 0
  | @hop _ session content rest later _ _ _ ih =>
    have here : TakesAtMost 1 session (session.hop client content rest).after :=
      (session.hop client content rest).after_takes
    rw [List.length_cons, Nat.add_comm]
    exact here.trans ih

/-- The turns are those of the loop. -/
theorem drainFrom_eq (feeds : Feeds client limit session turns) :
    session.drainFrom client limit = (session.reach turns).withQueue [] := by
  induction feeds with
  | full => rfl
  | @empty limit session nothing =>
    have same : session = session.withQueue [] := by
      rw [← nothing]
      rfl
    cases limit with
    | zero => rfl
    | succ limit =>
      unfold drainFrom
      rw [nothing]
      exact same
  | @finished limit session ended =>
    cases limit with
    | zero => rfl
    | succ limit =>
      unfold drainFrom
      split
      next nothing =>
        rw [← nothing]
        rfl
      next =>
        rw [if_pos ended]
        rfl
  | hop queued running _ ih =>
    unfold drainFrom
    rw [queued]
    simp only [running, Bool.false_eq_true, if_false]
    exact ih

theorem eq_nil_of_finished (feeds : Feeds client limit session turns)
    (ended : session.isFinished = true) : turns = [] := by
  cases feeds with
  | full | empty _ | finished _ => rfl
  | hop _ running _ => cases running.symm.trans ended

end Feeds

end Session
end Parley
