import Parley.Proofs.Conversation.Prefix
/-!
Which calls a conversation tries.

Once something has been found for an item, a conversation tries the calls of sends and answers of
its own, and no others. So whatever holds of these calls holds of all that it tries then. Only a
status that waits for a decision comes to another call before.
-/

namespace Parley

variable {definition : Definition} {σ : Type}

structure Question.Covered (allowed : Call → Prop) (question : Option Question) : Prop where
  sends : ∀ (connection : String) (send : Send) (call : Call),
    send.callOn connection question = some call → allowed call
  answers : ∀ asked, question = some asked → ∀ ack, allowed (.answer asked.id ack "")

/-- The other party has started the protocol, and it is our turn to decide. -/
def Status.awaitsDecision (change : Status) : Bool := change.progress = .waiting && !change.ours

theorem Status.awaitsDecision_of_given_up {change : Status}
    (ended : change.progress = .declined ∨ change.progress = .failed) :
    change.awaitsDecision = false := by
  rcases ended with declined | failed
  · simp [awaitsDecision, declined]
  · simp [awaitsDecision, failed]

namespace Session

def TriesOnly (allowed : Call → Prop) (before after : Session definition σ) : Prop :=
  ∃ new, after.ledger.attempts = new ++ before.ledger.attempts ∧
    ∀ attempt ∈ new, allowed attempt.call

theorem commit_attempts (transition : Transition) (session : Session definition σ) :
    (session.commit transition).ledger.attempts = session.ledger.attempts := by
  unfold commit
  split <;> rfl

variable {allowed : Call → Prop}

namespace TriesOnly

variable {first second third : Session definition σ}

theorem of_attempts {before after : Session definition σ}
    (same : after.ledger.attempts = before.ledger.attempts) : TriesOnly allowed before after :=
  ⟨[], same, by simp⟩

theorem trans (earlier : TriesOnly allowed first second)
    (later : TriesOnly allowed second third) : TriesOnly allowed first third := by
  obtain ⟨old, tried, plain⟩ := earlier
  obtain ⟨new, more, others⟩ := later
  refine ⟨new ++ old, ?_, List.forall_mem_append.mpr ⟨others, plain⟩⟩
  rw [more, tried, List.append_assoc]

end TriesOnly

theorem call_tries (client : Client) {call : Call} (fits : allowed call)
    (session : Session definition σ) : TriesOnly allowed session (session.call client call).2 := by
  refine ⟨[_], call_attempts client call session, ?_⟩
  intro attempt member
  rw [List.mem_singleton.mp member]
  exact fits

variable {question : Option Question}

theorem dispatchOne_tries (covered : Question.Covered allowed question) (client : Client)
    (send : Send) (session : Session definition σ) :
    TriesOnly allowed session (dispatchOne client question send session).session := by
  rw [dispatchOne_eq]
  cases called : send.callOn session.connection question with
  | none => exact .of_attempts rfl
  | some call =>
    have tried := call_tries client (covered.sends _ send call called) session
    dsimp only
    generalize session.call client call = outcome at tried
    obtain ⟨accepted, after⟩ := outcome
    cases accepted with
    | true => exact tried.trans (.of_attempts rfl)
    | false => exact tried

theorem dispatchAll_tries (covered : Question.Covered allowed question) (client : Client)
    (sends : List Send) (session : Session definition σ) :
    TriesOnly allowed session (dispatchAll client question sends session).session := by
  induction sends generalizing session with
  | nil => exact .of_attempts rfl
  | cons send rest ih =>
    have first := dispatchOne_tries covered client send session
    rw [dispatchAll]
    split
    next stopped => rw [stopped] at first; exact first
    next went => rw [went] at first; exact first.trans (ih _)

theorem abandon_tries (answers : ∀ asked, question = some asked → ∀ ack,
      allowed (.answer asked.id ack "")) (client : Client) (queued : Nat)
    (session : Session definition σ) :
    TriesOnly allowed session (session.abandon client queued question) := by
  unfold abandon
  cases question with
  | none => exact .of_attempts rfl
  | some asked =>
    have undone : TriesOnly allowed session
        ((session.withMachine session.machine.rollback).withQueue (session.queue.take queued)) :=
      .of_attempts rfl
    exact undone.trans (call_tries client (answers asked rfl false) _)

theorem conclude_tries (covered : Question.Covered allowed question) (client : Client)
    (transition : Transition) (queued : Nat) (result : Dispatch definition σ) :
    TriesOnly allowed result.session (conclude client transition queued question result) := by
  obtain ⟨complete, answered, session⟩ := result
  have remaining : ∀ asked, (if answered then none else question) = some asked → ∀ ack,
      allowed (.answer asked.id ack "") := by
    cases answered with
    | true => simp
    | false => exact covered.answers
  unfold conclude
  dsimp only
  generalize (if answered then none else question) = remaining? at remaining
  cases complete with
  | false => exact abandon_tries remaining client queued session
  | true =>
    cases remaining? with
    | none => exact .of_attempts (commit_attempts transition session)
    | some asked =>
      have told := call_tries client (remaining asked rfl (acknowledges transition)) session
      simp only [if_true, Session.answer]
      generalize session.call client (.answer asked.id (acknowledges transition) "") = outcome
        at told
      obtain ⟨accepted, after⟩ := outcome
      cases accepted with
      | true => exact told.trans (.of_attempts (commit_attempts transition after))
      | false => exact told.trans (abandon_tries nofun client queued after)

variable [Evaluator σ]

theorem fire_tries (covered : Question.Covered allowed question) (client : Client)
    (transition : Transition) (input : String) (session : Session definition σ) :
    TriesOnly allowed session (session.fire client transition input question) := by
  cases done : session.machine.buildSends transition input with
  | mk result built =>
    cases result with
    | error fault =>
      have ready : TriesOnly allowed session ((session.withMachine built).note .noteSendError) :=
        .of_attempts rfl
      unfold fire
      simp only [done]
      exact ready.trans (abandon_tries covered.answers client _ _)
    | ok sends =>
      have ready : TriesOnly allowed session (session.withMachine built) := .of_attempts rfl
      rw [fire_of_built done]
      exact (ready.trans (dispatchAll_tries covered client sends _)).trans
        (conclude_tries covered client transition _ _)

theorem follow_tries (covered : Question.Covered allowed none) (client : Client)
    (found : Option Transition × Machine definition σ) (input : String)
    (session : Session definition σ) :
    TriesOnly allowed session (session.follow client found input) := by
  unfold follow
  split
  next transition machine =>
    exact fire_tries covered client transition input (session.withMachine machine)
  next => exact .of_attempts rfl

theorem drainFrom_tries (covered : Question.Covered allowed none) (client : Client) (hops : Nat)
    (session : Session definition σ) :
    TriesOnly allowed session (session.drainFrom client hops) := by
  induction hops generalizing session with
  | zero => exact .of_attempts rfl
  | succ hops ih =>
    unfold drainFrom
    split
    next => exact .of_attempts rfl
    next content rest _ =>
      split
      next => exact .of_attempts rfl
      next =>
        have told : TriesOnly allowed session
            ((session.withQueue rest).handleTransient client content) :=
          follow_tries covered client _ content (session.withQueue rest)
        exact told.trans (ih _)

def decision (change : Status) (session : Session definition σ) : Call :=
  .resume session.connection change.protocolId (session.machine.onStatus change).1.isSome

/-- What can come of a status. It is passed over, or what is found for it is followed, unless there
is a decision to make and this is refused. -/
theorem handleStatus_cases (client : Client) (change : Status) (session : Session definition σ) :
    let found := session.machine.onStatus change
    let after := session.handleStatus client change
    ((change.progress = .declined ∨ change.progress = .failed) ∧ after = session) ∨
      (change.awaitsDecision = false ∧ after = session.follow client found change.content) ∨
      (change.awaitsDecision = true ∧
        ∃ decided, session.call client (session.decision change) = (true, decided) ∧
          after = decided.follow client found change.content) ∨
      (change.awaitsDecision = true ∧
        ∃ decided, session.call client (session.decision change) = (false, decided) ∧
          after = decided.withMachine (if found.1.isSome then found.2.rollback else found.2)) := by
  intro found after
  unfold after handleStatus
  split
  next declined => exact .inl ⟨.inl declined, rfl⟩
  next failed => exact .inl ⟨.inr failed, rfl⟩
  next =>
    dsimp only
    split
    next waits =>
      split
      next decided told => exact .inr (.inr (.inl ⟨waits, decided, told, rfl⟩))
      next decided told => exact .inr (.inr (.inr ⟨waits, decided, told, rfl⟩))
    next settled => exact .inr (.inl ⟨Bool.eq_false_iff.mpr settled, rfl⟩)

end Session

end Parley
