import Parley.Proofs.Conversation.AllOrNothing
import Parley.Proofs.Conversation.Attempts
import Parley.Proofs.Conversation.Echo
/-!
The decision about a protocol that waits for one.

It is taken once the machine has been asked for a transition, and before anything is sent. Neither
sends nor answers come to such a call, so a status that waits for a decision brings one, and any
other status none.
-/

namespace Parley

variable {definition : Definition} {σ : Type}

def Call.decides : Call → Bool
  | .resume _ _ _ => true
  | _ => false

theorem Question.covered_undecided (question : Option Question) :
    Question.Covered (fun call => call.decides = false) question where
  sends connection send call called := by
    by_cases own : send.protocol = .transient
    · simp [Send.callOn, own] at called
    · by_cases ping : send.protocol = .trustPing <;> cases payload : send.payload <;>
        cases question <;> simp [Send.callOn, Send.call?, own, ping, payload] at called <;>
        subst called <;> rfl
  answers _ _ _ := rfl

namespace Session

def Undecided (before after : Session definition σ) : Prop :=
  TriesOnly (fun call => call.decides = false) before after

/-- This decision is what is tried first, and no other decision follows. -/
def DecidesFirst (decision : Attempt) (before after : Session definition σ) : Prop :=
  ∃ later, after.ledger.attempts = later ++ decision :: before.ledger.attempts ∧
    ∀ attempt ∈ later, attempt.call.decides = false

theorem DecidesFirst.of_attempts {decision : Attempt} {before after : Session definition σ}
    (tried : after.ledger.attempts = decision :: before.ledger.attempts) :
    DecidesFirst decision before after :=
  ⟨[], tried, by simp⟩

theorem DecidesFirst.trans {decision : Attempt} {first second third : Session definition σ}
    (earlier : DecidesFirst decision first second) (rest : Undecided second third) :
    DecidesFirst decision first third := by
  obtain ⟨old, tried, plain⟩ := earlier
  obtain ⟨new, more, others⟩ := rest
  refine ⟨new ++ old, ?_, List.forall_mem_append.mpr ⟨others, plain⟩⟩
  rw [more, tried, List.append_assoc]

variable [Evaluator σ] {change : Status}

theorem handleStatus_undecided (client : Client) (settled : change.awaitsDecision = false)
    (session : Session definition σ) :
    Undecided session (session.handleStatus client change) := by
  rcases session.handleStatus_cases client change with
    ⟨_, same⟩ | ⟨_, same⟩ | ⟨waits, _⟩ | ⟨waits, _⟩
  · rw [same]
    exact .of_attempts rfl
  · rw [same]
    exact follow_tries (Question.covered_undecided none) client _ _ session
  · cases settled.symm.trans waits
  · cases settled.symm.trans waits

theorem drain_undecided (client : Client) (session : Session definition σ) :
    Undecided session (session.drain client) :=
  drainFrom_tries (Question.covered_undecided none) client hopLimit session

theorem handleStatus_decidesFirst (client : Client) (waits : change.awaitsDecision = true)
    (session : Session definition σ) :
    DecidesFirst
      ⟨session.connection, session.decision change,
        client.refuses session.ledger.attempts (session.decision change)⟩
      session (session.handleStatus client change) := by
  have tried := call_attempts client (session.decision change) session
  rcases session.handleStatus_cases client change with
    ⟨ended, _⟩ | ⟨settled, _⟩ | ⟨_, decided, told, same⟩ | ⟨_, decided, told, same⟩
  · cases (Status.awaitsDecision_of_given_up ended).symm.trans waits
  · cases settled.symm.trans waits
  · rw [told] at tried
    rw [same]
    exact (DecidesFirst.of_attempts tried).trans
      (follow_tries (Question.covered_undecided none) client _ _ decided)
  · rw [told] at tried
    rw [same]
    exact .of_attempts tried

/-- A refused decision ends it: nothing else is tried, and nothing moves. -/
structure Blocked (decision : Attempt) (resolved : Bool) (before after : Session definition σ) :
    Prop where
  attempts : after.ledger.attempts = decision :: before.ledger.attempts
  place : Machine.SamePlace before.machine after.machine
  queue : after.queue = before.queue
  memory : resolved = true → after.machine.memory = before.machine.memory

theorem handleStatus_blocked {client : Client} (waits : change.awaitsDecision = true)
    {session : Session definition σ}
    (refused : (client.refuses session.ledger.attempts (session.decision change)).isSome = true) :
    Blocked
      ⟨session.connection, session.decision change,
        client.refuses session.ledger.attempts (session.decision change)⟩
      (session.machine.onStatus change).1.isSome session (session.handleStatus client change) := by
  have place := session.machine.find_samePlace (.status change)
  have kept := session.machine.find_checkpoint (.status change)
  have tried := call_attempts client (session.decision change) session
  have accepts := call_accepts client (session.decision change) session
  have stays := call_conversation client (session.decision change) session
  rcases session.handleStatus_cases client change with
    ⟨ended, _⟩ | ⟨settled, _⟩ | ⟨_, decided, told, same⟩ | ⟨_, decided, told, same⟩
  · cases (Status.awaitsDecision_of_given_up ended).symm.trans waits
  · cases settled.symm.trans waits
  · rw [told] at accepts
    rw [Option.isNone_iff_eq_none.mp accepts.symm] at refused
    cases refused
  · rw [told] at tried stays
    rw [same]
    refine ⟨tried, ?_, (congrArg Conversation.queue stays :), ?_⟩
    · change Machine.SamePlace session.machine (if _ then _ else _)
      split
      next => exact place.trans (Machine.rollback_samePlace _)
      next => exact place
    · intro resolved
      rw [if_pos resolved]
      exact Machine.rollback_memory kept

/-- A protocol of the other party that waits is decided about first and once, and it may go on if
there is a transition for it. Once a decision is refused nothing else is tried, and the machine stays
where it is with the memory of before. No decision is made for any other status. -/
theorem waiting_is_decided_first (client : Client) (change : Status)
    (before : Session definition σ) :
    let resolved := (before.machine.onStatus change).1.isSome
    let call := Call.resume before.connection change.protocolId resolved
    let refusal := client.refuses before.ledger.attempts call
    let handled := before.handle client (.status change)
    let taken := before.take client (.status change)
    (change.progress = .waiting ∧ change.ours = false →
        DecidesFirst ⟨before.connection, call, refusal⟩ before handled ∧
        DecidesFirst ⟨before.connection, call, refusal⟩ before taken ∧
        (refusal.isSome = true →
          Blocked ⟨before.connection, call, refusal⟩ resolved before handled ∧
            (before.queue = [] → taken = handled))) ∧
      (¬(change.progress = .waiting ∧ change.ours = false) →
        Undecided before handled ∧ Undecided before taken) := by
  intro resolved call refusal handled taken
  have drained : Undecided handled taken := drain_undecided client handled
  constructor
  · rintro ⟨waiting, theirs⟩
    have waits : change.awaitsDecision = true := by simp [Status.awaitsDecision, waiting, theirs]
    have decided : DecidesFirst _ before handled := handleStatus_decidesFirst client waits before
    refine ⟨decided, decided.trans drained, fun refused => ?_⟩
    have blocked : Blocked _ resolved before handled := handleStatus_blocked waits refused
    refine ⟨blocked, fun empty => ?_⟩
    exact drain_of_queue_nil (blocked.queue.trans empty)
  · intro other
    have settled : change.awaitsDecision = false := by
      rw [← Bool.not_eq_true]
      simpa [Status.awaitsDecision] using other
    have undecided : Undecided before handled := handleStatus_undecided client settled before
    exact ⟨undecided, undecided.trans drained⟩

/-- A clerk who may not let a message through does not hear it. -/
example :
    let client := Client.refusing Call.decides
    let waiting : Status := { Status.message "c" "p" "bye" with progress := .waiting }
    let after := atDesk.handle client (.status waiting)
    after.ledger.attempts = [⟨"c", .resume "c" "p" true, some (.transport "refused")⟩] ∧
      after.machine.state.name = "DESK" := by
  decide

end Session

end Parley
