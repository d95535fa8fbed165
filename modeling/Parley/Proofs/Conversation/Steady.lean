import Parley.Proofs.Conversation.Prefix
/-!
Conversations that go the same way whatever is written down beside them.

What a conversation reads of the ledger is only what its client makes of the attempts. If the client
answers in the same way to two ledgers, and goes on to do so while the conversation writes into
them, then the conversation comes to the same state with either.
-/

namespace Parley

variable {definition : Definition} {σ : Type}

def Client.deciding (refuses : Call → Option ClientError) : Client where
  refuses _ := refuses

/-- A client tells a conversation with this name the same whichever of two ledgers is written to,
and what the conversation writes into both does not change that. -/
structure Client.Steady (client : Client) (name : String) (beside : Ledger → Ledger → Prop) :
    Prop where
  call : ∀ {here there : Ledger} (call : Call), beside here there →
    (there.call client name call).1 = (here.call client name call).1 ∧
      beside (here.call client name call).2 (there.call client name call).2
  send : ∀ {here there : Ledger}, beside here there → beside here.noteSend there.noteSend
  sendError : ∀ {here there : Ledger}, beside here there →
    beside here.noteSendError there.noteSendError
  transition : ∀ {here there : Ledger}, beside here there →
    beside here.noteTransition there.noteTransition
  unmatched : ∀ {here there : Ledger}, beside here there →
    beside here.noteUnmatched there.noteUnmatched

theorem Ledger.call_attempts (ledger : Ledger) (client : Client) (name : String) (call : Call) :
    (ledger.call client name call).2.attempts =
        ⟨name, call, client.refuses ledger.attempts call⟩ :: ledger.attempts ∧
      (ledger.call client name call).1 = (client.refuses ledger.attempts call).isNone := by
  unfold Ledger.call
  dsimp only
  split
  next accepted => exact ⟨rfl, accepted.symm⟩
  next refused => exact ⟨rfl, (Bool.eq_false_iff.mpr refused).symm⟩

namespace Session

/-- The same conversation in two places, with ledgers that are told apart by nothing it does. -/
structure Alike (name : String) (beside : Ledger → Ledger → Prop)
    (here there : Session definition σ) : Prop where
  conversation : there.conversation = here.conversation
  belongs : here.connection = name
  ledger : beside here.ledger there.ledger

variable {name : String} {beside : Ledger → Ledger → Prop} {client : Client}
  {here there : Session definition σ}

namespace Alike

theorem machine (alike : Alike name beside here there) : there.machine = here.machine :=
  congrArg Conversation.machine alike.conversation

theorem queue (alike : Alike name beside here there) : there.queue = here.queue :=
  congrArg Conversation.queue alike.conversation

theorem connection (alike : Alike name beside here there) :
    there.connection = here.connection :=
  congrArg Conversation.connection alike.conversation

theorem isFinished (alike : Alike name beside here there) :
    there.isFinished = here.isFinished :=
  congrArg Conversation.isFinished alike.conversation

theorem withMachine (alike : Alike name beside here there)
    (machine : Machine definition σ) :
    Alike name beside (here.withMachine machine) (there.withMachine machine) where
  conversation := by
    rw [Session.withMachine, Session.withMachine, alike.conversation]
  belongs := alike.belongs
  ledger := alike.ledger

theorem withQueue (alike : Alike name beside here there) (queue : List String) :
    Alike name beside (here.withQueue queue) (there.withQueue queue) where
  conversation := by
    rw [Session.withQueue, Session.withQueue, alike.conversation]
  belongs := alike.belongs
  ledger := alike.ledger

theorem note (alike : Alike name beside here there) {write : Ledger → Ledger}
    (kept : beside (write here.ledger) (write there.ledger)) :
    Alike name beside (here.note write) (there.note write) where
  conversation := alike.conversation
  belongs := alike.belongs
  ledger := kept

variable (steady : client.Steady name beside)
include steady

theorem call (alike : Alike name beside here there) (call : Call) :
    (there.call client call).1 = (here.call client call).1 ∧
      Alike name beside (here.call client call).2 (there.call client call).2 := by
  obtain ⟨same, after⟩ := steady.call call alike.ledger
  unfold Session.call
  rw [alike.connection, alike.belongs]
  exact ⟨same, alike.conversation, alike.belongs, after⟩

structure AlsoSent (name : String) (beside : Ledger → Ledger → Prop)
    (first second : Dispatch definition σ) : Prop where
  complete : second.complete = first.complete
  answered : second.answered = first.answered
  session : Alike name beside first.session second.session

theorem dispatchOne (alike : Alike name beside here there) (question : Option Question)
    (send : Send) :
    AlsoSent name beside (Session.dispatchOne client question send here)
      (Session.dispatchOne client question send there) := by
  rw [dispatchOne_eq, dispatchOne_eq, alike.connection, alike.queue]
  cases called : send.callOn here.connection question with
  | none => exact ⟨rfl, rfl, (alike.withQueue _).note (steady.send alike.ledger)⟩
  | some call =>
    obtain ⟨same, after⟩ := alike.call steady call
    dsimp only
    generalize here.call client call = first at same after ⊢
    generalize there.call client call = second at same after ⊢
    obtain ⟨accepted, here⟩ := first
    obtain ⟨_, there⟩ := second
    cases same
    cases accepted with
    | true =>
      have queue : there.queue = here.queue := after.queue
      dsimp only
      rw [queue]
      exact ⟨rfl, rfl, (after.withQueue _).note (steady.send after.ledger)⟩
    | false => exact ⟨rfl, rfl, after⟩

theorem dispatchAll (alike : Alike name beside here there) (question : Option Question)
    (sends : List Send) :
    AlsoSent name beside (Session.dispatchAll client question sends here)
      (Session.dispatchAll client question sends there) := by
  induction sends generalizing here there with
  | nil => exact ⟨rfl, rfl, alike⟩
  | cons send rest ih =>
    have first := alike.dispatchOne steady question send
    unfold Session.dispatchAll
    generalize Session.dispatchOne client question send here = one at first ⊢
    generalize Session.dispatchOne client question send there = two at first ⊢
    obtain ⟨complete, answered, here⟩ := one
    obtain ⟨_, _, there⟩ := two
    obtain ⟨same, alsoAnswered, after⟩ := first
    cases same
    cases alsoAnswered
    cases complete with
    | false => exact ⟨rfl, rfl, after⟩
    | true =>
      have later := ih after
      exact ⟨later.complete, congrArg (Bool.or answered) later.answered, later.session⟩

theorem answer (alike : Alike name beside here there) (asked : Question) (ack : Bool) :
    (there.answer client asked ack).1 = (here.answer client asked ack).1 ∧
      Alike name beside (here.answer client asked ack).2
        (there.answer client asked ack).2 :=
  alike.call steady _

theorem abandon (alike : Alike name beside here there) (queued : Nat)
    (question : Option Question) :
    Alike name beside (here.abandon client queued question)
      (there.abandon client queued question) := by
  have back := (alike.withMachine here.machine.rollback).withQueue (here.queue.take queued)
  unfold Session.abandon
  rw [alike.machine]
  rw [alike.queue]
  cases question with
  | none => exact back
  | some asked => exact (back.answer steady asked false).2

theorem commit (alike : Alike name beside here there) (transition : Transition) :
    Alike name beside (here.commit transition) (there.commit transition) := by
  unfold Session.commit
  rw [alike.machine]
  cases here.machine.step transition with
  | ok machine => exact (alike.withMachine machine).note (steady.transition alike.ledger)
  | error _ => exact alike

theorem AlsoSent.conclude {first second : Dispatch definition σ}
    (also : AlsoSent name beside first second) (transition : Transition) (queued : Nat)
    (question : Option Question) :
    Alike name beside
      (Session.conclude client transition queued question first)
      (Session.conclude client transition queued question second) := by
  unfold Session.conclude
  rw [also.complete, also.answered]
  cases first.complete with
  | false => exact also.session.abandon steady _ _
  | true =>
    simp only [if_true]
    cases (if first.answered = true then none else question : Option Question) with
    | none => exact also.session.commit steady transition
    | some asked =>
      obtain ⟨same, after⟩ := also.session.answer steady asked (acknowledges transition)
      dsimp only
      generalize first.session.answer client asked (acknowledges transition) = one
        at same after ⊢
      generalize second.session.answer client asked (acknowledges transition) = two
        at same after ⊢
      obtain ⟨accepted, here⟩ := one
      obtain ⟨_, there⟩ := two
      cases same
      cases accepted with
      | true => exact after.commit steady transition
      | false => exact after.abandon steady _ _

variable [Evaluator σ]

theorem fire (alike : Alike name beside here there) (transition : Transition) (input : String)
    (question : Option Question) :
    Alike name beside (here.fire client transition input question)
      (there.fire client transition input question) := by
  cases done : here.machine.buildSends transition input with
  | mk result built =>
    have also : there.machine.buildSends transition input = (result, built) :=
      (congrArg (·.buildSends transition input) alike.machine).trans done
    cases result with
    | error fault =>
      unfold Session.fire
      simp only [done, also, alike.queue]
      exact ((alike.withMachine built).note (steady.sendError alike.ledger)).abandon steady _ _
    | ok sends =>
      rw [fire_of_built done, fire_of_built also, alike.queue]
      exact ((alike.withMachine built).dispatchAll steady question sends).conclude steady _ _ _

theorem follow (alike : Alike name beside here there)
    (found : Option Transition × Machine definition σ) (input : String) :
    Alike name beside (here.follow client found input)
      (there.follow client found input) := by
  obtain ⟨transition, machine⟩ := found
  cases transition with
  | some transition => exact (alike.withMachine machine).fire steady transition input none
  | none => exact (alike.withMachine machine).note (steady.unmatched alike.ledger)

theorem handleStatus (alike : Alike name beside here there) (status : Status) :
    Alike name beside (here.handleStatus client status)
      (there.handleStatus client status) := by
  unfold Session.handleStatus
  rw [alike.machine, alike.connection]
  split
  next => exact alike
  next => exact alike
  next =>
    dsimp only
    split
    next =>
      obtain ⟨same, after⟩ := alike.call steady (.resume here.connection status.protocolId
        (here.machine.onStatus status).1.isSome)
      generalize here.call client (.resume here.connection status.protocolId
        (here.machine.onStatus status).1.isSome) = one at same after ⊢
      generalize there.call client (.resume here.connection status.protocolId
        (here.machine.onStatus status).1.isSome) = two at same after ⊢
      obtain ⟨accepted, first⟩ := one
      obtain ⟨_, second⟩ := two
      cases same
      cases accepted with
      | true => exact after.follow steady _ _
      | false => exact after.withMachine _
    next => exact alike.follow steady _ _

theorem handleQuestion (alike : Alike name beside here there) (asked : Question) :
    Alike name beside (here.handleQuestion client asked)
      (there.handleQuestion client asked) := by
  unfold Session.handleQuestion
  rw [alike.machine]
  cases here.machine.onQuestion asked with
  | mk transition machine =>
    cases transition with
    | some transition => exact (alike.withMachine machine).fire steady transition _ _
    | none =>
      exact (((alike.withMachine machine).note (steady.unmatched alike.ledger)).answer steady asked
        false).2

theorem handle (alike : Alike name beside here there) (notification : Notification) :
    Alike name beside (here.handle client notification)
      (there.handle client notification) := by
  cases notification with
  | status change => exact alike.handleStatus steady change
  | question asked => exact alike.handleQuestion steady asked
  | hook data =>
    unfold Session.handle handleHook
    rw [alike.machine]
    exact alike.follow steady _ _
  | backend message =>
    unfold Session.handle handleBackend
    rw [alike.machine]
    exact alike.follow steady _ _
  | keepAlive => exact alike

theorem handleTransient (alike : Alike name beside here there) (content : String) :
    Alike name beside (here.handleTransient client content)
      (there.handleTransient client content) := by
  unfold Session.handleTransient
  rw [alike.machine]
  exact alike.follow steady _ _

theorem drainFrom (alike : Alike name beside here there) (hops : Nat) :
    Alike name beside (here.drainFrom client hops)
      (there.drainFrom client hops) := by
  induction hops generalizing here there with
  | zero => exact alike.withQueue []
  | succ hops ih =>
    unfold Session.drainFrom
    rw [alike.queue, alike.isFinished]
    cases here.queue with
    | nil => exact alike
    | cons content rest =>
      dsimp only
      split
      next => exact alike.withQueue []
      next => exact ih ((alike.withQueue rest).handleTransient steady content)

theorem start (alike : Alike name beside here there) :
    Alike name beside (here.start client) (there.start client) := by
  unfold Session.start
  rw [alike.machine]
  cases here.machine.start with
  | mk result machine =>
    cases result with
    | error _ => exact (alike.withMachine machine).note (steady.sendError alike.ledger)
    | ok sends => exact ((alike.withMachine machine).dispatchAll steady none sends).session

theorem begin (alike : Alike name beside here there) :
    Alike name beside (here.begin client) (there.begin client) :=
  (alike.start steady).drainFrom steady hopLimit

theorem take (alike : Alike name beside here there) (notification : Notification) :
    Alike name beside (here.take client notification)
      (there.take client notification) :=
  (alike.handle steady notification).drainFrom steady hopLimit

end Alike

end Session
end Parley
