import Parley.Lua.Evaluator
import Parley.Proofs.Conversation.Dispatch
import Parley.Proofs.Machine.Item
import Parley.Proofs.Send.Build
/-!
A transition is taken as a whole or not at all.

What is found for an item comes to a list of calls: the permission that a waiting protocol asks for,
the sends, and the answer to a question that no send answers. If the sends can be built and the
client accepts all these calls, the transition is taken. In every other case the conversation stands
where it stood, however far it had got.
-/

namespace Parley

variable {definition : Definition} {σ : Type} [Evaluator σ]

def Item.permission (connection : String) : Item → List Call
  | .status change =>
    if change.progress = .waiting && !change.ours then
      [.resume connection change.protocolId true]
    else []
  | _ => []

/-- The machine is asked about the item. Protocols that came to nothing are passed over. -/
def Item.isShown : Item → Bool
  | .status change => change.progress ≠ .declined && change.progress ≠ .failed
  | _ => true

def ownAnswer (question : Option Question) (transition : Transition) (sends : List Send) :
    List Call :=
  match question with
  | some asked =>
    if sends.any Send.isAnswer then []
    else [.answer asked.id (Session.acknowledges transition) ""]
  | none => []

theorem ownAnswer_eq (question : Option Question) (transition : Transition) (sends : List Send) :
    ownAnswer question transition sends =
      (if question.isSome && sends.any Send.isAnswer then none else question).toList.map
        fun asked => .answer asked.id (Session.acknowledges transition) "" := by
  cases question with
  | none => rfl
  | some asked => cases answered : sends.any Send.isAnswer <;> simp [ownAnswer, answered]

def outgoing (connection : String) (question : Option Question) (transition : Transition)
    (sends : List Send) : List Call :=
  callsOf connection question sends ++ ownAnswer question transition sends

def Item.calls (item : Item) (connection : String) (transition : Transition) (sends : List Send) :
    List Call :=
  item.permission connection ++ outgoing connection item.question? transition sends

namespace Session

/-- Handles an item. What the machine has told itself is out of the queue by then. -/
def receive (client : Client) (session : Session definition σ) : Item → Session definition σ
  | .status change => session.handle client (.status change)
  | .question asked => session.handle client (.question asked)
  | .hook data => session.handle client (.hook data)
  | .backend message => session.handle client (.backend message)
  | .transient content => session.handleTransient client content

structure Ready (before : Session definition σ) (built : Machine definition σ)
    (told : List String) (attempts : List Attempt) (after : Session definition σ) : Prop where
  machine : after.machine = built
  connection : after.connection = before.connection
  queue : after.queue = before.queue ++ told
  attempts : after.ledger.attempts = attempts

/-- Nothing has happened to a conversation, but for what is written down. -/
structure Unmoved (before after : Session definition σ) : Prop where
  machine : after.machine = before.machine.rollback
  connection : after.connection = before.connection
  queue : after.queue = before.queue

omit [Evaluator σ] in
theorem abandon_conversation (client : Client) (queued : Nat) (question : Option Question)
    (session : Session definition σ) :
    (session.abandon client queued question).conversation =
      { session.conversation with
        machine := session.machine.rollback, queue := session.queue.take queued } := by
  unfold abandon
  cases question <;> rfl

omit [Evaluator σ] in
theorem abandon_unmoved (client : Client) (question : Option Question)
    {before after : Session definition σ} (sent : Sent before after) :
    Unmoved before (after.abandon client before.queue.length question) := by
  have dropped := abandon_conversation client before.queue.length question after
  obtain ⟨rest, extended⟩ := sent.queue
  refine ⟨?_, ?_, ?_⟩
  · rw [← sent.machine]
    exact congrArg Conversation.machine dropped
  · rw [← sent.connection]
    exact (congrArg Conversation.connection dropped :)
  · refine (congrArg Conversation.queue dropped).trans ?_
    rw [← extended]
    exact List.take_left

omit [Evaluator σ] in
theorem answer_outcome (client : Client) (transition : Transition) (remaining : Option Question)
    {before after : Session definition σ} {built : Machine definition σ} {told : List String}
    {attempts : List Attempt} (ready : Ready before built told attempts after) :
    let calls := remaining.toList.map fun asked =>
      Call.answer asked.id (acknowledges transition) ""
    let ending :=
      match remaining with
      | none => after.commit transition
      | some asked =>
        match after.answer client asked (acknowledges transition) with
        | (true, session) => session.commit transition
        | (false, session) => session.abandon client before.queue.length none
    (client.acceptsAll before.connection attempts calls = true ∧
        ∃ ready, Ready before built told (withAccepted before.connection attempts calls) ready ∧
          ending = ready.commit transition) ∨
      (client.acceptsAll before.connection attempts calls = false ∧
        Unmoved (before.withMachine built) ending) := by
  cases remaining with
  | none => exact .inl ⟨rfl, after, ready, rfl⟩
  | some asked =>
    simp only [Option.toList_some, List.map_cons, List.map_nil, Client.acceptsAll, Bool.and_true,
      Session.answer]
    cases accepts : (client.refuses attempts
        (.answer asked.id (acknowledges transition) "")).isNone with
    | true =>
      rw [call_accepted (by rw [ready.attempts]; exact accepts)]
      refine .inl ⟨rfl, after.note _, ⟨ready.machine, ready.connection, ready.queue, ?_⟩, rfl⟩
      simp only [note, ready.attempts, ready.connection]
      rfl
    | false =>
      obtain ⟨ledger, refused⟩ := call_refused (by rw [ready.attempts]; exact accepts)
      rw [refused]
      have sent : Sent (before.withMachine built) { after with ledger } :=
        ⟨ready.machine, ready.connection, told, ready.queue.symm⟩
      exact .inr ⟨rfl, abandon_unmoved client none sent⟩

/-- Sending comes to one of two ends. Either the transition is taken, once everything is built and
every call has been accepted, or it is dropped, once something could not be built or was refused. -/
theorem fire_outcome (client : Client) (transition : Transition) (input : String)
    (question : Option Question) (session : Session definition σ) :
    let goesOut := fun sends built =>
      session.machine.buildSends transition input = (.ok sends, built) ∧
        client.acceptsAll session.connection session.ledger.attempts
          (outgoing session.connection question transition sends) = true
    (∃ sends built ready, goesOut sends built ∧
        Ready session built (sends.flatMap Send.told)
          (withAccepted session.connection session.ledger.attempts
            (outgoing session.connection question transition sends)) ready ∧
        session.fire client transition input question = ready.commit transition) ∨
      ((∀ sends built, ¬goesOut sends built) ∧
        Unmoved (session.withMachine (session.machine.buildSends transition input).2)
          (session.fire client transition input question)) := by
  unfold fire
  cases done : session.machine.buildSends transition input with
  | mk result built =>
    cases result with
    | error fault =>
      exact .inr ⟨by simp, abandon_unmoved client question ⟨rfl, rfl, List.prefix_rfl⟩⟩
    | ok sends =>
      have sent := dispatchAll_sent client question sends (session.withMachine built)
      dsimp only
      cases calls : client.acceptsAll session.connection session.ledger.attempts
          (callsOf session.connection question sends) with
      | false =>
        have stopped :
            (dispatchAll client question sends (session.withMachine built)).complete = false :=
          dispatchAll_refused calls
        refine .inr ⟨?_, ?_⟩
        · rintro others _ ⟨same, accepts⟩
          cases same
          rw [outgoing, Client.acceptsAll_append, calls] at accepts
          cases accepts
        · split
          next went => rw [went] at sent; exact abandon_unmoved client _ sent
          next went => rw [went] at stopped; cases stopped
      | true =>
        have delivered : Delivered question sends (session.withMachine built)
            (dispatchAll client question sends (session.withMachine built)) :=
          dispatchAll_accepted calls
        split
        next stopped => rw [stopped] at delivered; exact absurd delivered.complete (by simp)
        next answered after went =>
          rw [went] at sent delivered
          have answer : answered = (question.isSome && sends.any Send.isAnswer) :=
            delivered.answered
          have own := ownAnswer_eq question transition sends
          rw [← answer] at own
          have sofar : Ready session built _ _ after :=
            ⟨sent.machine, sent.connection, delivered.queue, delivered.attempts⟩
          rcases answer_outcome client transition (if answered then none else question) sofar with
            ⟨accepts, ready, made, taken⟩ | ⟨refuses, unmoved⟩
          · refine .inl ⟨sends, built, ready, ⟨rfl, ?_⟩, ?_, taken⟩
            · rw [outgoing, Client.acceptsAll_append, calls, own]
              exact accepts
            · rw [outgoing, withAccepted_append, own]
              exact made
          · refine .inr ⟨?_, unmoved⟩
            rintro others _ ⟨same, accepts⟩
            cases same
            rw [outgoing, Client.acceptsAll_append, calls, own, Bool.true_and] at accepts
            exact absurd (accepts.symm.trans refuses) (by simp)

theorem follow_outcome (client : Client) (session : Session definition σ) (transition : Transition)
    (found : Machine definition σ) (input : String) :
    ∃ ready, Ready session found [] session.ledger.attempts ready ∧
      session.follow client (some transition, found) input =
        ready.fire client transition input none :=
  ⟨session.withMachine found, ⟨rfl, rfl, (List.append_nil _).symm, rfl⟩, rfl⟩

theorem handleStatus_outcome (client : Client) {change : Status} {session : Session definition σ}
    {transition : Transition} {found : Machine definition σ}
    (shown : (Item.status change).isShown = true)
    (resolved : session.machine.onStatus change = (some transition, found)) :
    let permission := (Item.status change).permission session.connection
    let permitted := client.acceptsAll session.connection session.ledger.attempts permission
    (permitted = true ∧ ∃ ready, Ready session found []
          (withAccepted session.connection session.ledger.attempts permission) ready ∧
        session.handleStatus client change = ready.fire client transition change.content none) ∨
      (permitted = false ∧
        Unmoved (session.withMachine found) (session.handleStatus client change)) := by
  cases waits : decide (change.progress = .waiting) && !change.ours with
  | false =>
    have unasked : (Item.status change).permission session.connection = [] := by
      simp only [Item.permission, waits, Bool.false_eq_true, if_false]
    refine .inl ⟨by rw [unasked]; rfl, ?_⟩
    rw [unasked]
    obtain ⟨ready, made, followed⟩ :=
      follow_outcome client session transition found change.content
    refine ⟨ready, made, ?_⟩
    rw [← followed]
    unfold handleStatus
    split
    next progress => simp [Item.isShown, progress] at shown
    next progress => simp [Item.isShown, progress] at shown
    next => simp only [waits, resolved, Bool.false_eq_true, if_false]
  | true =>
    have asked : (Item.status change).permission session.connection =
        [.resume session.connection change.protocolId true] := by
      simp only [Item.permission, waits, if_true]
    rw [asked]
    unfold handleStatus
    split
    next progress => simp [progress] at waits
    next progress => simp [progress] at waits
    next =>
      simp only [waits, resolved, if_true, Option.isSome_some, Client.acceptsAll, Bool.and_true]
      cases accepts : (client.refuses session.ledger.attempts
          (.resume session.connection change.protocolId true)).isNone with
      | true =>
        rw [call_accepted accepts]
        exact .inl ⟨rfl, (session.note _).withMachine found,
          ⟨rfl, rfl, (List.append_nil _).symm, rfl⟩, rfl⟩
      | false =>
        obtain ⟨ledger, refused⟩ := call_refused accepts
        rw [refused]
        exact .inr ⟨rfl, ⟨rfl, rfl, rfl⟩⟩

/-- A protocol that waits is told first that it may go on. If that is refused, nothing is sent. -/
theorem receive_outcome (client : Client) {item : Item} {session : Session definition σ}
    {transition : Transition} {found : Machine definition σ} (shown : item.isShown = true)
    (resolved : session.machine.find item = (some transition, found)) :
    let permission := item.permission session.connection
    let permitted := client.acceptsAll session.connection session.ledger.attempts permission
    (permitted = true ∧ ∃ ready, Ready session found []
          (withAccepted session.connection session.ledger.attempts permission) ready ∧
        session.receive client item =
          ready.fire client transition item.content item.question?) ∨
      (permitted = false ∧
        Unmoved (session.withMachine found) (session.receive client item)) := by
  cases item with
  | status change => exact handleStatus_outcome client shown resolved
  | question asked =>
    have resolved : session.machine.onQuestion asked = (some transition, found) := resolved
    refine .inl ⟨rfl, session.withMachine found, ⟨rfl, rfl, (List.append_nil _).symm, rfl⟩, ?_⟩
    simp only [receive, handle, handleQuestion, resolved]
    rfl
  | hook data =>
    have resolved : session.machine.onHook data = (some transition, found) := resolved
    refine .inl ⟨rfl, ?_⟩
    simp only [receive, handle, handleHook, resolved]
    exact follow_outcome client session transition found data.content
  | backend message =>
    have resolved : session.machine.onBackend message = (some transition, found) := resolved
    refine .inl ⟨rfl, ?_⟩
    simp only [receive, handle, handleBackend, resolved]
    exact follow_outcome client session transition found message.content
  | transient content =>
    have resolved : session.machine.onTransient content = (some transition, found) := resolved
    refine .inl ⟨rfl, ?_⟩
    simp only [receive, handleTransient, resolved]
    exact follow_outcome client session transition found content

/-- Everything that taking a transition comes to is built, and the client accepts all of it. -/
structure GoesOut (client : Client) (item : Item) (transition : Transition)
    (found : Machine definition σ) (before : Session definition σ) (sends : List Send)
    (built : Machine definition σ) : Prop where
  built : found.buildSends transition item.content = (.ok sends, built)
  accepts : client.acceptsAll before.connection before.ledger.attempts
    (item.calls before.connection transition sends) = true

/-- The transition has been taken: all its events have come to their sends, all calls have been
made and accepted, and the machine is at the target with what was written on the way. -/
structure Committed (item : Item) (transition : Transition) (sends : List Send)
    (built : Machine definition σ) (before after : Session definition σ) : Prop where
  events : Built transition.sends sends
  attempts : after.ledger.attempts = withAccepted before.connection before.ledger.attempts
    (item.calls before.connection transition sends)
  answer : ∀ asked, item.question? = some asked →
    ∃ ack info, Call.answer asked.id ack info ∈ item.calls before.connection transition sends
  state : after.machine.state.name = transition.target
  memory : after.machine.memory =
    Machine.remembered definition transition.target built.memory
  queue : after.queue = before.queue ++ sends.flatMap Send.told

structure Abandoned (before after : Session definition σ) : Prop where
  place : Machine.SamePlace before.machine after.machine
  memory : after.machine.memory = before.machine.memory
  queue : after.queue = before.queue

omit [Evaluator σ] in
theorem abandoned_of_unmoved {before session after : Session definition σ}
    {machine : Machine definition σ} (place : Machine.SamePlace before.machine machine)
    (kept : machine.checkpoint = some before.machine.memory) (queue : session.queue = before.queue)
    (unmoved : Unmoved (session.withMachine machine) after) : Abandoned before after := by
  have undone : after.machine = machine.rollback := unmoved.machine
  refine ⟨?_, ?_, unmoved.queue.trans queue⟩
  · rw [undone]
    exact place.trans machine.rollback_samePlace
  · rw [undone]
    exact Machine.rollback_memory kept

theorem answer_mem_outgoing (connection : String) (asked : Question) (transition : Transition)
    (sends : List Send) :
    ∃ ack info, Call.answer asked.id ack info ∈
      outgoing connection (some asked) transition sends := by
  by_cases explicit : sends.any Send.isAnswer = true
  · obtain ⟨send, member, answers⟩ := List.any_eq_true.mp explicit
    have own : send.protocol ≠ .transient := by
      intro transient
      simp [Send.isAnswer, transient] at answers
    cases payload : send.payload with
    | answer ack =>
      refine ⟨ack, send.content, List.mem_append_left _ (List.mem_filterMap.mpr ⟨send, member, ?_⟩)⟩
      simp [Send.callOn, own, payload]
    | _ => simp [Send.isAnswer, payload] at answers
  · refine ⟨acknowledges transition, "", List.mem_append_right _ ?_⟩
    simp [ownAnswer, explicit]

theorem committed_of_ready {item : Item} {transition : Transition} {sends : List Send}
    {found built : Machine definition σ} {before ready : Session definition σ}
    (wellFormed : definition.WellFormed) (fits : transition.Fits definition)
    (done : found.buildSends transition item.content = (.ok sends, built))
    (prepared : Ready before built (sends.flatMap Send.told)
      (withAccepted before.connection before.ledger.attempts
        (item.calls before.connection transition sends)) ready) :
    Committed item transition sends built before (ready.commit transition) := by
  obtain ⟨after, stepped, state, memory⟩ :=
    Machine.step_of_fits wellFormed fits ready.machine
  have taken : ready.commit transition = (ready.withMachine after).note .noteTransition := by
    unfold commit
    rw [stepped]
  rw [taken]
  refine ⟨buildAll_built (congrArg Prod.fst done), prepared.attempts, ?_, state, ?_, prepared.queue⟩
  · intro asked question
    obtain ⟨ack, info, member⟩ := answer_mem_outgoing before.connection asked transition sends
    exact ⟨ack, info, List.mem_append_right _ (by rw [question]; exact member)⟩
  · rw [← prepared.machine]
    exact memory

/-- An item that a transition is found for comes to one of two ends, and what goes out decides
which. -/
theorem receive_all_or_nothing {draft : Draft} (accepted : draft.check = .ok definition)
    (client : Client) (item : Item) (before : Session definition σ) {transition : Transition}
    {found : Machine definition σ} (shown : item.isShown = true)
    (resolved : before.machine.find item = (some transition, found)) :
    (∃ sends built, GoesOut client item transition found before sends built ∧
        Committed item transition sends built before (before.receive client item)) ∨
      ((∀ sends built, ¬GoesOut client item transition found before sends built) ∧
        Abandoned before (before.receive client item)) := by
  have wellFormed := Definition.wellFormed_of_check accepted
  have fits : transition.Fits definition :=
    Machine.find_fits wellFormed before.machine (congrArg Prod.fst resolved)
  have place : Machine.SamePlace before.machine found := by
    simpa only [resolved] using before.machine.find_samePlace item
  have kept : found.checkpoint = some before.machine.memory := by
    simpa only [resolved] using before.machine.find_checkpoint item
  rcases receive_outcome client shown resolved with
    ⟨permitted, asked, prepared, fired⟩ | ⟨refused, unmoved⟩
  · obtain ⟨machine, connection, queue, attempts⟩ := prepared
    rw [List.append_nil] at queue
    have outcome := fire_outcome client transition item.content item.question? asked
    simp only [machine, connection, attempts] at outcome
    rw [fired]
    rcases outcome with
      ⟨sends, built, ready, ⟨done, accepts⟩, made, taken⟩ | ⟨stuck, unmoved⟩
    · have calls : client.acceptsAll before.connection before.ledger.attempts
          (item.calls before.connection transition sends) = true := by
        rw [Item.calls, Client.acceptsAll_append, permitted, accepts]
        rfl
      refine .inl ⟨sends, built, ⟨done, calls⟩, ?_⟩
      rw [taken]
      refine committed_of_ready wellFormed fits done ⟨made.machine, ?_, ?_, ?_⟩
      · rw [made.connection, connection]
      · rw [made.queue, queue]
      · rw [made.attempts, Item.calls, withAccepted_append]
    · refine .inr ⟨fun sends built goes => ?_, ?_⟩
      · have accepts := goes.accepts
        rw [Item.calls, Client.acceptsAll_append, permitted, Bool.true_and] at accepts
        exact stuck sends built ⟨goes.built, accepts⟩
      · exact abandoned_of_unmoved (place.trans (found.buildSends_samePlace _ _)) kept queue unmoved
  · refine .inr ⟨fun sends built goes => ?_, abandoned_of_unmoved place kept rfl unmoved⟩
    have accepts := goes.accepts
    rw [Item.calls, Client.acceptsAll_append, refused] at accepts
    cases accepts

def atDesk : Session Definition.clerk Lua.State :=
  ⟨.new .clerk "c" .initial (.constant (Fin.last 999999)), .empty⟩

def valuesAsked : Item := .question ⟨"q", "c", [⟨"email", "a@b.c", none⟩, ⟨"PIN", "1", none⟩]⟩

/-- A clerk whose report is refused has taken nothing and promised nothing, though it had written
values and a PIN, and the message with the PIN was out. -/
theorem refused_report_abandons :
    Draft.clerk.check = .ok Definition.clerk ∧ valuesAsked.isShown = true ∧
      (atDesk.machine.find valuesAsked).1 = some (Definition.clerk.states[0].transitions[0]) ∧
      Abandoned atDesk
        (atDesk.receive (.refusing fun call => call.kind = "backend") valuesAsked) := by
  refine ⟨rfl, rfl, rfl, ?_⟩
  have ends := receive_all_or_nothing Draft.clerk_check
    (.refusing fun call => call.kind = "backend") valuesAsked atDesk rfl rfl
  refine (ends.resolve_left ?_).2
  rintro ⟨sends, built, goes, _⟩
  have accepts := goes.accepts
  cases goes.built
  exact absurd accepts (by decide)

end Session
end Parley
