import Parley.Proofs.Conversation.Answers
/-!
What a conversation does, turn by turn.

In a turn a conversation begins or handles one item, be it from outside or from itself. For an item
at most one transition is taken, and only then does anything that the turn has queued stay in the
queue. A turn in which nothing is taken leaves the machine in its place.
-/

namespace Parley

variable {definition : Definition} {σ : Type}

inductive Occasion where
  | start
  | item (item : Item)
  deriving DecidableEq

structure Turn (definition : Definition) (σ : Type) where
  client : Client
  occasion : Occasion
  /-- What the machine is about to be told of its own is out of the queue by then. -/
  before : Session definition σ

def Notification.item? : Notification → Option Item
  | .status change => some (.status change)
  | .question asked => some (.question asked)
  | .hook data => some (.hook data)
  | .backend message => some (.backend message)
  | .keepAlive => none

namespace Session

section Transitions

def TakesAtMost (count : Nat) (before after : Session definition σ) : Prop :=
  after.transitions ≤ before.transitions + count

theorem TakesAtMost.of_eq {before after : Session definition σ}
    (same : after.transitions = before.transitions) (count : Nat) :
    TakesAtMost count before after := by
  unfold TakesAtMost
  omega

theorem TakesAtMost.trans {count more : Nat} {first second third : Session definition σ}
    (earlier : TakesAtMost count first second) (later : TakesAtMost more second third) :
    TakesAtMost (count + more) first third := by
  unfold TakesAtMost at *
  omega

theorem commit_takes (transition : Transition) (session : Session definition σ) :
    TakesAtMost 1 session (session.commit transition) := by
  unfold commit
  split
  next => exact Nat.le_refl _
  next => exact .of_eq rfl 1

theorem abandon_transitions (client : Client) (queued : Nat) (question : Option Question)
    (session : Session definition σ) :
    (session.abandon client queued question).transitions = session.transitions := by
  unfold abandon
  split
  next => exact call_transitions _ _ _
  next => rfl

theorem dispatchAll_transitions (client : Client) (question : Option Question) (sends : List Send)
    (session : Session definition σ) :
    (dispatchAll client question sends session).session.transitions = session.transitions := by
  obtain ⟨refused, went⟩ := dispatchAll_dispatched client question sends session
  exact (congrArg Counters.transitions went.counters :)

theorem conclude_takes (client : Client) (transition : Transition) (queued : Nat)
    (question : Option Question) (result : Dispatch definition σ) :
    TakesAtMost 1 result.session (conclude client transition queued question result) := by
  unfold conclude
  dsimp only
  split
  next =>
    split
    next => exact commit_takes _ _
    next asked _ =>
      have counted := call_transitions client (.answer asked.id (acknowledges transition) "")
        result.session
      split
      next told =>
        rw [Session.answer] at told
        rw [told] at counted
        exact (TakesAtMost.of_eq counted 0).trans (commit_takes _ _)
      next told =>
        rw [Session.answer] at told
        rw [told] at counted
        exact .of_eq ((abandon_transitions _ _ _ _).trans counted) 1
  next => exact .of_eq (abandon_transitions _ _ _ _) 1

variable [Evaluator σ]

theorem fire_takes (client : Client) (transition : Transition) (input : String)
    (question : Option Question) (session : Session definition σ) :
    TakesAtMost 1 session (session.fire client transition input question) := by
  cases done : session.machine.buildSends transition input with
  | mk result built =>
    cases result with
    | error fault =>
      unfold fire
      simp only [done]
      exact .of_eq (abandon_transitions _ _ _ _) 1
    | ok sends =>
      rw [fire_of_built done]
      have counted := dispatchAll_transitions client question sends (session.withMachine built)
      exact (TakesAtMost.of_eq counted 0).trans (conclude_takes _ _ _ _ _)

theorem follow_takes (client : Client) (found : Option Transition × Machine definition σ)
    (input : String) (session : Session definition σ) :
    TakesAtMost 1 session (session.follow client found input) := by
  unfold follow
  split
  next transition machine =>
    exact fire_takes client transition input none (session.withMachine machine)
  next => exact .of_eq rfl 1

theorem handleStatus_takes (client : Client) (change : Status) (session : Session definition σ) :
    TakesAtMost 1 session (session.handleStatus client change) := by
  have counted := call_transitions client (session.decision change) session
  rcases session.handleStatus_cases client change with
    ⟨_, same⟩ | ⟨_, same⟩ | ⟨_, decided, told, same⟩ | ⟨_, decided, told, same⟩
  · rw [same]
    exact .of_eq rfl 1
  · rw [same]
    exact follow_takes _ _ _ _
  · rw [told] at counted
    rw [same]
    exact (TakesAtMost.of_eq counted 0).trans (follow_takes _ _ _ _)
  · rw [told] at counted
    rw [same]
    exact .of_eq counted 1

theorem handleQuestion_takes (client : Client) (asked : Question)
    (session : Session definition σ) :
    TakesAtMost 1 session (session.handleQuestion client asked) := by
  unfold handleQuestion
  split
  next transition machine _ =>
    exact fire_takes client transition asked.content (some asked) (session.withMachine machine)
  next => exact .of_eq (call_transitions _ _ _) 1

theorem receive_takes (client : Client) (item : Item) (session : Session definition σ) :
    TakesAtMost 1 session (session.receive client item) := by
  cases item with
  | status change => exact handleStatus_takes client change session
  | question asked => exact handleQuestion_takes client asked session
  | hook data => exact follow_takes _ _ _ _
  | backend message => exact follow_takes _ _ _ _
  | transient content => exact follow_takes _ _ _ _

theorem start_transitions (client : Client) (session : Session definition σ) :
    (session.start client).transitions = session.transitions := by
  unfold start
  split
  next => rfl
  next sends machine _ =>
    exact dispatchAll_transitions client none sends (session.withMachine machine)

end Transitions

variable [Evaluator σ]

/-- The transition that is found for an item. Protocols that came to nothing find none. -/
def found? (item : Item) (session : Session definition σ) : Option Transition :=
  if item.isShown then (session.machine.find item).1 else none

def taken? (client : Client) (item : Item) (session : Session definition σ) :
    Option (Transition × List Send) :=
  if item.isShown then
    match session.machine.find item with
    | (some transition, found) =>
      match (found.buildSends transition item.content).1 with
      | .ok sends =>
        if client.acceptsAll session.connection session.ledger.attempts
            (item.calls session.connection transition sends) then some (transition, sends)
        else none
      | .error _ => none
    | (none, _) => none
  else none

theorem taken?_eq_some_iff {client : Client} {item : Item} {session : Session definition σ}
    {transition : Transition} {sends : List Send} :
    session.taken? client item = some (transition, sends) ↔
      item.isShown = true ∧ ∃ found built, session.machine.find item = (some transition, found) ∧
        GoesOut client item transition found session sends built := by
  unfold taken?
  by_cases shown : item.isShown = true
  case neg => simp [shown]
  case pos =>
    rw [if_pos shown]
    cases resolved : session.machine.find item with
    | mk fired found =>
      cases fired with
      | none => simp
      | some other =>
        cases done : found.buildSends other item.content with
        | mk result built =>
          constructor
          · intro taken
            simp only [done] at taken
            cases result with
            | error fault => cases taken
            | ok sends =>
              dsimp only at taken
              split at taken
              next accepts =>
                cases taken
                exact ⟨shown, found, built, rfl, done, accepts⟩
              next => cases taken
          · rintro ⟨_, _, _, same, goes⟩
            cases same
            cases done.symm.trans goes.built
            simp only [done]
            rw [if_pos goes.accepts]

structure Stays (before after : Session definition σ) : Prop where
  place : Machine.SamePlace before.machine after.machine
  queue : after.queue = before.queue

omit [Evaluator σ] in
theorem Stays.of_unmoved {before after : Session definition σ} {machine : Machine definition σ}
    (place : Machine.SamePlace before.machine machine)
    (unmoved : Unmoved (before.withMachine machine) after) : Stays before after := by
  refine ⟨?_, unmoved.queue⟩
  rw [unmoved.machine]
  exact place.trans machine.rollback_samePlace

/-- What is found for an item is taken, once everything has gone out, or else nothing moves. -/
theorem receive_ends (client : Client) {item : Item} {session : Session definition σ}
    {transition : Transition} {found : Machine definition σ} (shown : item.isShown = true)
    (resolved : session.machine.find item = (some transition, found)) :
    (∃ (sends : List Send) (built : Machine definition σ) (ready : Session definition σ),
        GoesOut client item transition found session sends built ∧
        Machine.SamePlace session.machine ready.machine ∧
        ready.queue = session.queue ++ sends.flatMap Send.told ∧
        session.receive client item = ready.commit transition) ∨
      ((∀ sends built, ¬GoesOut client item transition found session sends built) ∧
        Stays session (session.receive client item)) := by
  have place : Machine.SamePlace session.machine found := by
    simpa only [resolved] using session.machine.find_samePlace item
  rcases receive_outcome client shown resolved with
    ⟨permitted, asked, prepared, fired⟩ | ⟨refused, unmoved⟩
  · have kept : Machine.SamePlace session.machine
        (found.buildSends transition item.content).2 :=
      place.trans (found.buildSends_samePlace transition item.content)
    have queue : asked.queue = session.queue := prepared.queue.trans (List.append_nil _)
    have outcome := fire_outcome client transition item.content item.question? asked
    simp only [prepared.machine, prepared.connection, prepared.attempts] at outcome
    rw [fired]
    rcases outcome with ⟨sends, built, ready, ⟨done, accepts⟩, made, taken⟩ | ⟨stuck, unmoved⟩
    · refine .inl ⟨sends, built, ready, ⟨done, ?_⟩, ?_, ?_, taken⟩
      · rw [Item.calls, Client.acceptsAll_append, permitted, accepts]
        rfl
      · rw [made.machine]
        simpa only [done] using kept
      · rw [made.queue, queue]
    · refine .inr ⟨fun sends built goes => ?_, ?_⟩
      · have accepts := goes.accepts
        rw [Item.calls, Client.acceptsAll_append, permitted, Bool.true_and] at accepts
        exact stuck sends built ⟨goes.built, accepts⟩
      · refine ⟨?_, unmoved.queue.trans queue⟩
        rw [unmoved.machine]
        exact kept.trans (Machine.rollback_samePlace _)
  · -- A permission that is refused stands first among the calls.
    refine .inr ⟨fun sends built goes => ?_, .of_unmoved place unmoved⟩
    have accepts := goes.accepts
    rw [Item.calls, Client.acceptsAll_append, refused] at accepts
    cases accepts

theorem receive_unfound (client : Client) {item : Item} {session : Session definition σ}
    {found : Machine definition σ} (shown : item.isShown = true)
    (resolved : session.machine.find item = (none, found)) :
    (session.receive client item).conversation = (session.withMachine found).conversation := by
  cases item with
  | status change =>
    have resolved : session.machine.onStatus change = (none, found) := resolved
    unfold receive handle handleStatus
    dsimp only
    split
    next progress => simp [Item.isShown, progress] at shown
    next progress => simp [Item.isShown, progress] at shown
    next =>
      rw [resolved]
      split
      next =>
        have same := congrArg (fun other => { other with machine := found })
          (call_conversation client (.resume session.connection change.protocolId false) session)
        dsimp only [Option.isSome_none]
        split
        next told => rw [told] at same; exact same
        next told => rw [told] at same; exact same
      next => rfl
  | question asked =>
    have resolved : session.machine.onQuestion asked = (none, found) := resolved
    simp only [receive, handle, handleQuestion, resolved]
    rfl
  | hook data =>
    have resolved : session.machine.onHook data = (none, found) := resolved
    simp only [receive, handle, handleHook, resolved]
    rfl
  | backend message =>
    have resolved : session.machine.onBackend message = (none, found) := resolved
    simp only [receive, handle, handleBackend, resolved]
    rfl
  | transient content =>
    have resolved : session.machine.onTransient content = (none, found) := resolved
    simp only [receive, handleTransient, resolved]
    rfl

theorem receive_unshown (client : Client) {item : Item} {session : Session definition σ}
    (unshown : item.isShown = false) : session.receive client item = session := by
  cases item with
  | status change =>
    unfold receive handle handleStatus
    dsimp only
    split
    next => rfl
    next => rfl
    next declined failed =>
      simp only [Item.isShown, Bool.and_eq_false_iff, decide_eq_false_iff_not, not_not] at unshown
      exact (unshown.elim declined failed).elim
  | _ => cases unshown

theorem receive_of_taken {client : Client} {item : Item} {session : Session definition σ}
    {transition : Transition} {sends : List Send}
    (taken : session.taken? client item = some (transition, sends)) :
    ∃ ready : Session definition σ, Machine.SamePlace session.machine ready.machine ∧
      ready.queue = session.queue ++ sends.flatMap Send.told ∧
      session.receive client item = ready.commit transition := by
  obtain ⟨shown, found, built, resolved, goes⟩ := taken?_eq_some_iff.mp taken
  rcases receive_ends client shown resolved with
    ⟨others, _, ready, went, place, queue, committed⟩ | ⟨stuck, _⟩
  · cases goes.built.symm.trans went.built
    exact ⟨ready, place, queue, committed⟩
  · exact absurd goes (stuck sends built)

theorem receive_of_untaken {client : Client} {item : Item} {session : Session definition σ}
    (untaken : session.taken? client item = none) :
    Stays session (session.receive client item) := by
  cases shown : item.isShown with
  | false =>
    rw [receive_unshown client shown]
    exact ⟨⟨rfl, rfl, rfl⟩, rfl⟩
  | true =>
    cases resolved : session.machine.find item with
    | mk fired found =>
      cases fired with
      | none =>
        have same := receive_unfound client shown resolved
        refine ⟨?_, (congrArg Conversation.queue same :)⟩
        have machine : (session.receive client item).machine = found :=
          congrArg Conversation.machine same
        rw [machine]
        simpa only [resolved] using session.machine.find_samePlace item
      | some transition =>
        rcases receive_ends client shown resolved with ⟨sends, built, _, goes, _⟩ | ⟨_, stays⟩
        · have taken := taken?_eq_some_iff.mpr ⟨shown, found, built, resolved, goes⟩
          rw [untaken] at taken
          cases taken
        · exact stays

omit [Evaluator σ] in
theorem commit_queue (transition : Transition) (session : Session definition σ) :
    (session.commit transition).queue = session.queue := by
  unfold commit
  split <;> rfl

theorem handle_eq (client : Client) (notification : Notification)
    (session : Session definition σ) :
    session.handle client notification =
      (notification.item?.map (session.receive client)).getD session := by
  cases notification <;> rfl

end Session

namespace Turn

variable [Evaluator σ]

def after (turn : Turn definition σ) : Session definition σ :=
  match turn.occasion with
  | .start => turn.before.start turn.client
  | .item item => turn.before.receive turn.client item

def found? (turn : Turn definition σ) : Option Transition :=
  match turn.occasion with
  | .start => none
  | .item item => turn.before.found? item

/-- The sends that count: at the beginning those that go out, and later those of the transition that
is taken. -/
def sends (turn : Turn definition σ) : List Send :=
  match turn.occasion with
  | .start =>
    match turn.before.machine.start.1 with
    | .ok sends =>
      turn.client.letsOut turn.before.connection none turn.before.ledger.attempts sends
    | .error _ => []
  | .item item =>
    match turn.before.taken? turn.client item with
    | some (_, sends) => sends
    | none => []

def told (turn : Turn definition σ) : List String := turn.sends.flatMap Send.told

def heard (turn : Turn definition σ) : List String :=
  match turn.occasion with
  | .item (.transient content) => [content]
  | _ => []

theorem start_queue (client : Client) (session : Session definition σ) :
    (session.start client).queue =
      session.queue ++ (⟨client, .start, session⟩ : Turn definition σ).told := by
  unfold told sends Session.start
  cases started : session.machine.start with
  | mk result machine =>
    cases result with
    | error fault => exact (List.append_nil _).symm
    | ok sends =>
      obtain ⟨refused, went⟩ :=
        Session.dispatchAll_dispatched client none sends (session.withMachine machine)
      exact congrArg Conversation.queue went.conversation

/-- A turn adds to the queue what the machine tells itself in it, and does nothing else to it. -/
theorem after_queue (turn : Turn definition σ) :
    turn.after.queue = turn.before.queue ++ turn.told := by
  obtain ⟨client, occasion, before⟩ := turn
  cases occasion with
  | start => exact start_queue client before
  | item item =>
    cases taken : before.taken? client item with
    | none =>
      have untold : (⟨client, .item item, before⟩ : Turn definition σ).told = [] := by
        simp only [told, sends, taken, List.flatMap_nil]
      rw [untold, List.append_nil]
      exact (Session.receive_of_untaken taken).queue
    | some outcome =>
      obtain ⟨transition, kept⟩ := outcome
      obtain ⟨ready, _, queue, committed⟩ := Session.receive_of_taken taken
      simp only [after, told, sends, taken, committed, Session.commit_queue, queue]

theorem after_takes (turn : Turn definition σ) :
    Session.TakesAtMost 1 turn.before turn.after := by
  obtain ⟨client, occasion, before⟩ := turn
  cases occasion with
  | start => exact .of_eq (Session.start_transitions client before) 1
  | item item => exact Session.receive_takes client item before

end Turn
end Parley
