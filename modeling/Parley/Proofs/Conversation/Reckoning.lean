import Parley.Proofs.Conversation.Feedback
/-!
What is counted for the items that a conversation handles.

Every item has one fate. It is passed over, a transition is committed for it, nothing matches it, or
something fails on the way. Each fate leaves a trace of its own in the counters, so that the counters
tell how many items have come to what.
-/

namespace Parley

variable {definition : Definition} {σ : Type}

namespace Session

/-- What is counted from one session to another: transitions, items that nothing was found for, and
errors. Sends may be counted besides. -/
structure Counted (before after : Session definition σ) (transitions unmatched errors : Nat) :
    Prop where
  counters : after.ledger.counters =
    { before.ledger.counters with
      transitions := before.ledger.counters.transitions + transitions
      unmatched := before.ledger.counters.unmatched + unmatched
      sends := after.ledger.counters.sends
      sendErrors := before.ledger.counters.sendErrors + errors }
  sends : before.ledger.counters.sends ≤ after.ledger.counters.sends

/-- An item came to nothing, with an error at least, and the machine is where it was. -/
structure Failed (before after : Session definition σ) : Prop where
  place : Machine.SamePlace before.machine after.machine
  counted : ∃ errors, 0 < errors ∧ Counted before after 0 0 errors

namespace Counted

variable {first second third : Session definition σ}

theorem of_ledger {before after : Session definition σ} (same : after.ledger = before.ledger) :
    Counted before after 0 0 0 := by
  constructor
  · rw [same]
    rfl
  · rw [same]

theorem trans {transitions unmatched errors more others further : Nat}
    (earlier : Counted first second transitions unmatched errors)
    (later : Counted second third more others further) :
    Counted first third (transitions + more) (unmatched + others) (errors + further) where
  counters := by
    rw [later.counters, earlier.counters]
    simp only [Nat.add_assoc]
  sends := earlier.sends.trans later.sends

end Counted

theorem call_counted (client : Client) (call : Call) (session : Session definition σ) :
    Counted session (session.call client call).2 0 0
      (if (session.call client call).1 then 0 else 1) := by
  unfold Session.call Ledger.call
  dsimp only
  split
  next => exact ⟨rfl, Nat.le_refl _⟩
  next => exact ⟨rfl, Nat.le_refl _⟩

theorem dispatchAll_counted (client : Client) (question : Option Question) (sends : List Send)
    (session : Session definition σ) :
    Counted session (dispatchAll client question sends session).session 0 0
      (if (dispatchAll client question sends session).complete then 0 else 1) := by
  obtain ⟨refused, went⟩ := dispatchAll_dispatched client question sends session
  have stopped := went.stopped
  constructor
  · rw [went.counters, stopped]
    rfl
  · rw [went.counters]
    exact Nat.le_add_right _ _

/-- What is dropped after an error is dropped with the machine where it was, and a refusal of the
answer makes one error more. -/
theorem abandon_failed (client : Client) (queued : Nat) (question : Option Question)
    {before session : Session definition σ} {errors : Nat} (wrong : 0 < errors)
    (counted : Counted before session 0 0 errors)
    (place : Machine.SamePlace before.machine session.machine) :
    Failed before (session.abandon client queued question) where
  place := by
    have dropped := congrArg Conversation.machine
      (abandon_conversation client queued question session)
    have machine : (session.abandon client queued question).machine = session.machine.rollback :=
      dropped
    rw [machine]
    exact place.trans session.machine.rollback_samePlace
  counted := by
    unfold abandon
    have undone : Counted session
        ((session.withMachine session.machine.rollback).withQueue (session.queue.take queued))
        0 0 0 := .of_ledger rfl
    cases question with
    | none => exact ⟨errors, wrong, counted.trans undone⟩
    | some asked =>
      have declined := call_counted client (.answer asked.id false "")
        ((session.withMachine session.machine.rollback).withQueue (session.queue.take queued))
      exact ⟨_, Nat.lt_of_lt_of_le wrong (Nat.le_add_right _ _),
        (counted.trans undone).trans declined⟩

def Concludes (transition : Transition) (before after : Session definition σ) : Prop :=
  (∃ ready : Session definition σ, Counted before ready 0 0 0 ∧ after = ready.commit transition) ∨
    Failed before after

theorem conclude_concludes (client : Client) (transition : Transition) (queued : Nat)
    (question : Option Question) {before : Session definition σ} {result : Dispatch definition σ}
    (counted : Counted before result.session 0 0 (if result.complete then 0 else 1))
    (place : Machine.SamePlace before.machine result.session.machine) :
    Concludes transition before (conclude client transition queued question result) := by
  obtain ⟨complete, answered, session⟩ := result
  unfold conclude
  cases complete with
  | false => exact .inr (abandon_failed client queued _ Nat.one_pos counted place)
  | true =>
    dsimp only at counted place ⊢
    cases open? : if answered then none else question with
    | none => exact .inl ⟨session, counted, rfl⟩
    | some asked =>
      have told := call_counted client (.answer asked.id (acknowledges transition) "") session
      have same := call_conversation client (.answer asked.id (acknowledges transition) "") session
      simp only [if_true, Session.answer]
      generalize session.call client (.answer asked.id (acknowledges transition) "") = outcome
        at told same
      obtain ⟨accepted, after⟩ := outcome
      have here : after.machine = session.machine := congrArg Conversation.machine same
      cases accepted with
      | true => exact .inl ⟨after, counted.trans told, rfl⟩
      | false =>
        refine .inr (abandon_failed client queued none Nat.one_pos (counted.trans told) ?_)
        rw [here]
        exact place

variable [Evaluator σ]

theorem fire_concludes (client : Client) (transition : Transition) (input : String)
    (question : Option Question) (session : Session definition σ) :
    Concludes transition session (session.fire client transition input question) := by
  have place := session.machine.buildSends_samePlace transition input
  cases done : session.machine.buildSends transition input with
  | mk result built =>
    rw [done] at place
    cases result with
    | error fault =>
      unfold fire
      simp only [done]
      have wrong : Counted session ((session.withMachine built).note .noteSendError) 0 0 1 :=
        ⟨rfl, Nat.le_refl _⟩
      exact .inr (abandon_failed client _ question Nat.one_pos wrong place)
    | ok sends =>
      rw [fire_of_built done]
      have same : Counted session (session.withMachine built) 0 0 0 := .of_ledger rfl
      have sent := dispatchAll_counted client question sends (session.withMachine built)
      have machine := (dispatchAll_sent client question sends (session.withMachine built)).machine
      apply conclude_concludes
      · have counted := same.trans sent
        simpa only [Nat.zero_add] using counted
      · rw [machine]
        exact place

end Session

inductive Fate where
  /-- Nothing was to be done. -/
  | passedOver
  | committed
  /-- No transition was found. -/
  | unmatched
  /-- Something could not be built, or a call was refused. -/
  | failed
  deriving DecidableEq

namespace Fate

open Session (Counted Failed)

variable [Evaluator σ]

def Describes (item? : Option Item) (before after : Session definition σ) : Fate → Prop
  | passedOver => (∀ item, item? = some item → item.isShown = false) ∧ after = before
  | committed =>
    ∃ item transition, item? = some item ∧ before.found? item = some transition ∧
      (∃ ready : Session definition σ, after = ready.commit transition) ∧
      after.machine.state.name = transition.target ∧ Counted before after 1 0 0
  | unmatched =>
    ∃ item, item? = some item ∧ item.isShown = true ∧ before.found? item = none ∧
      Machine.SamePlace before.machine after.machine ∧
      ∃ errors ≤ item.question?.toList.length, Counted before after 0 1 errors
  | failed => ∃ item, item? = some item ∧ item.isShown = true ∧ Failed before after

def transitions (fate : Fate) : Nat := if fate = committed then 1 else 0

def misses (fate : Fate) : Nat := if fate = unmatched then 1 else 0

variable {item? : Option Item} {before after : Session definition σ} {fate : Fate}

theorem count_committed (fate : Fate) (fates : List Fate) :
    (fate :: fates).count committed = fate.transitions + fates.count committed := by
  cases fate <;> simp [transitions, Nat.add_comm]

theorem count_unmatched (fate : Fate) (fates : List Fate) :
    (fate :: fates).count unmatched = fate.misses + fates.count unmatched := by
  cases fate <;> simp [misses, Nat.add_comm]

/-- Each fate leaves its own trace in the counters. -/
theorem Describes.traces (describes : fate.Describes item? before after) :
    ∃ errors, Counted before after fate.transitions fate.misses errors ∧
      (fate = failed → 0 < errors) ∧ (fate = passedOver → errors = 0) := by
  cases fate with
  | passedOver =>
    obtain ⟨_, rfl⟩ := describes
    exact ⟨0, .of_ledger rfl, by simp, by simp⟩
  | committed =>
    obtain ⟨_, _, _, _, _, _, counted⟩ := describes
    exact ⟨0, counted, by simp, by simp⟩
  | unmatched =>
    obtain ⟨_, _, _, _, _, errors, _, counted⟩ := describes
    exact ⟨errors, counted, by simp, by simp⟩
  | failed =>
    obtain ⟨_, _, _, _, errors, wrong, counted⟩ := describes
    exact ⟨errors, counted, fun _ => wrong, by simp⟩

theorem Describes.unique {other : Fate} (describes : fate.Describes item? before after)
    (others : other.Describes item? before after) : fate = other := by
  obtain ⟨errors, counted, wrong, clean⟩ := describes.traces
  obtain ⟨more, recounted, faulty, spotless⟩ := others.traces
  have transitions := congrArg Counters.transitions
    (counted.counters.symm.trans recounted.counters)
  have misses := congrArg Counters.unmatched (counted.counters.symm.trans recounted.counters)
  have sendErrors := congrArg Counters.sendErrors
    (counted.counters.symm.trans recounted.counters)
  dsimp only at transitions misses sendErrors
  cases fate <;> cases other <;> simp_all [Fate.transitions, Fate.misses]

theorem Describes.current (describes : fate.Describes item? before after)
    (uncommitted : fate ≠ committed) : after.machine.current = before.machine.current := by
  cases fate with
  | passedOver => rw [describes.2]
  | committed => exact absurd rfl uncommitted
  | unmatched =>
    obtain ⟨_, _, _, _, place, _⟩ := describes
    exact place.current
  | failed =>
    obtain ⟨_, _, _, failed⟩ := describes
    exact failed.place.current

variable {item : Item} {transition : Transition}

theorem exists_of_concludes (wellFormed : definition.WellFormed) (shown : item.isShown = true)
    (found : before.found? item = some transition) {asked : Session definition σ}
    (counted : Counted before asked 0 0 0)
    (place : Machine.SamePlace before.machine asked.machine)
    (concludes : Session.Concludes transition asked after) :
    ∃ fate : Fate, fate.Describes (some item) before after := by
  rcases concludes with ⟨ready, prepared, rfl⟩ | ⟨stays, errors, wrong, spoilt⟩
  · have fits : transition.Fits definition := by
      have fired : (before.machine.find item).1 = some transition := by
        rw [Session.found?, if_pos shown] at found
        exact found
      exact Machine.find_fits wellFormed before.machine fired
    obtain ⟨next, stepped, state, _⟩ := Machine.step_of_fits wellFormed fits ready.machine
    have taken : ready.commit transition = (ready.withMachine next).note .noteTransition := by
      unfold Session.commit
      rw [stepped]
    have one : Counted ready (ready.commit transition) 1 0 0 := by
      rw [taken]
      exact ⟨rfl, Nat.le_refl _⟩
    refine ⟨committed, item, transition, rfl, found, ⟨ready, rfl⟩, ?_, ?_⟩
    · rw [taken]
      exact state
    · simpa only [Nat.zero_add] using (counted.trans prepared).trans one
  · exact ⟨failed, item, rfl, shown, place.trans stays, errors, wrong,
      by simpa only [Nat.zero_add] using counted.trans spoilt⟩

theorem exists_of_follow (wellFormed : definition.WellFormed) (client : Client)
    (shown : item.isShown = true) {asked : Session definition σ}
    (counted : Counted before asked 0 0 0) :
    ∃ fate : Fate, fate.Describes (some item) before
      (asked.follow client (before.machine.find item) item.content) := by
  have place := before.machine.find_samePlace item
  cases resolved : before.machine.find item with
  | mk fired found =>
    rw [resolved] at place
    have found? : before.found? item = fired := by
      rw [Session.found?, if_pos shown, resolved]
    have same : Counted asked (asked.withMachine found) 0 0 0 := .of_ledger rfl
    have ready : Counted before (asked.withMachine found) 0 0 0 := counted.trans same
    cases fired with
    | some transition =>
      exact exists_of_concludes wellFormed shown found? ready place
        (Session.fire_concludes client transition item.content none _)
    | none =>
      refine ⟨unmatched, item, rfl, shown, found?, place, 0, Nat.zero_le _, ?_⟩
      have missed : Counted (asked.withMachine found)
          ((asked.withMachine found).note .noteUnmatched) 0 1 0 := ⟨rfl, Nat.le_refl _⟩
      exact ready.trans missed

theorem exists_of_status (wellFormed : definition.WellFormed) (client : Client) (change : Status)
    (session : Session definition σ) :
    ∃ fate : Fate, fate.Describes (some (.status change)) session
      (session.handleStatus client change) := by
  cases shown : (Item.status change).isShown with
  | false =>
    have passed : session.handleStatus client change = session :=
      Session.receive_unshown client shown
    refine ⟨passedOver, ?_, passed⟩
    rintro _ ⟨⟩
    exact shown
  | true =>
    have place := session.machine.find_samePlace (.status change)
    have called := Session.call_counted client (session.decision change) session
    rcases session.handleStatus_cases client change with
      ⟨ended, _⟩ | ⟨_, same⟩ | ⟨_, decided, told, same⟩ | ⟨_, decided, told, same⟩
    · rcases ended with declined | failed
      · simp [Item.isShown, declined] at shown
      · simp [Item.isShown, failed] at shown
    · rw [same]
      exact exists_of_follow wellFormed client shown (.of_ledger rfl)
    · rw [told] at called
      rw [same]
      exact exists_of_follow wellFormed client shown called
    · rw [told] at called
      rw [same]
      refine ⟨failed, _, rfl, shown, ?_, 1, Nat.one_pos, ?_⟩
      · change Machine.SamePlace session.machine (if _ then _ else _)
        split
        next => exact place.trans (Machine.rollback_samePlace _)
        next => exact place
      · have same (machine : Machine definition σ) :
            Counted decided (decided.withMachine machine) 0 0 0 := .of_ledger rfl
        exact called.trans (same _)

theorem exists_of_question (wellFormed : definition.WellFormed) (client : Client)
    (asked : Question) (session : Session definition σ) :
    ∃ fate : Fate, fate.Describes (some (.question asked)) session
      (session.handleQuestion client asked) := by
  have place := session.machine.find_samePlace (.question asked)
  have shown : (Item.question asked).isShown = true := rfl
  unfold Session.handleQuestion
  cases resolved : session.machine.onQuestion asked with
  | mk fired found =>
    have resolved : session.machine.find (.question asked) = (fired, found) := resolved
    rw [resolved] at place
    have found? : session.found? (.question asked) = fired := by
      rw [Session.found?, if_pos shown, resolved]
    have same : Counted session (session.withMachine found) 0 0 0 := .of_ledger rfl
    cases fired with
    | some transition =>
      exact exists_of_concludes wellFormed shown found? same place
        (Session.fire_concludes client transition asked.content (some asked) _)
    | none =>
      have missed : Counted (session.withMachine found)
          ((session.withMachine found).note .noteUnmatched) 0 1 0 := ⟨rfl, Nat.le_refl _⟩
      have declined := Session.call_counted client (.answer asked.id false "")
        ((session.withMachine found).note .noteUnmatched)
      refine ⟨unmatched, .question asked, rfl, shown, found?, place, _, ?_,
        (same.trans missed).trans declined⟩
      split
      next => exact Nat.zero_le _
      next => exact Nat.le_refl 1

theorem exists_of_receive (wellFormed : definition.WellFormed) (client : Client) (item : Item)
    (session : Session definition σ) :
    ∃ fate : Fate, fate.Describes (some item) session (session.receive client item) := by
  have same : Counted session session 0 0 0 := .of_ledger rfl
  cases item with
  | status change => exact exists_of_status wellFormed client change session
  | question asked => exact exists_of_question wellFormed client asked session
  | hook data =>
    have shown : (Item.hook data).isShown = true := rfl
    exact exists_of_follow wellFormed client shown same
  | backend message =>
    have shown : (Item.backend message).isShown = true := rfl
    exact exists_of_follow wellFormed client shown same
  | transient content =>
    have shown : (Item.transient content).isShown = true := rfl
    exact exists_of_follow wellFormed client shown same

end Fate

namespace Session

open Fate

/-- An item has one fate, and only a committed transition moves the machine. -/
structure Accounted [Evaluator σ] (item? : Option Item) (before after : Session definition σ) :
    Prop where
  once : ∃! fate : Fate, fate.Describes item? before after
  moved : after.machine.current ≠ before.machine.current →
    committed.Describes item? before after

structure Reckoned (fates : List Fate) (before after : Session definition σ) : Prop where
  transitions : after.ledger.counters.transitions =
    before.ledger.counters.transitions + fates.count .committed
  unmatched : after.ledger.counters.unmatched =
    before.ledger.counters.unmatched + fates.count .unmatched
  sendErrors : before.ledger.counters.sendErrors + fates.count .failed ≤
    after.ledger.counters.sendErrors

theorem Reckoned.of_ledger {before after : Session definition σ}
    (same : after.ledger = before.ledger) : Reckoned [] before after := by
  constructor <;> simp [same]

variable [Evaluator σ]

theorem Accounted.of_exists {item? : Option Item} {before after : Session definition σ}
    (described : ∃ fate : Fate, fate.Describes item? before after) :
    Accounted item? before after := by
  obtain ⟨fate, describes⟩ := described
  refine ⟨⟨fate, describes, fun other others => others.unique describes⟩, fun moved => ?_⟩
  by_cases taken : fate = committed
  · exact taken ▸ describes
  · exact absurd (describes.current taken) moved

theorem Reckoned.cons {item? : Option Item} {fate : Fate} {fates : List Fate}
    {before between after : Session definition σ}
    (describes : fate.Describes item? before between) (rest : Reckoned fates between after) :
    Reckoned (fate :: fates) before after := by
  obtain ⟨errors, counted, wrong, _⟩ := describes.traces
  have transitions := congrArg Counters.transitions counted.counters
  have unmatched := congrArg Counters.unmatched counted.counters
  have sendErrors := congrArg Counters.sendErrors counted.counters
  have first := rest.transitions
  have second := rest.unmatched
  have third := rest.sendErrors
  dsimp only at transitions unmatched sendErrors
  constructor
  · rw [count_committed]
    omega
  · rw [count_unmatched]
    omega
  · by_cases broken : fate = failed
    · have some := wrong broken
      rw [broken, List.count_cons_self]
      omega
    · rw [List.count_cons_of_ne broken]
      omega

theorem handle_accounted (wellFormed : definition.WellFormed) (client : Client)
    (notification : Notification) (session : Session definition σ) :
    ∃ fate : Fate, fate.Describes notification.item? session
      (session.handle client notification) := by
  rw [handle_eq]
  cases told : notification.item? with
  | none => exact ⟨passedOver, nofun, rfl⟩
  | some item => exact exists_of_receive wellFormed client item session

theorem Feeds.reckoned (wellFormed : definition.WellFormed) {client : Client} {limit : Nat}
    {session : Session definition σ} {turns : List (Turn definition σ)}
    (feeds : Feeds client limit session turns) :
    ∃ fates : List Fate,
      List.Forall₂ (fun turn fate => ∃ content, turn.occasion = .item (.transient content) ∧
        fate.Describes (some (.transient content)) turn.before turn.after) turns fates ∧
      Reckoned fates session (session.reach turns) := by
  induction feeds with
  | full | empty _ | finished _ => exact ⟨[], .nil, .of_ledger rfl⟩
  | @hop limit session content rest later queued running _ ih =>
    obtain ⟨fates, others, reckoned⟩ := ih
    obtain ⟨fate, describes⟩ :=
      exists_of_receive wellFormed client (.transient content) (session.withQueue rest)
    refine ⟨fate :: fates, .cons ⟨content, rfl, describes⟩ others, ?_⟩
    have all : Reckoned (fate :: fates) (session.withQueue rest) _ :=
      Reckoned.cons describes reckoned
    exact ⟨all.transitions, all.unmatched, all.sendErrors⟩

/-- Every item is accounted for once, be it from outside or one that the machine tells itself, and
after an item from outside the counters tell what has become of it and of all that the machine has
told itself on it. -/
theorem every_item_is_accounted {draft : Draft} (accepted : draft.check = .ok definition)
    (client : Client) (before : Session definition σ) :
    (∀ notification,
        Accounted notification.item? before (before.handle client notification)) ∧
      (∀ content,
        Accounted (some (.transient content)) before (before.handleTransient client content)) ∧
      ∀ notification, ∃ (fate : Fate) (fates : List Fate),
        fate.Describes notification.item? before (before.handle client notification) ∧
          List.Forall₂ (fun turn fate => ∃ content, turn.occasion = .item (.transient content) ∧
              fate.Describes (some (.transient content)) turn.before turn.after)
            ((before.handle client notification).hops client) fates ∧
          Reckoned (fate :: fates) before (before.take client notification) := by
  have wellFormed := Definition.wellFormed_of_check accepted
  refine ⟨fun notification => ?_, fun content => ?_, fun notification => ?_⟩
  · exact .of_exists (handle_accounted wellFormed client notification before)
  · exact .of_exists (exists_of_receive wellFormed client (.transient content) before)
  · obtain ⟨fate, describes⟩ := handle_accounted wellFormed client notification before
    have fed := hops_feeds client (before.handle client notification)
    obtain ⟨fates, others, reckoned⟩ := fed.reckoned wellFormed
    refine ⟨fate, fates, describes, others, ?_⟩
    have all := Reckoned.cons describes reckoned
    rw [take, drain, fed.drainFrom_eq]
    exact ⟨all.transitions, all.unmatched, all.sendErrors⟩

/-- If the report of a clerk and then its answer are refused, the question has failed with two
errors. -/
theorem refused_answer_fails :
    let client := Client.refusing fun call => call.kind = "backend" || call.kind = "answer"
    let after := atDesk.handle client (.question emailAsked)
    Draft.clerk.check = .ok Definition.clerk ∧
      Fate.failed.Describes (some (.question emailAsked)) atDesk after ∧
      after.ledger.counters = { Counters.zero with sends := 2, sendErrors := 2 } ∧
      ∀ fate : Fate, fate.Describes (some (.question emailAsked)) atDesk after → fate = .failed := by
  intro client after
  have counted : after.ledger.counters = { Counters.zero with sends := 2, sendErrors := 2 } := by
    decide +kernel
  obtain ⟨accounted, _⟩ := every_item_is_accounted Draft.clerk_check client atDesk
  obtain ⟨fate, describes, unique⟩ := (accounted (.question emailAsked)).once
  have fails : fate = .failed := by
    obtain ⟨errors, traces, wrong, clean⟩ := describes.traces
    have same := traces.counters.symm.trans counted
    have transitions : 0 + fate.transitions = 0 := congrArg Counters.transitions same
    have misses : 0 + fate.misses = 0 := congrArg Counters.unmatched same
    have sendErrors : 0 + errors = 2 := congrArg Counters.sendErrors same
    cases fate with
    | passedOver => rw [clean rfl] at sendErrors; cases sendErrors
    | committed => cases transitions
    | unmatched => cases misses
    | failed => rfl
  subst fails
  exact ⟨Draft.clerk_check, describes, counted, unique⟩

end Session

end Parley
