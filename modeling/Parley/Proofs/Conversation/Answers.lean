import Parley.Proofs.Conversation.AllOrNothing
import Parley.Proofs.Conversation.Attempts
import Parley.Proofs.Machine.Reached
/-!
What a question is answered.

An answer comes from a send, or else from the conversation itself: it declines what nothing fires
for, what cannot be built and what is refused, and it answers for a transition that has none among
its sends. A conversation says nothing of its own once a send has answered. It does not look whether
a send answers what another one has answered before.
-/

namespace Parley

variable {definition : Definition} {σ : Type}

def Call.answerTo? (id : String) : Call → Option (Bool × String)
  | .answer question ack info => if question = id then some (ack, info) else none
  | _ => none

/-- What is refused is not recorded. -/
def Attempt.answerTo? (id : String) (attempt : Attempt) : Option (Bool × String) :=
  if attempt.refusal.isNone then attempt.call.answerTo? id else none

def answersTo (id : String) (attempts : List Attempt) : List (Bool × String) :=
  attempts.reverse.filterMap (Attempt.answerTo? id)

def Send.answer? (send : Send) : Option (Bool × String) :=
  if send.protocol = .transient then none
  else
    match send.payload with
    | .answer ack => some (ack, send.content)
    | _ => none

theorem Send.isSome_answer? (send : Send) : send.answer?.isSome = send.isAnswer := by
  by_cases own : send.protocol = .transient
  · simp [answer?, isAnswer, own]
  · cases payload : send.payload <;> simp [answer?, isAnswer, own, payload]

theorem any_isAnswer (sends : List Send) :
    sends.any Send.isAnswer = decide (sends.filterMap Send.answer? ≠ []) := by
  rw [Bool.eq_iff_iff, List.any_eq_true, decide_eq_true_eq, ne_eq, List.filterMap_eq_nil_iff]
  simp [← Send.isSome_answer?, Option.isSome_iff_ne_none]

theorem answersTo_append (id : String) (later earlier : List Attempt) :
    answersTo id (later ++ earlier) = answersTo id earlier ++ answersTo id later := by
  simp [answersTo]

theorem answersTo_cons (id : String) (attempt : Attempt) (earlier : List Attempt) :
    answersTo id (attempt :: earlier) =
      answersTo id earlier ++ (attempt.answerTo? id).toList := by
  rw [answersTo, List.reverse_cons, List.filterMap_append]
  cases found : attempt.answerTo? id <;> simp [answersTo, found]

theorem answersTo_refused {id : String} {attempts : List Attempt}
    (refusals : ∀ attempt ∈ attempts, attempt.refusal.isSome = true) :
    answersTo id attempts = [] := by
  refine List.filterMap_eq_nil_iff.mpr fun attempt member => ?_
  have refused := refusals attempt (List.mem_reverse.mp member)
  simp [Attempt.answerTo?, Option.isSome_iff_ne_none.mp refused]

theorem answersTo_accepted (id connection : String) (attempts : List Attempt)
    (calls : List Call) :
    answersTo id (withAccepted connection attempts calls) =
      answersTo id attempts ++ calls.filterMap (Call.answerTo? id) := by
  rw [withAccepted, answersTo_append]
  simp only [answersTo, List.reverse_reverse, List.filterMap_map]
  rfl

theorem filterMap_callsOf_asked (connection : String) (asked : Question) (sends : List Send) :
    (callsOf connection (some asked) sends).filterMap (Call.answerTo? asked.id) =
      sends.filterMap Send.answer? := by
  rw [callsOf, List.filterMap_filterMap]
  congr 1
  funext send
  by_cases own : send.protocol = .transient
  · simp [Send.callOn, Send.answer?, own]
  · by_cases ping : send.protocol = .trustPing <;> cases payload : send.payload <;>
      simp [Send.callOn, Send.call?, Send.answer?, Call.answerTo?, own, ping, payload]

theorem Question.covered_unasked (id : String) :
    Question.Covered (fun call => call.answerTo? id = none) none where
  sends connection send call called := by
    by_cases own : send.protocol = .transient
    · simp [Send.callOn, own] at called
    · by_cases ping : send.protocol = .trustPing <;> cases payload : send.payload <;>
        simp [Send.callOn, Send.call?, own, ping, payload] at called <;> subst called <;> rfl
  answers asked none := by cases none

def Client.Obliges (client : Client) (id : String) : Prop :=
  ∀ attempts ack info, client.refuses attempts (.answer id ack info) = none

namespace Session

def Records (id : String) (before after : Session definition σ) (new : List (Bool × String)) :
    Prop :=
  answersTo id after.ledger.attempts = answersTo id before.ledger.attempts ++ new

instance (id : String) (before after : Session definition σ) (new : List (Bool × String)) :
    Decidable (Records id before after new) :=
  inferInstanceAs (Decidable (_ = _))

def transitions (session : Session definition σ) : Nat := session.ledger.counters.transitions

theorem Records.of_attempts {id : String} {before after : Session definition σ}
    (same : after.ledger.attempts = before.ledger.attempts) : Records id before after [] := by
  rw [Records, same, List.append_nil]

theorem Records.trans {id : String} {first second third : Session definition σ}
    {earlier later : List (Bool × String)} (before : Records id first second earlier)
    (after : Records id second third later) : Records id first third (earlier ++ later) := by
  rw [Records, after, before, List.append_assoc]

theorem Records.of_triesOnly {id : String} {before after : Session definition σ}
    (tries : TriesOnly (fun call => call.answerTo? id = none) before after) :
    Records id before after [] := by
  obtain ⟨new, tried, others⟩ := tries
  have unanswered : answersTo id new = [] := by
    refine List.filterMap_eq_nil_iff.mpr fun attempt member => ?_
    rw [Attempt.answerTo?, others attempt (List.mem_reverse.mp member), ite_self]
  rw [Records, tried, answersTo_append, unanswered]

theorem call_transitions (client : Client) (call : Call) (session : Session definition σ) :
    (session.call client call).2.transitions = session.transitions := by
  unfold Session.call Ledger.call
  dsimp only
  split <;> rfl

theorem answer_records (client : Client) (asked : Question) (ack : Bool)
    (session : Session definition σ) :
    Records asked.id session (session.answer client asked ack).2
      (if (session.answer client asked ack).1 then [(ack, "")] else []) := by
  have tried := call_attempts client (.answer asked.id ack "") session
  have accepted := call_accepts client (.answer asked.id ack "") session
  rw [Records, Session.answer, tried, answersTo_cons, accepted]
  cases client.refuses session.ledger.attempts (.answer asked.id ack "") with
  | none => simp [Attempt.answerTo?, Call.answerTo?]
  | some refusal => simp [Attempt.answerTo?]

theorem answer_of_obliges {client : Client} {asked : Question} (obliges : client.Obliges asked.id)
    (ack : Bool) (session : Session definition σ) :
    (session.answer client asked ack).1 = true := by
  rw [Session.answer, call_accepts, obliges]
  rfl

structure Silent (id : String) (before after : Session definition σ) : Prop where
  transitions : after.transitions = before.transitions
  records : Records id before after []

theorem Silent.trans {id : String} {first second third : Session definition σ}
    (before : Silent id first second) (after : Silent id second third) : Silent id first third :=
  ⟨after.transitions.trans before.transitions, before.records.trans after.records⟩

structure Declined (client : Client) (asked : Question) (before after : Session definition σ) :
    Prop where
  transitions : after.transitions = before.transitions
  records : ∃ told : Bool, (client.Obliges asked.id → told = true) ∧
    Records asked.id before after (if told then [(false, "")] else [])

structure Acknowledged (client : Client) (asked : Question) (transition : Transition)
    (before after : Session definition σ) : Prop where
  records : ∃ told : Bool, (client.Obliges asked.id → told = true) ∧
    Records asked.id before after (if told then [(acknowledges transition, "")] else []) ∧
    if told then ∃ ready : Session definition σ, ready.transitions = before.transitions ∧
      after = ready.commit transition
    else after.transitions = before.transitions

theorem Silent.decline {client : Client} {asked : Question} {before ready : Session definition σ}
    (silent : Silent asked.id before ready) :
    Declined client asked before (ready.answer client asked false).2 where
  transitions := (call_transitions _ _ _).trans silent.transitions
  records := ⟨_, fun obliges => answer_of_obliges obliges false ready,
    silent.records.trans (answer_records client asked false ready)⟩

theorem Silent.abandon {client : Client} {asked : Question} {before ready : Session definition σ}
    (silent : Silent asked.id before ready) (queued : Nat) :
    Declined client asked before (ready.abandon client queued (some asked)) :=
  Silent.decline (silent.trans (⟨rfl, .of_attempts rfl⟩ : Silent asked.id ready
    ((ready.withMachine ready.machine.rollback).withQueue (ready.queue.take queued))))

theorem dispatchAll_records (client : Client) (asked : Question) (sends : List Send)
    (session : Session definition σ) :
    Records asked.id session (dispatchAll client (some asked) sends session).session
      ((client.letsOut session.connection (some asked) session.ledger.attempts sends).filterMap
        Send.answer?) := by
  obtain ⟨refused, went⟩ := dispatchAll_dispatched client (some asked) sends session
  rw [Records, went.attempts, answersTo_append, answersTo_refused went.refusals, List.append_nil,
    answersTo_accepted, filterMap_callsOf_asked]

/-- Explicit answers are all that is told. If there are none, the conversation answers itself. -/
theorem conclude_records (client : Client) {asked : Question} {before : Session definition σ}
    {result : Dispatch definition σ} {explicit : List (Bool × String)}
    (transition : Transition) (queued : Nat)
    (records : Records asked.id before result.session explicit)
    (answered : result.answered = decide (explicit ≠ []))
    (counted : result.session.transitions = before.transitions) :
    let after := conclude client transition queued (some asked) result
    (explicit ≠ [] → Records asked.id before after explicit) ∧
      (explicit = [] → result.complete = false → Declined client asked before after) ∧
      (explicit = [] → result.complete = true →
        Acknowledged client asked transition before after) := by
  obtain ⟨complete, answers, session⟩ := result
  dsimp only at records answered counted ⊢
  refine ⟨fun some => ?_, fun none stopped => ?_, fun none went => ?_⟩
  · have given : answers = true := by simp [answered, some]
    have same : (conclude client transition queued (.some asked)
        ⟨complete, answers, session⟩).ledger.attempts = session.ledger.attempts := by
      unfold conclude
      rw [given]
      cases complete with
      | true => exact commit_attempts transition session
      | false => rfl
    rw [Records, same]
    exact records
  · have unanswered : answers = false := by simp [answered, none]
    have silent : Silent asked.id before session := ⟨counted, none ▸ records⟩
    rw [stopped, unanswered]
    exact silent.abandon queued
  · have unanswered : answers = false := by simp [answered, none]
    have silent : Silent asked.id before session := ⟨counted, none ▸ records⟩
    have told := answer_records client asked (acknowledges transition) session
    have kept : (session.answer client asked (acknowledges transition)).2.transitions =
        before.transitions := (call_transitions _ _ _).trans counted
    refine ⟨(session.answer client asked (acknowledges transition)).1,
      fun obliges => answer_of_obliges obliges _ session, ?_⟩
    rw [went, unanswered]
    unfold conclude
    simp only [if_true, Bool.false_eq_true, if_false]
    generalize session.answer client asked (acknowledges transition) = result at told kept
    obtain ⟨accepted, last⟩ := result
    cases accepted with
    | true =>
      refine ⟨?_, last, kept, rfl⟩
      rw [Records, commit_attempts]
      exact silent.records.trans told
    | false => exact ⟨silent.records.trans told, kept⟩

section Fire

variable [Evaluator σ] {transition : Transition} {input : String}
  {session : Session definition σ}

theorem fire_unbuilt (client : Client) (asked : Question) {fault : Fault}
    {built : Machine definition σ}
    (failed : session.machine.buildSends transition input = (.error fault, built)) :
    Declined client asked session (session.fire client transition input (some asked)) := by
  have silent : Silent asked.id session ((session.withMachine built).note .noteSendError) :=
    ⟨rfl, .of_attempts rfl⟩
  unfold fire
  simp only [failed]
  exact silent.abandon _

theorem fire_built (client : Client) (asked : Question) {sends : List Send}
    {built : Machine definition σ}
    (done : session.machine.buildSends transition input = (.ok sends, built)) :
    let out := client.letsOut session.connection (some asked) session.ledger.attempts sends
    let after := session.fire client transition input (some asked)
    (out.filterMap Send.answer? ≠ [] →
        Records asked.id session after (out.filterMap Send.answer?)) ∧
      (out.filterMap Send.answer? = [] → out ≠ sends → Declined client asked session after) ∧
      (out.filterMap Send.answer? = [] → out = sends →
        Acknowledged client asked transition session after) := by
  intro out after
  have records : Records asked.id session _ (out.filterMap Send.answer?) :=
    dispatchAll_records client asked sends (session.withMachine built)
  obtain ⟨refused, went⟩ :=
    dispatchAll_dispatched client (some asked) sends (session.withMachine built)
  have complete : _ = decide (out = sends) := went.complete
  have answered := went.answered.trans (any_isAnswer out)
  have counted : _ = session.transitions := (congrArg Counters.transitions went.counters :)
  have concluded :=
    conclude_records client transition session.queue.length records answered counted
  rw [complete] at concluded
  simp only [decide_eq_true_eq, decide_eq_false_iff_not] at concluded
  have fired : after = _ := fire_of_built done
  rw [fired]
  exact concluded

theorem drainFrom_records (client : Client) (id : String) (hops : Nat)
    (session : Session definition σ) : Records id session (session.drainFrom client hops) [] :=
  .of_triesOnly (drainFrom_tries (Question.covered_unasked id) client hops session)

def GoesThrough (client : Client) (asked : Question) (session : Session definition σ)
    (transition : Transition) : Prop :=
  ∃ found sends built, session.machine.onQuestion asked = (some transition, found) ∧
    found.buildSends transition asked.content = (.ok sends, built) ∧
    client.letsOut session.connection (some asked) session.ledger.attempts sends = sends

def explicitAnswers (client : Client) (asked : Question) (session : Session definition σ) :
    List (Bool × String) :=
  match session.machine.onQuestion asked with
  | (some transition, found) =>
    match found.buildSends transition asked.content with
    | (.ok sends, _) =>
      (client.letsOut session.connection (some asked) session.ledger.attempts sends).filterMap
        Send.answer?
    | (.error _, _) => []
  | (none, _) => []

/-- The four places where an answer may come from: a send, and without one the conversation, which
says no if nothing fires, if sends cannot be built, and if one of them is refused. -/
theorem handleQuestion_answers (client : Client) (asked : Question)
    (session : Session definition σ) :
    let after := session.handleQuestion client asked
    let explicit := session.explicitAnswers client asked
    (explicit ≠ [] → Records asked.id session after explicit) ∧
      (explicit = [] → (∀ transition, ¬session.GoesThrough client asked transition) →
        Declined client asked session after) ∧
      (explicit = [] → ∀ transition, session.GoesThrough client asked transition →
        Acknowledged client asked transition session after) := by
  unfold handleQuestion explicitAnswers GoesThrough
  cases resolved : session.machine.onQuestion asked with
  | mk fired found =>
    cases fired with
    | none =>
      have silent : Silent asked.id session ((session.withMachine found).note .noteUnmatched) :=
        ⟨rfl, .of_attempts rfl⟩
      exact ⟨fun some => absurd rfl some, fun _ _ => silent.decline,
        fun _ _ ⟨_, _, _, same, _⟩ => by cases same⟩
    | some transition =>
      cases done : found.buildSends transition asked.content with
      | mk result built =>
        cases result with
        | error fault =>
          simp only [done]
          have declined : Declined client asked (session.withMachine found) _ :=
            fire_unbuilt client asked done
          refine ⟨fun some => absurd rfl some,
            fun _ _ => ⟨declined.transitions, declined.records⟩, ?_⟩
          rintro _ _ ⟨_, _, _, same, other, _⟩
          cases same
          cases done.symm.trans other
        | ok sends =>
          simp only [done]
          have done : (session.withMachine found).machine.buildSends transition asked.content =
            (.ok sends, built) := done
          obtain ⟨told, declined, acknowledged⟩ := fire_built client asked done
          refine ⟨told, fun none stops => ?_, ?_⟩
          · have short := declined none fun whole => stops transition ⟨_, _, _, rfl, done, whole⟩
            exact ⟨short.transitions, short.records⟩
          · rintro none other ⟨_, _, _, same, built, whole⟩
            cases same
            cases done.symm.trans built
            exact ⟨(acknowledged none whole).records⟩

def Takes (client : Client) (asked : Question) (session : Session definition σ)
    (transition : Transition) : Prop :=
  (session.machine.onQuestion asked).1 = some transition ∧
    (session.handle client (.question asked)).transitions = session.transitions + 1

omit [Evaluator σ] in
theorem commit_transitions (wellFormed : definition.WellFormed) {transition : Transition}
    (fits : transition.Fits definition) (session : Session definition σ) :
    (session.commit transition).transitions = session.transitions + 1 := by
  obtain ⟨after, stepped, _⟩ := Machine.step_of_fits wellFormed fits session.machine
  unfold commit
  rw [stepped]
  rfl

/-- What is answered is answered by the time the question is handled. The machine tells itself
nothing that it would have to answer. -/
theorem take_records {client : Client} {asked : Question} {before : Session definition σ}
    {new : List (Bool × String)}
    (records : Records asked.id before (before.handle client (.question asked)) new) :
    Records asked.id before (before.take client (.question asked)) new := by
  have all := records.trans (drainFrom_records client asked.id hopLimit _)
  rwa [List.append_nil] at all

/-- Every question is answered if the client lets it be. Without an explicit answer it is answered
once, and the answer is yes just when the transition has been taken and is not one that turns values
down. With explicit answers the first of them is the first that is recorded. -/
theorem question_is_answered {draft : Draft} (accepted : draft.check = .ok definition)
    (client : Client) {asked : Question} (obliges : client.Obliges asked.id)
    (before : Session definition σ) :
    ∃ new, Records asked.id before (before.take client (.question asked)) new ∧ new ≠ [] ∧
      (before.explicitAnswers client asked = [] →
        (∃ ack, new = [(ack, "")] ∧
          (ack = true ↔ ∃ transition, before.Takes client asked transition ∧
            transition.trigger.rule ≠ .notAcceptValues)) ∧
        ((∀ transition, ¬before.GoesThrough client asked transition) → new = [(false, "")])) ∧
      (before.explicitAnswers client asked ≠ [] →
        new.head? = (before.explicitAnswers client asked).head?) := by
  have wellFormed := Definition.wellFormed_of_check accepted
  obtain ⟨told, declined, acknowledged⟩ := handleQuestion_answers client asked before
  by_cases explicit : before.explicitAnswers client asked = []
  case neg => exact ⟨_, take_records (told explicit), explicit, fun none => absurd none explicit,
    fun _ => rfl⟩
  case pos =>
    by_cases through : ∃ transition, before.GoesThrough client asked transition
    · obtain ⟨transition, goes⟩ := through
      obtain ⟨_, given, records, taken⟩ := (acknowledged explicit transition goes).records
      simp only [given obliges, if_true] at records taken
      obtain ⟨ready, same, committed⟩ := taken
      have resolved : (before.machine.onQuestion asked).1 = some transition := by
        obtain ⟨_, _, _, resolved, _⟩ := goes
        rw [resolved]
      have found : (before.machine.find (.question asked)).1 = some transition := resolved
      have fits := Machine.find_fits wellFormed before.machine found
      have counted : (before.handle client (.question asked)).transitions =
          before.transitions + 1 := by
        rw [← same, ← commit_transitions wellFormed fits ready]
        exact congrArg Session.transitions committed
      refine ⟨_, take_records records, List.cons_ne_nil _ _, fun _ => ⟨⟨_, rfl, ?_⟩, ?_⟩,
        fun some => absurd explicit some⟩
      · rw [acknowledges, decide_eq_true_eq]
        constructor
        · exact fun kind => ⟨transition, ⟨resolved, counted⟩, kind⟩
        · rintro ⟨other, ⟨same, _⟩, kind⟩
          cases resolved.symm.trans same
          exact kind
      · exact fun stops => absurd goes (stops transition)
    · have stops : ∀ transition, ¬before.GoesThrough client asked transition :=
        fun transition goes => through ⟨transition, goes⟩
      have ends := declined explicit stops
      obtain ⟨_, given, records⟩ := ends.records
      simp only [given obliges, if_true] at records
      refine ⟨_, take_records records, List.cons_ne_nil _ _,
        fun _ => ⟨⟨_, rfl, ?_⟩, fun _ => rfl⟩, fun some => absurd explicit some⟩
      constructor
      · exact fun yes => by cases yes
      · rintro ⟨_, ⟨_, counted⟩, _⟩
        exact absurd (counted.symm.trans ends.transitions) (Nat.succ_ne_self _)

end Fire

def emailAsked : Question := ⟨"q", "c", [⟨"email", "a@b.c", none⟩]⟩

/-- If the report of a clerk is refused, whoever has asked is told no. -/
theorem refused_report_declines :
    let client := Client.refusing fun call => call.kind = "backend"
    client.Obliges emailAsked.id ∧
      Records "q" atDesk (atDesk.take client (.question emailAsked)) [(false, "")] := by
  intro client
  have obliges : client.Obliges emailAsked.id := fun _ _ _ => rfl
  have silent : atDesk.explicitAnswers client emailAsked = [] := by decide
  obtain ⟨_, records, _, unanswered, _⟩ :=
    question_is_answered Draft.clerk_check client obliges atDesk
  have declined := (unanswered silent).2 ?_
  · rw [declined] at records
    exact ⟨obliges, records⟩
  · rintro transition ⟨found, sends, built, resolved, done, whole⟩
    cases resolved
    cases done
    exact absurd whole (by decide)

section Twice

theorem answer_of_payload {event : Event} {memory : Registers} {ack : Bool}
    (carried : event.payload memory = .ok (.answer ack)) : event.protocol = .answer := by
  have mapped {α : Type} {result : Except Fault α} {make : α → Payload}
      (other : ∀ value, make value ≠ .answer ack) : result.map make ≠ .ok (.answer ack) := by
    cases result <;> simp [Except.map, other]
  unfold Event.payload at carried
  split at carried
  case h_4 => exact absurd carried (mapped fun _ => by simp)
  case h_6 => exact absurd carried (mapped fun _ => by simp)
  case h_8 protocol _ => exact protocol
  case h_9 protocol _ => exact protocol
  case h_10 => exact absurd carried (mapped fun _ => by simp)
  case h_12 => split at carried <;> cases carried
  case h_13 =>
    split at carried
    next => cases carried
    next => exact absurd carried (mapped fun _ => by simp)
  all_goals cases carried

variable [Evaluator σ]

theorem answer_of_build {event : Event} {input : String} {store : Store σ} {send : Send}
    (done : (event.build input store).1 = .ok (some send)) (answers : send.isAnswer = true) :
    event.protocol = .answer := by
  unfold Event.build at done
  split at done
  next => cases done
  next => cases done
  next content after _ =>
    cases carried : event.payload after.memory with
    | error fault => simp [carried, Except.map] at done
    | ok payload =>
      simp only [carried, Except.map, Except.ok.injEq, Option.some.injEq] at done
      subst done
      cases payload with
      | answer ack => exact answer_of_payload carried
      | _ => simp [Send.isAnswer, Event.send] at answers

/-- There are no more answers among sends than among the events that they are built for. -/
theorem answers_of_buildAll {events : List Event} {input : String} {store : Store σ}
    {sends : List Send} (done : (buildAll events input store).1 = .ok sends) :
    sends.countP Send.isAnswer ≤ events.countP (·.protocol = .answer) := by
  induction events generalizing store sends with
  | nil => cases done; exact Nat.le_refl 0
  | cons event rest ih =>
    rw [buildAll] at done
    split at done
    next => cases done
    next built after first =>
      split at done
      next => cases done
      next others later =>
        cases done
        have tail := ih (congrArg Prod.fst later)
        have head : built.toList.countP Send.isAnswer ≤
            [event].countP (·.protocol = .answer) := by
          cases built with
          | none => exact Nat.zero_le _
          | some send =>
            have own := answer_of_build (congrArg Prod.fst first)
            by_cases answers : send.isAnswer = true
            · simp [answers, own answers]
            · simp [answers]
        rw [List.countP_append, ← List.singleton_append, List.countP_append]
        exact Nat.add_le_add head tail

def AnswersOnce (definition : Definition) : Prop :=
  ∀ state ∈ definition.states, ∀ transition ∈ state.transitions,
    transition.trigger.protocol = .answer →
      transition.sends.countP (·.protocol = .answer) ≤ 1

omit [Evaluator σ] in
theorem length_answers (sends : List Send) :
    (sends.filterMap Send.answer?).length = sends.countP Send.isAnswer := by
  rw [List.length_filterMap_eq_countP]
  simp only [Send.isSome_answer?]

theorem explicitAnswers_once (once : AnswersOnce definition) (client : Client) (asked : Question)
    (session : Session definition σ) : (session.explicitAnswers client asked).length ≤ 1 := by
  unfold explicitAnswers
  split
  next transition found resolved =>
    have fired : (session.machine.find (.question asked)).1 = some transition :=
      congrArg Prod.fst resolved
    rw [Machine.find_eq] at fired
    have kind : transition.trigger.protocol = .answer := by
      simpa [Item.admits] using Machine.firstFiring_admitted fired
    obtain ⟨declared, inside, same⟩ := Machine.firstFiring_events fired
    obtain ⟨trigger, sends⟩ := List.cons.inj same
    have bound := once _ (List.get_mem _ _) declared inside (trigger ▸ kind)
    split
    next built _ done =>
      have out :=
        client.letsOut_prefix session.connection (some asked) session.ledger.attempts built
      calc ((client.letsOut session.connection (some asked) session.ledger.attempts built).filterMap
              Send.answer?).length
          = (client.letsOut session.connection (some asked) session.ledger.attempts built).countP
              Send.isAnswer := length_answers _
        _ ≤ built.countP Send.isAnswer := out.sublist.countP_le
        _ ≤ transition.sends.countP (·.protocol = .answer) :=
            answers_of_buildAll (congrArg Prod.fst done)
        _ ≤ 1 := by rw [sends]; exact bound
    next => exact Nat.zero_le 1
  next => exact Nat.zero_le 1

/-- A question is answered by the explicit answers that go out for it, and by the conversation if
there is none. So it is answered twice just when two explicit answers go out. -/
theorem answered_once_iff (client : Client) (asked : Question) (before : Session definition σ) :
    ∃ new, Records asked.id before (before.take client (.question asked)) new ∧
      (before.explicitAnswers client asked ≠ [] → new = before.explicitAnswers client asked) ∧
      (before.explicitAnswers client asked = [] → new.length ≤ 1) ∧
      (new.length ≤ 1 ↔ (before.explicitAnswers client asked).length ≤ 1) ∧
      (AnswersOnce definition → new.length ≤ 1) := by
  obtain ⟨told, declined, acknowledged⟩ := handleQuestion_answers client asked before
  have once := fun rare : AnswersOnce definition => explicitAnswers_once rare client asked before
  by_cases explicit : before.explicitAnswers client asked = []
  case neg =>
    exact ⟨_, take_records (told explicit), fun _ => rfl, fun none => absurd none explicit, .rfl,
      once⟩
  case pos =>
    have own : ∃ new, Records asked.id before (before.handle client (.question asked)) new ∧
        new.length ≤ 1 := by
      by_cases through : ∃ transition, before.GoesThrough client asked transition
      · obtain ⟨transition, goes⟩ := through
        obtain ⟨told, _, records, _⟩ := (acknowledged explicit transition goes).records
        refine ⟨_, records, ?_⟩
        cases told <;> simp
      · obtain ⟨told, _, records⟩ :=
          (declined explicit fun transition goes => through ⟨transition, goes⟩).records
        refine ⟨_, records, ?_⟩
        cases told <;> simp
    obtain ⟨new, records, short⟩ := own
    refine ⟨new, take_records records, fun some => absurd explicit some, fun _ => short, ?_,
      fun _ => short⟩
    rw [explicit]
    exact iff_of_true short (Nat.zero_le 1)

end Twice

/-- A clerk has no answers among the sends, and so gives one at most. -/
theorem clerk_answers_once :
    AnswersOnce Definition.clerk ∧
      ∃ new, Records "q" atDesk (atDesk.take (.refusing fun _ => false) (.question emailAsked))
          new ∧ new.length ≤ 1 := by
  have once : AnswersOnce Definition.clerk := by
    unfold AnswersOnce
    decide
  obtain ⟨new, records, _, _, _, short⟩ :=
    answered_once_iff (.refusing fun _ => false) emailAsked atDesk
  exact ⟨once, new, records, short once⟩

end Session

def Draft.waverer : Draft where
  name := "waverer"
  kind := .conversation
  keepMemory := true
  initial := { trigger := none, sends := [], target := "DESK" }
  states :=
    [("DESK",
      { transitions :=
          [{ trigger := some ⟨"answer", none, some "ACCEPT_AND_INPUT_VALUES", none, none, false⟩
             sends :=
              [⟨"answer", none, none, some "yes", some (.answer true), false⟩,
                ⟨"answer", none, none, some "no", some (.answer false), false⟩]
             target := "DESK" }]
        terminate := false })]

def Definition.waverer : Definition where
  name := "waverer"
  kind := .conversation
  keepMemory := true
  initial := { sends := [], target := "DESK" }
  states :=
    [⟨"DESK",
      [⟨⟨.answer, .acceptAndInputValues, none, "", none, true⟩,
          [⟨.answer, .data, none, "yes", some (.answer true), true⟩,
            ⟨.answer, .data, none, "no", some (.answer false), true⟩],
          "DESK"⟩], false⟩]
  initialIndex := ⟨0, by decide⟩
  checksum := Draft.waverer.checksum

namespace Session

def unasked : Session Definition.waverer Lua.State :=
  ⟨.new .waverer "c" .initial (.constant 0), .empty⟩

/-- Both answers are recorded, though there is one question. -/
theorem waverer_answers_twice :
    Draft.waverer.check = .ok Definition.waverer ∧
      Records "q" unasked (unasked.take (.refusing fun _ => false) (.question emailAsked))
        [(true, "yes"), (false, "no")] :=
  ⟨rfl, by decide⟩

end Session
end Parley
