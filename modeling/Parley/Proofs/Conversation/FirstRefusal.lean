import Parley.Proofs.Conversation.AllOrNothing
import Parley.Proofs.Conversation.Prefix
/-!
Where the first refusal cuts off a list of sends.

What a send carries and what call it comes to are decided in two places: when it is built, by the
protocol of its event, and when it goes out, by what it carries. The two agree for every protocol.
So a list of sends that has been built comes to the calls of its protocols, and those up to the
first one that the client refuses are made.
-/

namespace Parley

variable {definition : Definition} {σ : Type}

/-- The call that each protocol makes of what its sends carry. What a machine tells itself makes
none, and where nothing is asked nothing is answered. -/
inductive Protocol.Performs (connection : String) (question : Option Question) (content : String) :
    Protocol → Payload → Option Call → Prop where
  | basicMessage :
      Performs connection question content .basicMessage .none
        (some (.basicMessage connection content))
  | trustPing :
      Performs connection question content .trustPing .none (some (.trustPing connection))
  | issueCredential (credDefId attrs : String) :
      Performs connection question content .issueCredential (.issuing credDefId attrs)
        (some (.issueCredential connection credDefId attrs))
  | presentProof (attributes : String) :
      Performs connection question content .presentProof (.proof attributes)
        (some (.requestProof connection attributes))
  | answer (ack : Bool) :
      Performs connection question content .answer (.answer ack)
        (question.map fun asked => .answer asked.id ack content)
  | hook (data : TextMap String) :
      Performs connection question content .hook (.hook data) (some (.hook connection data content))
  | backend (subject : String) :
      Performs connection question content .backend (.backend subject)
        (some (.backend connection subject content))
  | email (recipient source subject : String) :
      Performs connection question content .email (.email recipient source subject)
        (some (.email recipient source subject content))
  | transient : Performs connection question content .transient .none none

namespace Send

def Agrees (connection : String) (question : Option Question) (send : Send) : Prop :=
  send.protocol.Performs connection question send.content send.payload
    (send.callOn connection question)

variable {send : Send} {connection : String} {question : Option Question}

theorem Agrees.isAnswer (agrees : send.Agrees connection question) :
    send.isAnswer = decide (send.protocol = .answer) := by
  unfold Agrees at agrees
  generalize send.callOn connection question = call? at agrees
  obtain ⟨protocol, typeId, content, payload, wantStatus⟩ := send
  cases agrees <;> rfl

theorem any_isAnswer_of_agrees {sends : List Send}
    (agrees : ∀ send ∈ sends, send.Agrees connection question) :
    sends.any isAnswer = sends.any fun send => send.protocol = .answer := by
  induction sends with
  | nil => rfl
  | cons send rest ih =>
    obtain ⟨first, others⟩ := List.forall_mem_cons.mp agrees
    rw [List.any_cons, List.any_cons, first.isAnswer, ih others]

theorem told_eq (send : Send) :
    send.told = ([send].filter fun send => send.protocol = .transient).map Send.content := by
  unfold told
  by_cases own : send.protocol = .transient <;> simp [own]

end Send

theorem flatMap_told (sends : List Send) :
    sends.flatMap Send.told =
      (sends.filter fun send => send.protocol = .transient).map Send.content := by
  induction sends with
  | nil => rfl
  | cons send rest ih =>
    rw [List.flatMap_cons, ih, Send.told_eq, ← List.map_append, ← List.filter_append,
      List.singleton_append]

theorem Event.send_agrees {event : Event} {memory : Registers} {payload : Payload}
    (carried : event.payload memory = .ok payload) (content connection : String)
    (question : Option Question) :
    (event.send content payload).Agrees connection question := by
  have mapped {α : Type} {result : Except Fault α} {make : α → Payload}
      (done : result.map make = .ok payload) : ∃ value, make value = payload := by
    cases result with
    | error fault => cases done
    | ok value => exact ⟨value, Except.ok.inj done⟩
  unfold Event.payload at carried
  unfold Send.Agrees Send.callOn Send.call? Event.send
  split at carried
  case h_1 protocol => cases carried; rw [protocol]; exact .basicMessage
  case h_2 protocol => cases carried; rw [protocol]; exact .trustPing
  case h_3 protocol => cases carried; rw [protocol]; exact .transient
  case h_4 protocol _ =>
    obtain ⟨attrs, rfl⟩ := mapped carried
    rw [protocol]
    exact .issueCredential _ attrs
  case h_6 protocol _ =>
    obtain ⟨attributes, rfl⟩ := mapped carried
    rw [protocol]
    exact .presentProof attributes
  case h_8 ack protocol _ =>
    cases carried
    rw [protocol]
    cases question <;> exact .answer ack
  case h_9 protocol _ =>
    cases carried
    rw [protocol]
    cases question <;> exact .answer true
  case h_10 protocol _ =>
    obtain ⟨values, rfl⟩ := mapped carried
    rw [protocol]
    exact .hook _
  case h_11 protocol _ => cases carried; rw [protocol]; exact .hook .empty
  case h_12 protocol =>
    rw [protocol]
    split at carried <;> cases carried <;> exact .backend _
  case h_13 protocol _ =>
    split at carried
    next => cases carried
    next recipient _ =>
      obtain ⟨subject, rfl⟩ := mapped carried
      rw [protocol]
      exact .email recipient _ subject
  all_goals cases carried

theorem Event.build_agrees [Evaluator σ] {event : Event} {input : String} {store : Store σ}
    {send : Send} (done : (event.build input store).1 = .ok (some send)) (connection : String)
    (question : Option Question) : send.Agrees connection question := by
  unfold build at done
  split at done
  next => cases done
  next => cases done
  next content after _ =>
    cases carried : event.payload after.memory with
    | error fault => simp [carried, Except.map] at done
    | ok payload =>
      simp only [carried, Except.map, Except.ok.injEq, Option.some.injEq] at done
      exact done ▸ send_agrees carried content connection question

theorem buildAll_agrees [Evaluator σ] {events : List Event} {input : String} {store : Store σ}
    {sends : List Send} (done : (buildAll events input store).1 = .ok sends) (connection : String)
    (question : Option Question) : ∀ send ∈ sends, send.Agrees connection question := by
  induction events generalizing store sends with
  | nil => cases done; simp
  | cons event rest ih =>
    rw [buildAll] at done
    split at done
    next => cases done
    next built after first =>
      split at done
      next => cases done
      next others _ later =>
        cases done
        intro send member
        rcases List.mem_append.mp member with own | other
        · rw [Option.mem_toList.mp own] at first
          exact Event.build_agrees (congrArg Prod.fst first) connection question
        · exact ih (congrArg Prod.fst later) send other

namespace Client

variable {client : Client} {connection : String} {question : Option Question}
  {attempts : List Attempt} {send : Send} {sends : List Send} {position : Nat}

def RefusesAt (client : Client) (connection : String) (question : Option Question)
    (attempts : List Attempt) (sends : List Send) (position : Nat) : Prop :=
  ∃ send call, sends[position]? = some send ∧ send.callOn connection question = some call ∧
    (client.refuses (withAccepted connection attempts
      (callsOf connection question (sends.take position))) call).isSome = true

/-- The position of the first send whose call is refused, or the end of the list. -/
structure StopsAt (client : Client) (connection : String) (question : Option Question)
    (attempts : List Attempt) (sends : List Send) (position : Nat) : Prop where
  le : position ≤ sends.length
  before : ∀ earlier < position,
    ¬client.RefusesAt connection question attempts sends earlier
  refuses : position < sends.length →
    client.RefusesAt connection question attempts sends position

theorem refusesAt_zero : client.RefusesAt connection question attempts (send :: sends) 0 ↔
    ∃ call, send.callOn connection question = some call ∧
      (client.refuses attempts call).isSome = true := by
  constructor
  · rintro ⟨_, call, ⟨⟩, called, refused⟩
    exact ⟨call, called, refused⟩
  · rintro ⟨call, called, refused⟩
    exact ⟨send, call, rfl, called, refused⟩

theorem refusesAt_succ : client.RefusesAt connection question attempts (send :: sends)
      (position + 1) ↔
    client.RefusesAt connection question
      (withAccepted connection attempts (callsOf connection question [send])) sends position := by
  unfold RefusesAt
  rw [List.take_succ_cons, Session.callsOf_cons, withAccepted_append, List.getElem?_cons_succ]

theorem StopsAt.tail (stops : client.StopsAt connection question attempts (send :: sends)
      (position + 1)) :
    client.StopsAt connection question
      (withAccepted connection attempts (callsOf connection question [send])) sends position where
  le := Nat.le_of_succ_le_succ stops.le
  before earlier less := by
    rw [← refusesAt_succ]
    exact stops.before (earlier + 1) (Nat.succ_lt_succ less)
  refuses less := refusesAt_succ.mp (stops.refuses (Nat.succ_lt_succ less))

theorem exists_stopsAt (client : Client) (connection : String) (question : Option Question)
    (attempts : List Attempt) (sends : List Send) :
    ∃ position, client.StopsAt connection question attempts sends position := by
  induction sends generalizing attempts with
  | nil =>
    exact ⟨0, Nat.le_refl 0, fun _ less => absurd less (Nat.not_lt_zero _),
      fun less => absurd less (Nat.lt_irrefl 0)⟩
  | cons send rest ih =>
    by_cases here : client.RefusesAt connection question attempts (send :: rest) 0
    · exact ⟨0, Nat.zero_le _, fun _ less => absurd less (Nat.not_lt_zero _), fun _ => here⟩
    · obtain ⟨position, stops⟩ :=
        ih (withAccepted connection attempts (callsOf connection question [send]))
      refine ⟨position + 1, Nat.succ_le_succ stops.le, ?_, ?_⟩
      · intro earlier less
        cases earlier with
        | zero => exact here
        | succ earlier =>
          rw [refusesAt_succ]
          exact stops.before earlier (Nat.lt_of_succ_lt_succ less)
      · intro less
        rw [refusesAt_succ]
        exact stops.refuses (Nat.lt_of_succ_lt_succ less)

theorem StopsAt.unique {other : Nat}
    (stops : client.StopsAt connection question attempts sends position)
    (others : client.StopsAt connection question attempts sends other) : position = other := by
  have bound := stops.le
  have limit := others.le
  rcases Nat.lt_trichotomy position other with less | same | more
  · exact absurd (stops.refuses (by omega)) (others.before position less)
  · exact same
  · exact absurd (others.refuses (by omega)) (stops.before other more)

theorem StopsAt.letsOut (stops : client.StopsAt connection question attempts sends position) :
    client.letsOut connection question attempts sends = sends.take position := by
  induction sends generalizing attempts position with
  | nil => simp [Client.letsOut]
  | cons send rest ih =>
    cases position with
    | zero =>
      obtain ⟨call, called, refused⟩ := refusesAt_zero.mp (stops.refuses (Nat.succ_pos _))
      have refuses : (client.refuses attempts call).isNone = false := by
        simpa [Option.isSome_iff_ne_none] using refused
      rw [Client.letsOut, called]
      simp only [refuses, Bool.false_eq_true, if_false, List.take_zero]
    | succ position =>
      have later := ih stops.tail
      have accepts := stops.before 0 (Nat.succ_pos _)
      rw [refusesAt_zero] at accepts
      rw [Client.letsOut, List.take_succ_cons]
      cases called : send.callOn connection question with
      | none =>
        have silent : withAccepted connection attempts (callsOf connection question [send]) =
            attempts := by
          simp [callsOf, called, withAccepted]
        rw [silent] at later
        simp only [later]
      | some call =>
        have taken : client.refuses attempts call = none := by
          by_contra refused
          exact accepts ⟨call, called, Option.isSome_iff_ne_none.mpr refused⟩
        have noted : withAccepted connection attempts (callsOf connection question [send]) =
            ⟨connection, call, none⟩ :: attempts := by
          simp [callsOf, called, withAccepted]
        rw [noted] at later
        simp only [taken, Option.isNone_none, if_true, later]

theorem acceptsAll_of_not_refusesAt
    (accepts : ¬client.RefusesAt connection question attempts (send :: sends) 0) :
    client.acceptsAll connection attempts (callsOf connection question [send]) = true := by
  rw [refusesAt_zero] at accepts
  cases called : send.callOn connection question with
  | none => simp [callsOf, called, acceptsAll]
  | some call =>
    have taken : client.refuses attempts call = none := by
      by_contra refused
      exact accepts ⟨call, called, Option.isSome_iff_ne_none.mpr refused⟩
    simp [callsOf, called, acceptsAll, taken]

theorem stopsAt_length (client : Client) (connection : String) (question : Option Question)
    (attempts : List Attempt) (sends : List Send) :
    client.StopsAt connection question attempts sends
      (client.letsOut connection question attempts sends).length := by
  obtain ⟨position, stops⟩ := client.exists_stopsAt connection question attempts sends
  rw [stops.letsOut, List.length_take, Nat.min_eq_left stops.le]
  exact stops

/-- What has been tried when it stops there: the calls before have been accepted, and that of the
send at the position, if there is one, has not. -/
def triedUpTo (client : Client) (connection : String) (question : Option Question)
    (attempts : List Attempt) (sends : List Send) (position : Nat) : List Attempt :=
  let accepted :=
    withAccepted connection attempts (callsOf connection question (sends.take position))
  match sends[position]?.bind (Send.callOn connection question) with
  | some call => ⟨connection, call, client.refuses accepted call⟩ :: accepted
  | none => accepted

theorem triedUpTo_succ : client.triedUpTo connection question attempts (send :: sends)
      (position + 1) =
    client.triedUpTo connection question
      (withAccepted connection attempts (callsOf connection question [send])) sends position := by
  unfold triedUpTo
  rw [List.take_succ_cons, Session.callsOf_cons, withAccepted_append, List.getElem?_cons_succ]

end Client

theorem acceptedCalls_append (later earlier : List Attempt) :
    acceptedCalls (later ++ earlier) = acceptedCalls earlier ++ acceptedCalls later := by
  simp [acceptedCalls]

theorem acceptedCalls_refused {attempts : List Attempt}
    (refusals : ∀ attempt ∈ attempts, attempt.refusal.isSome = true) :
    acceptedCalls attempts = [] := by
  have none : attempts.reverse.filter (fun attempt => attempt.refusal.isNone) = [] := by
    apply List.filter_eq_nil_iff.mpr
    intro attempt member
    have refused := refusals attempt (List.mem_reverse.mp member)
    simpa [Option.isSome_iff_ne_none] using refused
  rw [acceptedCalls, none, List.map_nil]

theorem acceptedCalls_withAccepted (connection : String) (attempts : List Attempt)
    (calls : List Call) :
    acceptedCalls (withAccepted connection attempts calls) = acceptedCalls attempts ++ calls := by
  rw [withAccepted, acceptedCalls_append]
  simp [acceptedCalls, List.filter_map, Function.comp_def]

namespace Session

theorem dispatchAll_attempts {client : Client} {question : Option Question} {sends : List Send}
    {session : Session definition σ} {position : Nat}
    (stops : client.StopsAt session.connection question session.ledger.attempts sends position) :
    (dispatchAll client question sends session).session.ledger.attempts =
      client.triedUpTo session.connection question session.ledger.attempts sends position := by
  induction sends generalizing session position with
  | nil => simp [dispatchAll, Client.triedUpTo, callsOf, withAccepted]
  | cons send rest ih =>
    cases position with
    | zero =>
      obtain ⟨call, called, refused⟩ :=
        Client.refusesAt_zero.mp (stops.refuses (Nat.succ_pos _))
      have tried := call_attempts client call session
      have refuses : (session.call client call).1 = false := by
        rw [call_accepts]
        simpa [Option.isSome_iff_ne_none] using refused
      rw [dispatchAll, dispatchOne_eq, called]
      dsimp only
      generalize session.call client call = outcome at tried refuses
      obtain ⟨accepted, after⟩ := outcome
      cases refuses
      simpa [Client.triedUpTo, called, callsOf, withAccepted] using tried
    | succ position =>
      have accepts := Client.acceptsAll_of_not_refusesAt (stops.before 0 (Nat.succ_pos _))
      have first := dispatchOne_accepted accepts
      have sent := dispatchOne_sent client question send session
      rw [dispatchAll]
      split
      next stopped => rw [stopped] at first; exact absurd first.complete (by simp)
      next answered after went =>
        rw [went] at first sent
        have connection : after.connection = session.connection := sent.connection
        have attempts : after.ledger.attempts = withAccepted session.connection
          session.ledger.attempts (callsOf session.connection question [send]) := first.attempts
        have later : client.StopsAt after.connection question after.ledger.attempts rest position := by
          rw [connection, attempts]
          exact stops.tail
        rw [Client.triedUpTo_succ, ← attempts, ← connection]
        exact ih later

structure WentOut (client : Client) (question : Option Question) (sends : List Send) (count : Nat)
    (before : Session definition σ) (result : Dispatch definition σ) : Prop where
  complete : result.complete = decide (count = sends.length)
  answered : result.answered =
    (question.isSome && (sends.take count).any fun send => send.protocol = .answer)
  recorded : acceptedCalls result.session.ledger.attempts =
    acceptedCalls before.ledger.attempts ++
      (sends.take count).filterMap (Send.callOn before.connection question)
  attempts : result.session.ledger.attempts =
    client.triedUpTo before.connection question before.ledger.attempts sends count
  conversation : result.session.conversation =
    { before.conversation with
      queue := before.queue ++
        ((sends.take count).filter fun send => send.protocol = .transient).map Send.content }
  counters : result.session.ledger.counters =
    { before.ledger.counters with
      sends := before.ledger.counters.sends + count
      sendErrors := before.ledger.counters.sendErrors + if count < sends.length then 1 else 0 }

/-- Sends that have been built come to the calls of their protocols. They go out up to the first one
whose call is refused, and nothing else comes of them than of those that go out, but for the one
refusal. -/
theorem sends_stop_at_first_refusal {τ : Type} [Evaluator τ] {events : List Event} {input : String}
    {store : Store τ} {sends : List Send} (built : (buildAll events input store).1 = .ok sends)
    (client : Client) (question : Option Question) (before : Session definition σ) :
    (∀ send ∈ sends, send.protocol.Performs before.connection question send.content send.payload
        (send.callOn before.connection question)) ∧
      (∃! count, client.StopsAt before.connection question before.ledger.attempts sends count) ∧
      ∀ count, client.StopsAt before.connection question before.ledger.attempts sends count →
        WentOut client question sends count before (dispatchAll client question sends before) := by
  have agrees := buildAll_agrees built before.connection question
  refine ⟨agrees, ?_, fun count stops => ?_⟩
  · have stops := client.stopsAt_length before.connection question before.ledger.attempts sends
    exact ⟨_, stops, fun other others => others.unique stops⟩
  · obtain ⟨refused, went⟩ := dispatchAll_dispatched client question sends before
    rw [stops.letsOut] at went
    have all : count = sends.length ↔ sends.take count = sends := by
      constructor
      · rintro rfl
        exact List.take_length
      · intro same
        have lengths := congrArg List.length same
        rw [List.length_take, Nat.min_eq_left stops.le] at lengths
        exact lengths
    have complete : (dispatchAll client question sends before).complete =
        decide (count = sends.length) := by
      rw [went.complete, decide_eq_decide]
      exact all.symm
    have stopped := went.stopped
    rw [complete] at stopped
    have answers : (sends.take count).any Send.isAnswer =
        (sends.take count).any fun send => send.protocol = .answer :=
      Send.any_isAnswer_of_agrees fun send member => agrees send (List.mem_of_mem_take member)
    refine ⟨complete, ?_, ?_, dispatchAll_attempts stops, ?_, ?_⟩
    · rw [went.answered, answers]
    · rw [went.attempts, acceptedCalls_append, acceptedCalls_refused went.refusals, List.append_nil,
        acceptedCalls_withAccepted]
      rfl
    · rw [went.conversation, flatMap_told]
    · rw [went.counters, stopped, List.length_take, Nat.min_eq_left stops.le]
      have bound := stops.le
      by_cases whole : count = sends.length
      · simp [whole]
      · have short : count < sends.length := by omega
        simp [whole, short]

/-- What a messenger has to do: it says yes, with a word to itself before and a report after. -/
def errands : List Event :=
  [⟨.transient, .data, none, "next", none, true⟩, ⟨.answer, .data, none, "yes", none, true⟩,
    ⟨.backend, .input, some "report", "", none, true⟩,
    ⟨.basicMessage, .data, none, "done", none, true⟩]

def errandSends (told : String) : List Send :=
  [⟨.transient, none, "next", .none, true⟩, ⟨.answer, none, "yes", .answer true, true⟩,
    ⟨.backend, some "report", told, .backend "report", true⟩,
    ⟨.basicMessage, none, "done", .none, true⟩]

/-- A messenger whose report is refused has said yes already, and does not say that it is done. -/
theorem refused_report_stops_messenger :
    let client := Client.refusing fun call => call.kind = "backend"
    let question : Question := ⟨"q", "c", []⟩
    (buildAll errands "all is well" atDesk.machine.store).1 = .ok (errandSends "all is well") ∧
      client.StopsAt "c" (some question) [] (errandSends "all is well") 2 ∧
      WentOut client (some question) (errandSends "all is well") 2 atDesk
        (dispatchAll client (some question) (errandSends "all is well") atDesk) := by
  intro client question
  have built : (buildAll errands "all is well" atDesk.machine.store).1 =
      .ok (errandSends "all is well") := rfl
  have stops : client.StopsAt "c" (some question) [] (errandSends "all is well") 2 :=
    client.stopsAt_length "c" (some question) [] (errandSends "all is well")
  obtain ⟨_, _, ends⟩ := sends_stop_at_first_refusal built client (some question) atDesk
  exact ⟨built, stops, ends 2 stops⟩

end Session

end Parley
