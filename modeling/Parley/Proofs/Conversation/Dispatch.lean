import Parley.Conversation.Basic
/-!
How far a list of sends gets.

Each send comes to one call, or to none if the machine tells itself something or answers where
nothing was asked. All sends go out just when the client accepts these calls one after the other.
-/

namespace Parley

variable {definition : Definition} {σ : Type}

def Send.callOn (connection : String) (question : Option Question) (send : Send) : Option Call :=
  if send.protocol = .transient then none
  else
    match send.payload, question with
    | .answer ack, some asked => some (.answer asked.id ack send.content)
    | _, _ => send.call? connection

def Send.told (send : Send) : List String :=
  if send.protocol = .transient then [send.content] else []

def Send.isAnswer (send : Send) : Bool :=
  send.protocol ≠ .transient &&
    match send.payload with
    | .answer _ => true
    | _ => false

theorem Send.isAnswer_of_callOn_none {connection : String} {question : Option Question}
    {send : Send} (silent : send.callOn connection question = none) :
    (question.isSome && send.isAnswer) = false := by
  by_cases own : send.protocol = .transient
  · simp [isAnswer, own]
  · cases payload : send.payload <;> cases question <;>
      simp_all [callOn, isAnswer, call?]

def callsOf (connection : String) (question : Option Question) (sends : List Send) : List Call :=
  sends.filterMap (Send.callOn connection question)

def Client.acceptsAll (client : Client) (connection : String) : List Attempt → List Call → Bool
  | _, [] => true
  | attempts, call :: rest =>
    (client.refuses attempts call).isNone &&
      client.acceptsAll connection (⟨connection, call, none⟩ :: attempts) rest

def withAccepted (connection : String) (attempts : List Attempt) (calls : List Call) :
    List Attempt :=
  (calls.map fun call => ⟨connection, call, none⟩).reverse ++ attempts

theorem withAccepted_cons (connection : String) (attempts : List Attempt) (call : Call)
    (rest : List Call) :
    withAccepted connection attempts (call :: rest) =
      withAccepted connection (⟨connection, call, none⟩ :: attempts) rest := by
  simp [withAccepted]

theorem withAccepted_append (connection : String) (attempts : List Attempt)
    (calls others : List Call) :
    withAccepted connection attempts (calls ++ others) =
      withAccepted connection (withAccepted connection attempts calls) others := by
  simp [withAccepted]

theorem Client.acceptsAll_append (client : Client) (connection : String) (attempts : List Attempt)
    (calls others : List Call) :
    client.acceptsAll connection attempts (calls ++ others) =
      (client.acceptsAll connection attempts calls &&
        client.acceptsAll connection (withAccepted connection attempts calls) others) := by
  induction calls generalizing attempts with
  | nil => simp [acceptsAll, withAccepted]
  | cons call rest ih =>
    rw [List.cons_append, acceptsAll, acceptsAll, ih, withAccepted_cons, Bool.and_assoc]

namespace Session

theorem call_accepted {client : Client} {call : Call} {session : Session definition σ}
    (accepts : (client.refuses session.ledger.attempts call).isNone = true) :
    session.call client call =
      (true,
        session.note fun ledger =>
          { ledger with attempts := ⟨session.connection, call, none⟩ :: ledger.attempts }) := by
  have none : client.refuses session.ledger.attempts call = none := by simpa using accepts
  simp [Session.call, Ledger.call, none, note]

theorem call_refused {client : Client} {call : Call} {session : Session definition σ}
    (refuses : (client.refuses session.ledger.attempts call).isNone = false) :
    ∃ ledger, session.call client call = (false, { session with ledger }) := by
  simp [Session.call, Ledger.call, refuses]

theorem withQueue_self (session : Session definition σ) :
    session.withQueue session.queue = session := rfl

/-- One send: its call decides, and what it tells the machine itself is queued. -/
theorem dispatchOne_eq (client : Client) (question : Option Question) (send : Send)
    (session : Session definition σ) :
    dispatchOne client question send session =
      match send.callOn session.connection question with
      | none => ⟨true, false, (session.withQueue (session.queue ++ send.told)).note .noteSend⟩
      | some call =>
        match session.call client call with
        | (true, session) =>
          ⟨true, question.isSome && send.isAnswer,
            (session.withQueue (session.queue ++ send.told)).note .noteSend⟩
        | (false, session) => ⟨false, false, session⟩ := by
  by_cases own : send.protocol = .transient
  · simp [dispatchOne, Send.callOn, Send.told, own]
  · have untold : send.told = [] := by simp [Send.told, own]
    simp only [dispatchOne, Send.callOn, if_neg own, untold, List.append_nil, withQueue_self]
    cases payload : send.payload with
    | answer ack =>
      have answers : send.isAnswer = true := by simp [Send.isAnswer, own, payload]
      have unasked : send.call? session.connection = none := by simp [Send.call?, payload]
      rw [answers, unasked]
      cases question <;> rfl
    | _ =>
      have other : send.isAnswer = false := by simp [Send.isAnswer, payload]
      rw [other, Bool.and_false]
      cases send.call? session.connection <;> rfl

structure Sent (before after : Session definition σ) : Prop where
  machine : after.machine = before.machine
  connection : after.connection = before.connection
  queue : before.queue <+: after.queue

theorem Sent.refl (session : Session definition σ) : Sent session session :=
  ⟨rfl, rfl, List.prefix_rfl⟩

theorem Sent.trans {first second third : Session definition σ} (earlier : Sent first second)
    (later : Sent second third) : Sent first third :=
  ⟨later.machine.trans earlier.machine, later.connection.trans earlier.connection,
    earlier.queue.trans later.queue⟩

theorem dispatchOne_sent (client : Client) (question : Option Question) (send : Send)
    (session : Session definition σ) :
    Sent session (dispatchOne client question send session).session := by
  rw [dispatchOne_eq]
  cases called : send.callOn session.connection question with
  | none => exact ⟨rfl, rfl, List.prefix_append _ _⟩
  | some call =>
    cases accepts : (client.refuses session.ledger.attempts call).isNone with
    | true => simpa only [call_accepted accepts] using ⟨rfl, rfl, List.prefix_append _ _⟩
    | false =>
      obtain ⟨ledger, refused⟩ := call_refused accepts
      simpa only [refused] using ⟨rfl, rfl, List.prefix_rfl⟩

theorem dispatchAll_sent (client : Client) (question : Option Question) (sends : List Send)
    (session : Session definition σ) :
    Sent session (dispatchAll client question sends session).session := by
  induction sends generalizing session with
  | nil => exact .refl session
  | cons send rest ih =>
    have first := dispatchOne_sent client question send session
    rw [dispatchAll]
    split
    next stopped => rw [stopped] at first; exact first
    next went => rw [went] at first; exact first.trans (ih _)

structure Delivered (question : Option Question) (sends : List Send) (before : Session definition σ)
    (result : Dispatch definition σ) : Prop where
  complete : result.complete = true
  answered : result.answered = (question.isSome && sends.any Send.isAnswer)
  queue : result.session.queue = before.queue ++ sends.flatMap Send.told
  attempts : result.session.ledger.attempts =
    withAccepted before.connection before.ledger.attempts (callsOf before.connection question sends)

theorem dispatchOne_accepted {client : Client} {question : Option Question} {send : Send}
    {session : Session definition σ}
    (accepts : client.acceptsAll session.connection session.ledger.attempts
      (callsOf session.connection question [send]) = true) :
    Delivered question [send] session (dispatchOne client question send session) := by
  rw [dispatchOne_eq]
  cases called : send.callOn session.connection question with
  | none =>
    have silent := Send.isAnswer_of_callOn_none called
    exact ⟨rfl, by simp [silent], by simp [note, withQueue, queue],
      by simp [callsOf, called, withAccepted, note, withQueue, Ledger.noteSend]⟩
  | some call =>
    have taken : (client.refuses session.ledger.attempts call).isNone = true := by
      simpa [callsOf, called, Client.acceptsAll] using accepts
    simp only [call_accepted taken]
    exact ⟨rfl, by simp, by simp [note, withQueue, queue],
      by simp [callsOf, called, withAccepted, note, withQueue, Ledger.noteSend]⟩

theorem dispatchOne_refused {client : Client} {question : Option Question} {send : Send}
    {session : Session definition σ}
    (refuses : client.acceptsAll session.connection session.ledger.attempts
      (callsOf session.connection question [send]) = false) :
    (dispatchOne client question send session).complete = false := by
  rw [dispatchOne_eq]
  cases called : send.callOn session.connection question with
  | none => simp [callsOf, called, Client.acceptsAll] at refuses
  | some call =>
    have taken : (client.refuses session.ledger.attempts call).isNone = false := by
      simpa [callsOf, called, Client.acceptsAll] using refuses
    obtain ⟨ledger, refused⟩ := call_refused taken
    simp only [refused]

theorem callsOf_cons (connection : String) (question : Option Question) (send : Send)
    (rest : List Send) :
    callsOf connection question (send :: rest) =
      callsOf connection question [send] ++ callsOf connection question rest := by
  rw [callsOf, ← List.singleton_append, List.filterMap_append]
  rfl

theorem dispatchAll_accepted {client : Client} {question : Option Question} {sends : List Send}
    {session : Session definition σ}
    (accepts : client.acceptsAll session.connection session.ledger.attempts
      (callsOf session.connection question sends) = true) :
    Delivered question sends session (dispatchAll client question sends session) := by
  induction sends generalizing session with
  | nil => exact ⟨rfl, by simp [dispatchAll], by simp [dispatchAll], rfl⟩
  | cons send rest ih =>
    rw [callsOf_cons _ _ send rest, Client.acceptsAll_append, Bool.and_eq_true] at accepts
    have first := dispatchOne_accepted accepts.1
    have sent := dispatchOne_sent client question send session
    rw [dispatchAll]
    split
    next stopped => rw [stopped] at first; exact absurd first.complete (by simp)
    next answered after went =>
      rw [went] at first sent
      have later : Delivered question rest after (dispatchAll client question rest after) :=
        ih (by rw [sent.connection, first.attempts]; exact accepts.2)
      refine ⟨later.complete, ?_, ?_, ?_⟩
      · have answer : answered = (question.isSome && [send].any Send.isAnswer) := first.answered
        show (answered || (dispatchAll client question rest after).answered) = _
        rw [answer, later.answered, List.any_cons, List.any_nil, Bool.or_false, List.any_cons,
          Bool.and_or_distrib_left]
      · rw [later.queue, first.queue]
        simp
      · rw [later.attempts, first.attempts, sent.connection,
          callsOf_cons session.connection question send rest, withAccepted_append]

theorem dispatchAll_refused {client : Client} {question : Option Question} {sends : List Send}
    {session : Session definition σ}
    (refuses : client.acceptsAll session.connection session.ledger.attempts
      (callsOf session.connection question sends) = false) :
    (dispatchAll client question sends session).complete = false := by
  induction sends generalizing session with
  | nil => cases refuses
  | cons send rest ih =>
    rw [callsOf_cons _ _ send rest, Client.acceptsAll_append] at refuses
    rw [dispatchAll]
    split
    next stopped => rfl
    next answered after went =>
      cases here : client.acceptsAll session.connection session.ledger.attempts
          (callsOf session.connection question [send]) with
      | false => simpa [went] using dispatchOne_refused here
      | true =>
        have first := dispatchOne_accepted here
        have sent := dispatchOne_sent client question send session
        rw [went] at first sent
        rw [here, Bool.true_and] at refuses
        exact ih (by rw [sent.connection, first.attempts]; exact refuses)

end Session
end Parley
