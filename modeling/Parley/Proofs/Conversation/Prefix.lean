import Parley.Proofs.Conversation.Dispatch
/-!
How far a list of sends gets when a call may be refused.

A list of sends goes out up to the first one whose call the client refuses. Everything that comes of
it is said by this prefix: the calls, what is queued, the counters, and whether a question has been
answered. What is done then to the transition that the sends belong to is told apart from the
sending.
-/

namespace Parley

variable {definition : Definition} {σ : Type}

def Client.letsOut (client : Client) (connection : String) (question : Option Question) :
    List Attempt → List Send → List Send
  | _, [] => []
  | attempts, send :: rest =>
    match send.callOn connection question with
    | none => send :: client.letsOut connection question attempts rest
    | some call =>
      if (client.refuses attempts call).isNone then
        send :: client.letsOut connection question (⟨connection, call, none⟩ :: attempts) rest
      else []

theorem Client.letsOut_prefix (client : Client) (connection : String) (question : Option Question)
    (attempts : List Attempt) (sends : List Send) :
    client.letsOut connection question attempts sends <+: sends := by
  induction sends generalizing attempts with
  | nil => exact List.prefix_rfl
  | cons send rest ih =>
    rw [letsOut]
    split
    next => exact List.cons_prefix_cons.mpr ⟨rfl, ih _⟩
    next =>
      split
      next => exact List.cons_prefix_cons.mpr ⟨rfl, ih _⟩
      next => exact List.nil_prefix

namespace Session

theorem call_attempts (client : Client) (call : Call) (session : Session definition σ) :
    (session.call client call).2.ledger.attempts =
      ⟨session.connection, call, client.refuses session.ledger.attempts call⟩ ::
        session.ledger.attempts := by
  unfold Session.call Ledger.call
  dsimp only
  split <;> rfl

theorem call_accepts (client : Client) (call : Call) (session : Session definition σ) :
    (session.call client call).1 = (client.refuses session.ledger.attempts call).isNone := by
  unfold Session.call Ledger.call
  dsimp only
  split <;> simp [*]

theorem call_conversation (client : Client) (call : Call) (session : Session definition σ) :
    (session.call client call).2.conversation = session.conversation := rfl

/-- What has come of a list of sends of which some went out: their calls are accepted, what they
tell the machine itself is queued, and at most one more call was tried, which was refused. -/
structure Dispatched (question : Option Question) (sends out : List Send)
    (before : Session definition σ) (result : Dispatch definition σ) (refused : List Attempt) :
    Prop where
  complete : result.complete = decide (out = sends)
  answered : result.answered = (question.isSome && out.any Send.isAnswer)
  conversation : result.session.conversation =
    { before.conversation with queue := before.queue ++ out.flatMap Send.told }
  attempts : result.session.ledger.attempts =
    refused ++ withAccepted before.connection before.ledger.attempts
      (callsOf before.connection question out)
  counters : result.session.ledger.counters =
    { before.ledger.counters with
      sends := before.ledger.counters.sends + out.length
      sendErrors := before.ledger.counters.sendErrors + refused.length }
  refusals : ∀ attempt ∈ refused, attempt.refusal.isSome = true
  stopped : refused.length = if result.complete then 0 else 1

theorem Dispatched.cons {question : Option Question} {send : Send} {rest out : List Send}
    {before next : Session definition σ} {later : Dispatch definition σ} {refused : List Attempt}
    (went : Dispatched question rest out next later refused)
    (conversation : next.conversation =
      { before.conversation with queue := before.queue ++ send.told })
    (attempts : next.ledger.attempts =
      withAccepted before.connection before.ledger.attempts
        (callsOf before.connection question [send]))
    (counters : next.ledger.counters =
      { before.ledger.counters with sends := before.ledger.counters.sends + 1 }) :
    Dispatched question (send :: rest) (send :: out) before
      { later with answered := (question.isSome && send.isAnswer) || later.answered } refused := by
  have connection : next.connection = before.connection :=
    (congrArg Conversation.connection conversation :)
  have queue : next.queue = before.queue ++ send.told :=
    (congrArg Conversation.queue conversation :)
  refine ⟨?_, ?_, ?_, ?_, ?_, went.refusals, went.stopped⟩
  · rw [went.complete]
    simp
  · simp only [went.answered, List.any_cons, Bool.and_or_distrib_left]
  · rw [went.conversation, queue, conversation]
    simp
  · rw [went.attempts, connection, attempts, callsOf_cons _ _ send out, withAccepted_append]
  · rw [went.counters, counters]
    simp only [List.length_cons, Nat.add_comm, Nat.add_left_comm]

theorem dispatchAll_dispatched (client : Client) (question : Option Question) (sends : List Send)
    (session : Session definition σ) :
    ∃ refused, Dispatched question sends
      (client.letsOut session.connection question session.ledger.attempts sends) session
      (dispatchAll client question sends session) refused := by
  induction sends generalizing session with
  | nil =>
    refine ⟨[], rfl, by simp [dispatchAll, Client.letsOut], ?_, rfl, rfl, by simp, rfl⟩
    simp [dispatchAll, Client.letsOut, queue]
  | cons send rest ih =>
    rw [Client.letsOut, dispatchAll, dispatchOne_eq]
    cases called : send.callOn session.connection question with
    | none =>
      have silent := Send.isAnswer_of_callOn_none called
      obtain ⟨refused, went⟩ :=
        ih ((session.withQueue (session.queue ++ send.told)).note .noteSend)
      have first : Dispatched question (send :: rest) (send :: _) session _ refused :=
        went.cons rfl (by simp [callsOf, called, withAccepted, note, withQueue, Ledger.noteSend])
          rfl
      rw [silent] at first
      exact ⟨refused, first⟩
    | some call =>
      dsimp only
      cases accepts : (client.refuses session.ledger.attempts call).isNone with
      | true =>
        rw [if_pos rfl, call_accepted accepts]
        obtain ⟨refused, went⟩ := ih (((session.note fun ledger =>
          { ledger with attempts := ⟨session.connection, call, none⟩ :: ledger.attempts }).withQueue
            (session.queue ++ send.told)).note .noteSend)
        refine ⟨refused, went.cons rfl ?_ rfl⟩
        simp [callsOf, called, withAccepted, note, withQueue, Ledger.noteSend]
      | false =>
        have stays : client.refuses session.ledger.attempts call ≠ none := by
          intro none
          simp [none] at accepts
        rw [if_neg Bool.false_ne_true]
        refine ⟨[⟨session.connection, call, client.refuses session.ledger.attempts call⟩], ?_⟩
        simp only [Session.call, Ledger.call, accepts, Bool.false_eq_true, if_false]
        refine ⟨by simp, by simp, by simp [queue], rfl, by simp [Ledger.noteSendError], ?_, by simp⟩
        simpa [Option.isSome_iff_ne_none] using stays

def conclude (client : Client) (transition : Transition) (queued : Nat)
    (question : Option Question) (result : Dispatch definition σ) : Session definition σ :=
  let remaining := if result.answered then none else question
  if result.complete then
    match remaining with
    | none => result.session.commit transition
    | some asked =>
      match result.session.answer client asked (acknowledges transition) with
      | (true, session) => session.commit transition
      | (false, session) => session.abandon client queued none
  else result.session.abandon client queued remaining

theorem fire_of_built [Evaluator σ] {client : Client} {transition : Transition} {input : String}
    {question : Option Question} {session : Session definition σ} {sends : List Send}
    {built : Machine definition σ}
    (done : session.machine.buildSends transition input = (.ok sends, built)) :
    session.fire client transition input question =
      conclude client transition session.queue.length question
        (dispatchAll client question sends (session.withMachine built)) := by
  unfold fire
  simp only [done]
  generalize dispatchAll client question sends (session.withMachine built) = result
  obtain ⟨complete, answered, after⟩ := result
  cases complete with
  | true => rfl
  | false => rfl

end Session

end Parley
