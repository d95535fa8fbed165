import Parley.Lua.Evaluator
import Parley.Proofs.Conversation.Course
/-!
The end of a conversation.

The machine may get to a terminal state in any turn of a round. That turn is the last one: what it
has queued is dropped, what waits in the channels is not taken, and a transition that leads out of
the terminal state is never looked for.
-/

namespace Parley

variable {definition : Definition} {σ : Type}

namespace Session

theorem isFinished_of_terminal {session : Session definition σ}
    (terminal : session.machine.state.terminal = true) : session.isFinished = true := by
  rw [isFinished, Conversation.isFinished]
  exact Bool.or_eq_true_iff.mpr (.inr terminal)

variable [Evaluator σ]

theorem start_state (client : Client) (session : Session definition σ) :
    (session.start client).machine.state = session.machine.state := by
  have place : Machine.SamePlace session.machine session.machine.start.2 := ⟨rfl, rfl, rfl⟩
  unfold start
  split
  next result =>
    rw [result] at place
    exact congrArg definition.states.get place.current
  next sends machine result =>
    rw [result] at place
    have sent := dispatchAll_sent client none sends (session.withMachine machine)
    rw [sent.machine]
    exact congrArg definition.states.get place.current

theorem reach_concat (session : Session definition σ) (prior : List (Turn definition σ))
    (turn : Turn definition σ) : session.reach (prior ++ [turn]) = turn.after := by
  simp [reach]

end Session

variable [Evaluator σ]

namespace Round

theorem feeds_after {round : Round definition σ} {prior rest : List (Turn definition σ)}
    {turn : Turn definition σ} (parts : round.turns = prior ++ turn :: rest) :
    ∃ limit, Session.Feeds round.client limit turn.after rest := by
  have later {session : Session definition σ} {before : List (Turn definition σ)}
      (told : session.hops round.client = before ++ turn :: rest) :
      ∃ limit, Session.Feeds round.client limit turn.after rest := by
    have fed := (session.hops_feeds round.client).suffix
      (told.trans (List.append_cons before turn rest))
    rw [Session.reach_concat] at fed
    exact ⟨_, fed⟩
  unfold turns opened at parts
  cases found : round.first? with
  | none =>
    rw [found] at parts
    exact later parts
  | some first =>
    rw [found] at parts
    cases prior with
    | nil =>
      obtain ⟨rfl, others⟩ := List.cons.inj parts
      have told : first.after.hops round.client = rest := others
      exact ⟨_, told ▸ first.after.hops_feeds round.client⟩
    | cons other prior => exact later (List.cons.inj parts).2

/-- A turn after which the machine has ended is the last of its round. -/
theorem final_of_finished {round : Round definition σ} {prior rest : List (Turn definition σ)}
    {turn : Turn definition σ} (parts : round.turns = prior ++ turn :: rest)
    (ended : turn.after.isFinished = true) :
    rest = [] ∧ round.final = turn.after.withQueue [] := by
  obtain ⟨_, fed⟩ := feeds_after parts
  obtain rfl := fed.eq_nil_of_finished ended
  refine ⟨rfl, ?_⟩
  rw [final_eq, parts, Session.reach_concat]

end Round

namespace Course

variable {origin : Conversation definition σ} {task : Task definition σ}
  {rounds : List (Round definition σ)}

/-- A round after which the machine has ended is the last one, and the task has ended with it. -/
theorem ends_of_finished (course : Course origin task rounds)
    {earlier later : List (Round definition σ)} {round : Round definition σ}
    (parts : rounds = earlier ++ round :: later) (ended : round.final.isFinished = true) :
    later = [] ∧ task.conversation = round.final.conversation ∧ task.isLive = false := by
  have sound := course.sound
  have last : later = [] := by
    cases later with
    | nil => rfl
    | cons next more =>
      have running := (sound.inTurn (earlier ++ [round]) next more (by simp [parts])).2.2 (by simp)
      rw [standing_append] at running
      cases running.symm.trans ended
  subst last
  have stands : task.conversation = round.final.conversation := by
    rw [sound.standing, parts, standing_append]
  refine ⟨rfl, stands, Bool.eq_false_iff.mpr fun live => ?_⟩
  have running := sound.running live (by simp [parts])
  rw [stands] at running
  cases running.symm.trans ended

theorem ends_of_terminal (course : Course origin task rounds)
    {earlier later : List (Round definition σ)} {round : Round definition σ}
    {prior rest : List (Turn definition σ)} {turn : Turn definition σ}
    (parts : rounds = earlier ++ round :: later) (turns : round.turns = prior ++ turn :: rest)
    (terminal : turn.after.machine.state.terminal = true) :
    rest = [] ∧ later = [] ∧ round.final = turn.after.withQueue [] ∧
      task.conversation = round.final.conversation ∧ task.isLive = false := by
  have ended := Session.isFinished_of_terminal terminal
  obtain ⟨last, final⟩ := Round.final_of_finished turns ended
  obtain ⟨alone, stands, gone⟩ := course.ends_of_finished parts (by rw [final]; exact ended)
  exact ⟨last, alone, final, stands, gone⟩

theorem only_reports (gone : task.isLive = false) {client : Client} {isCancelled : Bool}
    {move : Task.Move} {ledger : Ledger} {result : Task definition σ × Ledger}
    (advanced : task.advance? client isCancelled move ledger = some result) :
    result = ({ task with phase := .reported }, ledger) := by
  cases Task.step_of_advance? advanced with
  | report _ => rfl
  | begin phase | takeNotification phase _ | takeHook phase _ | handle phase
  | noticeClosed phase _ _ | noticeCancelled phase _ =>
    rw [Task.isLive, phase] at gone
    cases gone

/-- Once the machine has got to a terminal state the conversation is at its end: there is no turn
after that and no round, nothing is written down any more, and machine and memory stay as they are.
If it is in a terminal state from the beginning, it says what it has to say and ends. -/
theorem nothing_after_the_end (course : Course origin task rounds) :
    (∀ earlier round later prior turn rest, rounds = earlier ++ round :: later →
        round.turns = prior ++ turn :: rest → turn.after.machine.state.terminal = true →
          rest = [] ∧ later = [] ∧ round.final = turn.after.withQueue [] ∧
            task.conversation = round.final.conversation ∧ task.isLive = false) ∧
      (task.isLive = false → ∀ client isCancelled move ledger result,
        task.advance? client isCancelled move ledger = some result →
          result = ({ task with phase := .reported }, ledger)) ∧
      (origin.machine.state.terminal = true → ∀ round ∈ rounds,
        rounds = [round] ∧ round.session.conversation = origin ∧
          round.turns = [⟨round.client, .start, round.session⟩] ∧
          round.final = (round.session.start round.client).withQueue []) := by
  refine ⟨fun _ _ _ _ _ _ => course.ends_of_terminal,
    fun gone _ _ _ _ _ advanced => only_reports gone advanced, ?_⟩
  intro terminal round member
  cases rounds with
  | nil => cases member
  | cons first others =>
    obtain ⟨starts, opening, _⟩ := course.sound.inTurn [] first others rfl
    -- The first round is the beginning, and a beginning leaves the machine in its state.
    have opens : first.opening = none := opening.mpr rfl
    have turns : first.turns = [] ++ ⟨first.client, .start, first.session⟩ ::
        first.opened.hops first.client := by
      rw [Round.turns, Round.first?, opens]
      rfl
    have stays : (first.session.start first.client).machine.state.terminal = true := by
      have same : first.session.machine = origin.machine := congrArg Conversation.machine starts
      rw [Session.start_state, same]
      exact terminal
    obtain ⟨last, alone, final, _⟩ := course.ends_of_terminal (List.nil_append _).symm turns stays
    subst alone
    obtain rfl := List.mem_singleton.mp member
    exact ⟨rfl, starts, by rw [turns, last]; rfl, final⟩

end Course

/-- A guest who says goodbye has something left to say, and would be back on hearing it. -/
def Draft.guest : Draft where
  name := "guest"
  kind := .conversation
  keepMemory := false
  initial := { trigger := none, sends := [], target := "PARLOUR" }
  states :=
    [("PARLOUR",
      { transitions :=
          [{ trigger := some ⟨"basic_message", none, some "INPUT_EQUAL", some "bye", none, false⟩
             sends :=
              [⟨"transient", none, none, some "one more thing", none, false⟩,
                ⟨"basic_message", none, none, some "Goodbye!", none, false⟩]
             target := "STREET" }]
        terminate := false }),
      ("STREET",
        { transitions :=
            [{ trigger := some ⟨"transient", none, some "TRANSIENT", none, none, false⟩
               sends := [⟨"basic_message", none, none, some "Here I am again!", none, false⟩]
               target := "PARLOUR" }]
          terminate := true })]

def Definition.guest : Definition where
  name := "guest"
  kind := .conversation
  keepMemory := false
  initial := { sends := [], target := "PARLOUR" }
  states :=
    [⟨"PARLOUR",
      [⟨⟨.basicMessage, .inputEqual, none, "bye", none, true⟩,
          [⟨.transient, .data, none, "one more thing", none, true⟩,
            ⟨.basicMessage, .data, none, "Goodbye!", none, true⟩], "STREET"⟩], false⟩,
      ⟨"STREET",
        [⟨⟨.transient, .transient, none, "", none, true⟩,
            [⟨.basicMessage, .data, none, "Here I am again!", none, true⟩], "PARLOUR"⟩], true⟩]
  initialIndex := ⟨0, by decide⟩
  checksum := Draft.guest.checksum

namespace Course

def visiting : Conversation Definition.guest Lua.State :=
  .new .guest "c" .initial (.constant (Fin.last 999999))

def farewell : Round Definition.guest Lua.State :=
  ⟨.refusing fun _ => false, some (.status (.message "c" "p" "bye")),
    ⟨(Session.begin (.refusing fun _ => false) ⟨visiting, .empty⟩).conversation, .empty⟩⟩

def parting : Turn Definition.guest Lua.State :=
  ⟨farewell.client, .item (.status (.message "c" "p" "bye")), farewell.session⟩

/-- A guest who has gone does not hear what there was left to say. -/
theorem guest_stays_away :
    Draft.guest.check = .ok Definition.guest ∧
      ∃ (task : Task Definition.guest Lua.State) (first : Round Definition.guest Lua.State),
        Course visiting task [first, farewell] ∧ parting.after.machine.state.terminal = true ∧
          parting.told = ["one more thing"] ∧ farewell.turns = [parting] ∧
          farewell.final = parting.after.withQueue [] ∧ task.isLive = false := by
  let client := Client.refusing fun _ => false
  have spawned : Course visiting (.spawn visiting) [] := .spawn
  have begun := spawned.move client false .begin .empty rfl
  have told := begun.deliver (.status (.message "c" "p" "bye")) rfl
  have taken := told.move client false .takeNotification .empty rfl
  have handled : Course visiting _ [_, farewell] := taken.move client false .handle .empty rfl
  have terminal : parting.after.machine.state.terminal = true := by decide +kernel
  have turns : farewell.turns = [] ++ parting :: parting.after.hops client := rfl
  obtain ⟨closes, _⟩ := nothing_after_the_end handled
  obtain ⟨last, _, final, _, gone⟩ := closes [_] farewell [] [] parting _ rfl turns terminal
  rw [last] at turns
  exact ⟨rfl, _, _, handled, terminal, by decide +kernel, turns, final, gone⟩

end Course
end Parley
