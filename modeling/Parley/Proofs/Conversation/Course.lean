import Parley.Proofs.Conversation.Feedback
import Parley.Proofs.Conversation.Step
/-!
The course of a conversation that runs by itself.

It goes round by round. In a round the conversation begins or handles one item from outside, and
then its machine is told all that it has queued. Between two rounds items come in, channels close
and others write to the ledger, but the conversation stays as it is. The next round finds the queue
empty.
-/

namespace Parley

variable {definition : Definition} {σ : Type}

structure Round (definition : Definition) (σ : Type) where
  client : Client
  /-- The item, if it is not the beginning. -/
  opening : Option Notification
  session : Session definition σ

variable [Evaluator σ]

namespace Round

/-- The turn that a round begins with. None if the stream is said to be still there. -/
def first? (round : Round definition σ) : Option (Turn definition σ) :=
  match round.opening with
  | none => some ⟨round.client, .start, round.session⟩
  | some notification =>
    notification.item?.map fun item => ⟨round.client, .item item, round.session⟩

def opened (round : Round definition σ) : Session definition σ :=
  (round.first?.map Turn.after).getD round.session

def turns (round : Round definition σ) : List (Turn definition σ) :=
  round.first?.toList ++ round.opened.hops round.client

def final (round : Round definition σ) : Session definition σ :=
  match round.opening with
  | none => round.session.begin round.client
  | some notification => round.session.take round.client notification

theorem final_eq_drain (round : Round definition σ) :
    round.final = round.opened.drain round.client := by
  obtain ⟨client, opening, session⟩ := round
  cases opening with
  | none => rfl
  | some notification => cases notification <;> rfl

theorem reach_turns (round : Round definition σ) :
    round.session.reach round.turns = round.opened.reach (round.opened.hops round.client) := by
  unfold turns opened
  cases round.first? <;> rfl

theorem final_eq (round : Round definition σ) :
    round.final = (round.session.reach round.turns).withQueue [] := by
  rw [final_eq_drain, reach_turns]
  exact (Session.hops_feeds _ _).drainFrom_eq

theorem final_queue (round : Round definition σ) : round.final.queue = [] := by
  rw [final_eq]
  rfl

omit [Evaluator σ] in
theorem before_first {round : Round definition σ} {first : Turn definition σ}
    (found : round.first? = some first) :
    first.before = round.session ∧ first.heard = [] := by
  obtain ⟨client, opening, session⟩ := round
  cases opening with
  | none =>
    cases found
    exact ⟨rfl, rfl⟩
  | some notification =>
    cases notification <;> cases found
    all_goals exact ⟨rfl, rfl⟩

/-- First in, first out, over all turns of a round. -/
theorem inOrder (round : Round definition σ) {prior later : List (Turn definition σ)}
    (parts : round.turns = prior ++ later) :
    prior.flatMap Turn.heard ++ (round.session.reach prior).queue =
      round.session.queue ++ prior.flatMap Turn.told := by
  unfold turns opened at parts
  cases found : round.first? with
  | none =>
    rw [found] at parts
    exact (Session.hops_feeds _ _).inOrder parts
  | some first =>
    obtain ⟨before, unheard⟩ := before_first found
    rw [found] at parts
    cases prior with
    | nil => exact (List.append_nil _).symm
    | cons other prior =>
      obtain ⟨rfl, others⟩ := List.cons.inj parts
      have fed := (Session.hops_feeds round.client first.after).inOrder others
      rw [first.after_queue, before, List.append_assoc] at fed
      rw [List.flatMap_cons, List.flatMap_cons, unheard, List.nil_append]
      exact fed

theorem heard_le (round : Round definition σ) :
    (round.turns.flatMap Turn.heard).length ≤ Session.hopLimit := by
  have fed := Session.hops_feeds round.client round.opened
  have unheard : round.first?.toList.flatMap Turn.heard = [] := by
    cases found : round.first? with
    | none => rfl
    | some first => simp [(before_first found).2]
  rw [turns, List.flatMap_append, unheard, List.nil_append, fed.length_heard]
  exact fed.length_le

theorem opened_takes (round : Round definition σ) :
    Session.TakesAtMost 1 round.session round.opened := by
  unfold opened
  cases found : round.first? with
  | none => exact .of_eq rfl 1
  | some first => exact (before_first found).1 ▸ first.after_takes

/-- A round takes one transition for its item, and one for each thing that the machine is told. -/
theorem final_takes (round : Round definition σ) :
    Session.TakesAtMost (Session.hopLimit + 1) round.session round.final := by
  have hops := (Session.hops_feeds round.client round.opened).length_le
  have taken := round.opened_takes.trans (Session.hops_feeds round.client round.opened).takes
  have counted : round.final.transitions =
      (round.opened.reach (round.opened.hops round.client)).transitions := by
    rw [final_eq, reach_turns]
    rfl
  unfold Session.TakesAtMost at *
  omega

end Round

omit [Evaluator σ] in
theorem Task.isLive_settled (task : Task definition σ) (session : Session definition σ) :
    (task.settled session).1.isLive = !session.isFinished := by
  unfold Task.settled Task.isLive
  cases session.isFinished <;> rfl

def Task.round? (client : Client) (move : Task.Move) (task : Task definition σ) (ledger : Ledger) :
    Option (Round definition σ) :=
  match move, task.phase with
  | .begin, .fresh => some ⟨client, none, ⟨task.conversation, ledger⟩⟩
  | .handle, .handling item => some ⟨client, some item, ⟨task.conversation, ledger⟩⟩
  | _, _ => none

/-- What a conversation can come to as it runs by itself, with the rounds so far. Items are put into
its channels and these are closed at any time, clients refuse what they like, and the ledger may be
any, since others write to it in between. -/
inductive Course (origin : Conversation definition σ) :
    Task definition σ → List (Round definition σ) → Prop where
  | spawn : Course origin (.spawn origin) []
  | move {task : Task definition σ} {rounds : List (Round definition σ)}
      {result : Task definition σ × Ledger} (client : Client) (isCancelled : Bool)
      (move : Task.Move) (ledger : Ledger) :
      Course origin task rounds → task.advance? client isCancelled move ledger = some result →
        Course origin result.1 (rounds ++ (task.round? client move ledger).toList)
  | deliver {task after : Task definition σ} {rounds : List (Round definition σ)}
      (item : Notification) :
      Course origin task rounds → task.deliver? item = some after → Course origin after rounds
  | closeNotifications {task : Task definition σ} {rounds : List (Round definition σ)} :
      Course origin task rounds →
        Course origin { task with notifications := task.notifications.close } rounds
  | closeHooks {task : Task definition σ} {rounds : List (Round definition σ)} :
      Course origin task rounds → Course origin { task with hooks := task.hooks.close } rounds

def standing (origin : Conversation definition σ) (rounds : List (Round definition σ)) :
    Conversation definition σ :=
  rounds.foldl (fun _ round => round.final.conversation) origin

theorem standing_append (origin : Conversation definition σ) (rounds : List (Round definition σ))
    (round : Round definition σ) :
    standing origin (rounds ++ [round]) = round.final.conversation := by
  simp [standing]

theorem standing_queue (origin : Conversation definition σ) {rounds : List (Round definition σ)}
    (begun : rounds ≠ []) : (standing origin rounds).queue = [] := by
  obtain ⟨earlier, last, rfl⟩ := (List.eq_nil_or_concat rounds).resolve_left begun
  rw [List.concat_eq_append, standing_append]
  exact last.final_queue

namespace Course

/-- Rounds in their order: each starts from where the one before has ended, the first one is the
beginning, and there is another one only as long as the machine has not ended. -/
structure Sound (origin : Conversation definition σ) (task : Task definition σ)
    (rounds : List (Round definition σ)) : Prop where
  standing : task.conversation = standing origin rounds
  fresh : task.phase = .fresh ↔ rounds = []
  running : task.isLive = true → rounds ≠ [] → task.conversation.isFinished = false
  inTurn : ∀ earlier round later, rounds = earlier ++ round :: later →
    round.session.conversation = Parley.standing origin earlier ∧
      (round.opening = none ↔ earlier = []) ∧
      (earlier ≠ [] → (Parley.standing origin earlier).isFinished = false)

variable {origin : Conversation definition σ} {task : Task definition σ}
  {rounds : List (Round definition σ)}

theorem Sound.of_same (sound : Sound origin task rounds) {after : Task definition σ}
    (same : after.conversation = task.conversation)
    (fresh : after.phase = .fresh ↔ task.phase = .fresh)
    (live : after.isLive = true → task.isLive = true) : Sound origin after rounds where
  standing := same.trans sound.standing
  fresh := fresh.trans sound.fresh
  running runs begun := by
    rw [same]
    exact sound.running (live runs) begun
  inTurn := sound.inTurn

theorem Sound.settled (sound : Sound origin task rounds) (live : task.isLive = true)
    (round : Round definition σ) (starts : round.session.conversation = task.conversation)
    (opening : round.opening = none ↔ task.phase = .fresh) :
    Sound origin (task.settled round.final).1 (rounds ++ [round]) where
  standing := (standing_append origin rounds round).symm
  fresh := by
    refine iff_of_false ?_ (by simp)
    unfold Task.settled
    dsimp only
    split <;> simp
  running runs _ := by
    rw [Task.isLive_settled] at runs
    exact Bool.not_eq_true' _ ▸ runs
  inTurn := by
    intro earlier other later parts
    -- The split is at the new round, or the new round is the last of the later ones.
    rcases List.eq_nil_or_concat later with rfl | ⟨others, last, rfl⟩
    · obtain ⟨rfl, same⟩ := List.append_inj' parts rfl
      obtain rfl := (List.cons.inj same).1
      refine ⟨starts.trans sound.standing, opening.trans sound.fresh, fun begun => ?_⟩
      rw [← sound.standing]
      exact sound.running live begun
    · have longer : rounds ++ [round] = (earlier ++ other :: others) ++ [last] := by
        simpa using parts
      obtain ⟨rfl, _⟩ := List.append_inj' longer rfl
      exact sound.inTurn earlier other others rfl

theorem sound (course : Course origin task rounds) : Sound origin task rounds := by
  induction course with
  | spawn => exact ⟨rfl, by simp [Task.spawn], fun _ begun => absurd rfl begun, by simp⟩
  | move client isCancelled move ledger _ advanced ih =>
    have step := Task.step_of_advance? advanced
    cases step with
    | @begin fresh =>
      simp only [Task.round?, fresh, Option.toList_some]
      exact ih.settled (by rw [Task.isLive, fresh]) ⟨client, none, ⟨_, ledger⟩⟩ rfl
        (iff_of_true rfl fresh)
    | @handle item handling =>
      simp only [Task.round?, handling, Option.toList_some]
      exact ih.settled (by rw [Task.isLive, handling]) ⟨client, some item, ⟨_, ledger⟩⟩ rfl
        (by simp [handling])
    | takeNotification phase _ | takeHook phase _ =>
      simp only [Task.round?, Option.toList_none, List.append_nil]
      exact ih.of_same rfl (by simp [phase]) fun _ => by rw [Task.isLive, phase]
    | noticeClosed phase _ _ | noticeCancelled phase _ | report phase =>
      simp only [Task.round?, Option.toList_none, List.append_nil]
      exact ih.of_same rfl (by simp [phase]) fun live => by cases live
  | deliver item _ delivered ih =>
    have put := Task.deliver?_delivered delivered
    refine ih.of_same put.conversation (by rw [put.phase]) fun _ => put.live
  | closeNotifications _ ih => exact ih.of_same rfl .rfl id
  | closeHooks _ ih => exact ih.of_same rfl .rfl id

/-- Between two rounds nothing is left that the machine has queued for itself. -/
theorem queue_of_rounds (course : Course origin task rounds) (begun : rounds ≠ []) :
    task.conversation.queue = [] := by
  rw [course.sound.standing]
  exact standing_queue origin begun

end Course

structure Session.Feeding (client : Client) (session : Session definition σ)
    (hops : List (Turn definition σ)) : Prop where
  feeds : Session.Feeds client 32 session hops
  bounded : hops.length ≤ 32
  inOrder : ∀ prior later, hops = prior ++ later →
    prior.flatMap Turn.heard ++ (session.reach prior).queue =
      session.queue ++ prior.flatMap Turn.told
  exhausted : hops.length = 32 ∨ (session.reach hops).queue = [] ∨
    (session.reach hops).isFinished = true
  drained : session.drain client = (session.reach hops).withQueue []

theorem Session.hops_feeding (client : Client) (session : Session definition σ) :
    Session.Feeding client session (session.hops client) :=
  have fed := session.hops_feeds client
  ⟨fed, fed.length_le, fun _ _ parts => fed.inOrder parts, fed.stops, fed.drainFrom_eq⟩

namespace Course

/-- A machine is told what it has queued in the order in which it has queued it, thirty-two times
between two items and no more, and what has been queued for a transition that is not taken is not
among it. -/
theorem feedback_is_bounded :
    (∀ (client : Client) (session : Session definition σ),
        Session.Feeding client session (session.hops client) ∧
          (session.drain client).queue = []) ∧
      (∀ (client : Client) (session : Session definition σ) (item : Item),
        (∀ transition sends, session.taken? client item = some (transition, sends) →
          ∃ ready : Session definition σ, session.receive client item = ready.commit transition ∧
            ready.queue = session.queue ++ sends.flatMap Send.told) ∧
        (session.taken? client item = none →
          (session.receive client item).queue = session.queue ∧
            (⟨client, .item item, session⟩ : Turn definition σ).told = [])) ∧
      ∀ (origin : Conversation definition σ) (task : Task definition σ)
        (rounds : List (Round definition σ)), Course origin task rounds →
          (rounds ≠ [] → task.conversation.queue = []) ∧
            ∀ earlier round later, rounds = earlier ++ round :: later →
              (earlier ≠ [] → round.session.queue = []) ∧
                Session.TakesAtMost 33 round.session round.final ∧
                (round.turns.flatMap Turn.heard).length ≤ 32 ∧
                ∀ prior rest, round.turns = prior ++ rest →
                  prior.flatMap Turn.heard ++ (round.session.reach prior).queue =
                    round.session.queue ++ prior.flatMap Turn.told := by
  refine ⟨fun client session => ⟨session.hops_feeding client, ?_⟩,
    fun client session item => ⟨fun transition sends taken => ?_, fun untaken => ⟨?_, ?_⟩⟩,
    fun origin task rounds course => ⟨course.queue_of_rounds, ?_⟩⟩
  · rw [(session.hops_feeding client).drained]
    rfl
  · obtain ⟨ready, _, queue, committed⟩ := Session.receive_of_taken taken
    exact ⟨ready, committed, queue⟩
  · exact (Session.receive_of_untaken untaken).queue
  · simp only [Turn.told, Turn.sends, untaken, List.flatMap_nil]
  · intro earlier round later parts
    refine ⟨fun begun => ?_, round.final_takes, round.heard_le, fun _ _ => round.inOrder⟩
    rw [Session.queue, (course.sound.inTurn _ _ _ parts).1]
    exact standing_queue origin begun

end Course

/-- Once spoken to, a brooder tells itself two things for each thing that it is told. -/
def Draft.brooder : Draft where
  name := "brooder"
  kind := .conversation
  keepMemory := false
  initial := { trigger := none, sends := [], target := "CALM" }
  states :=
    [("CALM",
      { transitions :=
          [{ trigger := some ⟨"basic_message", none, none, none, none, false⟩
             sends := [⟨"transient", none, none, some "why", none, false⟩]
             target := "BROODING" }]
        terminate := false }),
      ("BROODING",
        { transitions :=
            [{ trigger := some ⟨"transient", none, some "TRANSIENT", none, none, false⟩
               sends :=
                [⟨"transient", none, none, some "why", none, false⟩,
                  ⟨"transient", none, none, some "how", none, false⟩]
               target := "BROODING" }]
          terminate := false })]

def Definition.brooder : Definition where
  name := "brooder"
  kind := .conversation
  keepMemory := false
  initial := { sends := [], target := "CALM" }
  states :=
    [⟨"CALM",
      [⟨⟨.basicMessage, .input, none, "", none, true⟩,
          [⟨.transient, .data, none, "why", none, true⟩], "BROODING"⟩], false⟩,
      ⟨"BROODING",
        [⟨⟨.transient, .transient, none, "", none, true⟩,
            [⟨.transient, .data, none, "why", none, true⟩,
              ⟨.transient, .data, none, "how", none, true⟩], "BROODING"⟩], false⟩]
  initialIndex := ⟨0, by decide⟩
  checksum := Draft.brooder.checksum

namespace Course

def calm : Conversation Definition.brooder Lua.State :=
  .new .brooder "c" .initial (.constant (Fin.last 999999))

def brooding : Round Definition.brooder Lua.State :=
  ⟨.refusing fun _ => false, some (.status (.message "c" "p" "hello")),
    ⟨(Session.begin (.refusing fun _ => false) ⟨calm, .empty⟩).conversation, .empty⟩⟩

/-- A brooder that is spoken to takes thirty-three transitions, and then it waits again. -/
theorem brooder_gives_up :
    Draft.brooder.check = .ok Definition.brooder ∧
      ∃ (task : Task Definition.brooder Lua.State) (first : Round Definition.brooder Lua.State),
        Course calm task [first, brooding] ∧ task.phase = .listening ∧
          task.conversation.queue = [] ∧ brooding.turns.length = 33 ∧
          brooding.final.transitions = 33 ∧
          Session.TakesAtMost 33 brooding.session brooding.final := by
  let client := Client.refusing fun _ => false
  have spawned : Course calm (.spawn calm) [] := .spawn
  have begun := spawned.move client false .begin .empty rfl
  have told := begun.deliver (.status (.message "c" "p" "hello")) rfl
  have taken := told.move client false .takeNotification .empty rfl
  have handled : Course calm _ [_, brooding] := taken.move client false .handle .empty rfl
  obtain ⟨_, _, bounded⟩ := @feedback_is_bounded Definition.brooder Lua.State _
  obtain ⟨resting, rounds⟩ := bounded _ _ _ handled
  obtain ⟨_, takes, _⟩ := rounds [_] brooding [] rfl
  exact ⟨rfl, _, _, handled, by decide +kernel, resting (List.cons_ne_nil _ _),
    by decide +kernel, by decide +kernel, takes⟩

end Course
end Parley
