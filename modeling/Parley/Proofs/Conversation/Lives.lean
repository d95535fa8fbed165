import Parley.Lua.Evaluator
import Parley.Proofs.Conversation.AllOrNothing
import Parley.Proofs.Conversation.Attempts
import Parley.Proofs.Machine.Reached
/-!
A conversation only ever uses its machine as the machine is meant to be used, so that all that the
check of a definition promises holds for as long as a conversation with it lives.
-/

namespace Parley

variable {definition : Definition} {draft : Draft} {σ : Type} [Evaluator σ]

namespace Session

variable {origin : Conversation definition σ} {session : Session definition σ}
  {known : List Transition} {seen : List (Evaluation σ)}

/-- A session as what has become of a conversation: it has the same connection, and a machine that
has got where it is by its operations. -/
structure Carries (origin : Conversation definition σ) (known : List Transition)
    (seen : List (Evaluation σ)) (session : Session definition σ) : Prop where
  connection : session.connection = origin.connection
  machine : Machine.Reached origin.machine session.machine known seen

omit [Evaluator σ] in
theorem conversation_of_call {client : Client} {call : Call} {accepted : Bool}
    {session after : Session definition σ} (called : session.call client call = (accepted, after)) :
    after.conversation = session.conversation :=
  (congrArg (fun outcome => outcome.2.conversation) called).symm

theorem Carries.of_conversation {other : Session definition σ}
    (same : other.conversation = session.conversation)
    (carries : session.Carries origin known seen) : other.Carries origin known seen := by
  constructor
  · exact (congrArg Conversation.connection same).trans carries.connection
  · have machine : other.machine = session.machine := congrArg Conversation.machine same
    exact machine ▸ carries.machine

theorem commit_carries (carries : session.Carries origin known seen) {transition : Transition}
    (own : transition ∈ known) : (session.commit transition).Carries origin known seen := by
  unfold commit
  split
  next taken => exact ⟨carries.connection, carries.machine.step own taken⟩
  next => exact carries

theorem abandon_carries (client : Client) (queued : Nat) (question : Option Question)
    (carries : session.Carries origin known seen) :
    (session.abandon client queued question).Carries origin known seen := by
  have dropped := abandon_conversation client queued question session
  constructor
  · exact (congrArg Conversation.connection dropped).trans carries.connection
  · have machine : (session.abandon client queued question).machine = session.machine.rollback :=
      congrArg Conversation.machine dropped
    exact machine ▸ carries.machine.rollback

theorem fire_carries (client : Client) {transition : Transition} (input : String)
    (question : Option Question) (carries : session.Carries origin known seen)
    (own : transition ∈ known) :
    ∃ seen, (session.fire client transition input question).Carries origin known seen := by
  refine ⟨session.machine.evaluatedToBuild transition input ++ seen, ?_⟩
  have built := carries.machine.build input own
  unfold fire
  dsimp only
  split
  next failed =>
    rw [failed] at built
    exact abandon_carries client _ question ⟨carries.connection, built⟩
  next sends machine done =>
    rw [done] at built
    have sent := dispatchAll_sent client question sends (session.withMachine machine)
    split
    next answered after result =>
      rw [result] at sent
      have kept : after.machine = machine := sent.machine
      rw [← kept] at built
      exact abandon_carries client _ _ ⟨sent.connection.trans carries.connection, built⟩
    next answered after result =>
      rw [result] at sent
      have kept : after.machine = machine := sent.machine
      rw [← kept] at built
      -- Sends and answers reach the ledger and the queue, but not the machine.
      have went : after.Carries origin known _ :=
        ⟨sent.connection.trans carries.connection, built⟩
      split
      next => exact commit_carries went own
      next asked _ =>
        split
        next result => exact commit_carries (went.of_conversation (conversation_of_call result)) own
        next result =>
          exact abandon_carries client _ none (went.of_conversation (conversation_of_call result))

theorem follow_carries (client : Client) (item : Item) (input : String)
    {other : Session definition σ} (same : other.connection = session.connection)
    (carries : session.Carries origin known seen) :
    ∃ known seen,
      (other.follow client (session.machine.find item) input).Carries origin known seen := by
  have found := carries.machine.find item
  have connection := same.trans carries.connection
  unfold follow
  split
  next transition machine result =>
    rw [result] at found
    exact ⟨_, fire_carries client input none ⟨connection, found⟩ List.mem_cons_self⟩
  next machine result =>
    rw [result] at found
    exact ⟨_, _, connection, found⟩

theorem handleStatus_carries (client : Client) (change : Status)
    (carries : session.Carries origin known seen) :
    ∃ known seen, (session.handleStatus client change).Carries origin known seen := by
  have found := carries.machine.find (.status change)
  rcases session.handleStatus_cases client change with
    ⟨_, same⟩ | ⟨_, same⟩ | ⟨_, decided, told, same⟩ | ⟨_, decided, told, same⟩
  · rw [same]
    exact ⟨_, _, carries⟩
  · rw [same]
    exact follow_carries client (.status change) _ rfl carries
  · have kept := congrArg Conversation.connection (conversation_of_call told)
    rw [same]
    exact follow_carries client (.status change) _ kept carries
  · have kept := congrArg Conversation.connection (conversation_of_call told)
    have connection := kept.trans carries.connection
    rw [same]
    split
    next => exact ⟨_, _, connection, found.rollback⟩
    next => exact ⟨_, _, connection, found⟩

theorem handleQuestion_carries (client : Client) (asked : Question)
    (carries : session.Carries origin known seen) :
    ∃ known seen, (session.handleQuestion client asked).Carries origin known seen := by
  have found := carries.machine.find (.question asked)
  unfold handleQuestion
  split
  next transition machine result =>
    have here : session.machine.find (.question asked) = (some transition, machine) := result
    rw [here] at found
    exact ⟨_, fire_carries client _ _ ⟨carries.connection, found⟩ List.mem_cons_self⟩
  next machine result =>
    have here : session.machine.find (.question asked) = (none, machine) := result
    rw [here] at found
    exact ⟨_, _, carries.connection, found⟩

theorem handle_carries (client : Client) (notification : Notification)
    (carries : session.Carries origin known seen) :
    ∃ known seen, (session.handle client notification).Carries origin known seen := by
  cases notification with
  | status change => exact handleStatus_carries client change carries
  | question asked => exact handleQuestion_carries client asked carries
  | hook data => exact follow_carries client (.hook data) _ rfl carries
  | backend message => exact follow_carries client (.backend message) _ rfl carries
  | keepAlive => exact ⟨_, _, carries⟩

theorem drainFrom_carries (client : Client) (hops : Nat)
    (carries : session.Carries origin known seen) :
    ∃ known seen, (session.drainFrom client hops).Carries origin known seen := by
  induction hops generalizing session known seen with
  | zero => exact ⟨_, _, carries.connection, carries.machine⟩
  | succ hops ih =>
    unfold drainFrom
    split
    next => exact ⟨_, _, carries⟩
    next content rest _ =>
      split
      next => exact ⟨_, _, carries.connection, carries.machine⟩
      next =>
        have same : (session.withQueue rest).connection = session.connection := rfl
        obtain ⟨_, _, told⟩ :=
          follow_carries client (.transient content) content same carries
        exact ih told

theorem start_carries (client : Client) (carries : session.Carries origin known seen) :
    ∃ known seen, (session.start client).Carries origin known seen := by
  have started := carries.machine.start
  unfold start
  split
  next result =>
    rw [result] at started
    exact ⟨_, _, carries.connection, started⟩
  next sends machine result =>
    rw [result] at started
    have sent := dispatchAll_sent client none sends (session.withMachine machine)
    have kept : (dispatchAll client none sends (session.withMachine machine)).session.machine =
        machine := sent.machine
    rw [← kept] at started
    exact ⟨_, _, sent.connection.trans carries.connection, started⟩

theorem begin_connection (client : Client) (session : Session definition σ) :
    (session.begin client).connection = session.connection := by
  have here : session.Carries session.conversation [] [] := ⟨rfl, .refl⟩
  obtain ⟨_, _, started⟩ := start_carries client here
  obtain ⟨_, _, drained⟩ := drainFrom_carries client hopLimit started
  exact drained.connection

theorem take_connection (client : Client) (item : Notification) (session : Session definition σ) :
    (session.take client item).connection = session.connection := by
  have here : session.Carries session.conversation [] [] := ⟨rfl, .refl⟩
  obtain ⟨_, _, handled⟩ := handle_carries client item here
  obtain ⟨_, _, drained⟩ := drainFrom_carries client hopLimit handled
  exact drained.connection

end Session

namespace Conversation

/-- What a conversation can become, whatever the clients do and whatever is written down by others
in between. -/
inductive Lives (origin : Conversation definition σ) : Conversation definition σ → Prop where
  | refl : Lives origin origin
  | start {conversation : Conversation definition σ} (client : Client) (ledger : Ledger) :
      Lives origin conversation →
        Lives origin (Session.start client ⟨conversation, ledger⟩).conversation
  | handle {conversation : Conversation definition σ} (client : Client) (ledger : Ledger)
      (notification : Notification) :
      Lives origin conversation →
        Lives origin (Session.handle client notification ⟨conversation, ledger⟩).conversation
  | drain {conversation : Conversation definition σ} (client : Client) (ledger : Ledger) :
      Lives origin conversation →
        Lives origin (Session.drain client ⟨conversation, ledger⟩).conversation

theorem Lives.carries {origin conversation : Conversation definition σ}
    (lives : Lives origin conversation) :
    ∃ known seen, ∀ ledger, Session.Carries origin known seen ⟨conversation, ledger⟩ := by
  have anyLedger {known : List Transition} {seen : List (Evaluation σ)}
      {session : Session definition σ} (carries : session.Carries origin known seen) :
      ∃ known seen, ∀ ledger, Session.Carries origin known seen ⟨session.conversation, ledger⟩ :=
    ⟨known, seen, fun _ => ⟨carries.connection, carries.machine⟩⟩
  induction lives with
  | refl => exact ⟨[], [], fun _ => ⟨rfl, .refl⟩⟩
  | start client ledger _ ih =>
    obtain ⟨_, _, carries⟩ := ih
    obtain ⟨_, _, started⟩ := Session.start_carries client (carries ledger)
    exact anyLedger started
  | handle client ledger notification _ ih =>
    obtain ⟨_, _, carries⟩ := ih
    obtain ⟨_, _, handled⟩ := Session.handle_carries client notification (carries ledger)
    exact anyLedger handled
  | drain client ledger _ ih =>
    obtain ⟨_, _, carries⟩ := ih
    obtain ⟨_, _, drained⟩ := Session.drainFrom_carries client _ (carries ledger)
    exact anyLedger drained

omit [Evaluator σ] in
theorem create_supplied {connection : String} {scriptsAllowed : Bool} {scripts : σ}
    {pins : PinStream} {conversation : Conversation definition σ}
    (created : create definition connection scriptsAllowed scripts pins = .ok conversation) :
    definition.needsEvaluator = true → conversation.machine.store.scripts.isSome = true := by
  intro needed
  unfold create at created
  split at created
  next =>
    cases created
    simp only [new, Machine.new, needed, if_true, Option.isSome_some]
  next => cases created

end Conversation

/-- What the check of a definition promises, in whatever order a machine with it is used. -/
structure Machine.Promise (machine : Machine definition σ) (known : List Transition) : Prop where
  place : definition.stateIndex? machine.state.name = some machine.current
  target : ∀ item transition, (machine.find item).1 = some transition →
    definition.hasState transition.target = true
  step : ∀ transition ∈ known, ∃ after, machine.step transition = .ok after
  start : ∀ fault, machine.start.1 = .error fault → fault = .badTemplate
  build : ∀ transition ∈ known, ∀ input fault,
    (machine.buildSends transition input).1 = .error fault → fault = .badTemplate

theorem Machine.Reached.promise (wellFormed : definition.WellFormed)
    {origin machine : Machine definition σ} {known : List Transition}
    {seen : List (Evaluation σ)} (reached : Reached origin machine known seen) :
    machine.Promise known := by
  have fits : ∀ transition ∈ known, transition.Fits definition :=
    fun transition own => (reached.found wellFormed transition own).1
  refine ⟨?_, ?_, ?_, ?_, ?_⟩
  · exact Definition.stateIndex?_get wellFormed.distinct machine.current
  · intro item transition found
    exact (find_fits wellFormed machine found).target
  · intro transition own
    obtain ⟨after, taken, _⟩ := step_of_fits wellFormed (fits transition own) machine
    exact ⟨after, taken⟩
  · intro fault failed
    exact start_fault wellFormed failed
  · intro transition own input fault failed
    exact buildSends_fault (fits transition own) failed

/-- A checked definition needs no further checks: in whatever order its machines are used, places
and targets are states, steps are made, and only templates go wrong. In its conversations no script
is looked at without an evaluator. -/
theorem Definition.check_is_enough (accepted : draft.check = .ok definition) :
    (∀ (scripts : Option σ) (pins : PinStream) (signal : EndSignal)
        (machine : Machine definition σ) (known : List Transition) (seen : List (Evaluation σ)),
      Machine.Reached (.new definition scripts pins signal) machine known seen →
        machine.Promise known) ∧
      ∀ (connection : String) (scriptsAllowed : Bool) (scripts : σ) (pins : PinStream)
        (conversation : Conversation definition σ),
        Conversation.create definition connection scriptsAllowed scripts pins = .ok conversation →
          (∀ (machine : Machine definition σ) (known : List Transition)
              (seen : List (Evaluation σ)),
            Machine.Reached conversation.machine machine known seen →
              machine.Promise known ∧ ∀ evaluation ∈ seen, evaluation.IsEquipped) ∧
            ∀ later, Conversation.Lives conversation later →
              ∃ known seen, Machine.Reached conversation.machine later.machine known seen := by
  have wellFormed := wellFormed_of_check accepted
  constructor
  · intro scripts pins signal machine known seen reached
    exact reached.promise wellFormed
  · intro connection scriptsAllowed scripts pins conversation created
    have supplied := Conversation.create_supplied created
    constructor
    · intro machine known seen reached
      exact ⟨reached.promise wellFormed, reached.equipped wellFormed supplied⟩
    · intro later lives
      obtain ⟨known, seen, carries⟩ := lives.carries
      exact ⟨known, seen, (carries .empty).machine⟩

/-- A porter lets everybody in where they ask to go, if there is such a place. -/
def Draft.porter : Draft where
  name := "porter"
  kind := .conversation
  keepMemory := false
  initial := { trigger := none, sends := [], target := "DOOR" }
  states :=
    [("DOOR",
      { transitions :=
          [{ trigger :=
              some
                ⟨"basic_message", none, some "LUA", some "OUTPUT = 'OK' TARGET = INPUT", none,
                  false⟩
             sends := [⟨"basic_message", none, some "LUA", some "OUTPUT = INPUT", none, false⟩]
             target := "DOOR" }]
        terminate := false }),
      ("HALL", { transitions := [], terminate := true })]

def Transition.admission (place : String) : Transition where
  trigger := ⟨.basicMessage, .lua, none, "OUTPUT = 'OK' TARGET = INPUT", none, true⟩
  sends := [⟨.basicMessage, .lua, none, "OUTPUT = INPUT", none, true⟩]
  target := place

def Definition.porter : Definition where
  name := "porter"
  kind := .conversation
  keepMemory := false
  initial := { sends := [], target := "DOOR" }
  states := [⟨"DOOR", [.admission "DOOR"], false⟩, ⟨"HALL", [], true⟩]
  initialIndex := ⟨0, by decide⟩
  checksum := Draft.porter.checksum

def hallAsked : Item := .status (.message "c" "p" "HALL")

def atDoor : Conversation Definition.porter Lua.State :=
  .new .porter "c" .initial (.constant (Fin.last 999999))

/-- The script names the hall, which is a state and can be stepped to; the script of the trigger and
that of the send find an evaluator. -/
theorem porter_admits :
    Draft.porter.check = .ok Definition.porter ∧
      (atDoor.machine.find hallAsked).1 = some (.admission "HALL") ∧
      Definition.porter.hasState "HALL" = true ∧
      (∃ after, (atDoor.machine.find hallAsked).2.step (.admission "HALL") = .ok after) ∧
      (∀ evaluation ∈
          (atDoor.machine.find hallAsked).2.evaluatedToBuild (.admission "HALL") "HALL" ++
            (atDoor.machine.evaluatedToFind hallAsked ++ []),
        evaluation.IsEquipped) ∧
      (atDoor.machine.evaluatedToFind hallAsked).length = 1 := by
  have accepted : Draft.porter.check = .ok Definition.porter := rfl
  have found : (atDoor.machine.find hallAsked).1 = some (.admission "HALL") := by decide +kernel
  have promised := (Definition.check_is_enough accepted).2 "c" true Lua.State.initial
    (.constant (Fin.last 999999)) atDoor rfl
  have reached : Machine.Reached atDoor.machine (atDoor.machine.find hallAsked).2 _ _ :=
    .find hallAsked .refl
  rw [found] at reached
  have here := (promised.1 _ _ _ .refl).1.target hallAsked _ found
  have step := (promised.1 _ _ _ reached).1.step (.admission "HALL") List.mem_cons_self
  have scripts := (promised.1 _ _ _ (reached.build "HALL" List.mem_cons_self)).2
  exact ⟨accepted, found, here, step, scripts, by decide +kernel⟩

end Parley
