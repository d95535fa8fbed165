import Parley.Lua.Evaluator
import Parley.Proofs.Conversation.Course
import Parley.Proofs.Machine.Entry
/-!
Where the things come from that a machine is told.

Over all turns of a conversation, what its machine is told of its own is what it has told itself
before, in the same order, and every telling counts once. No item from outside can stand in for it,
except for a status that names a protocol of which no status should come.
-/

namespace Parley

variable {definition : Definition} {σ : Type} [Evaluator σ]

/-- Of what is queued before and told in some turns, so much is heard in their order, and the rest
is queued afterwards or dropped. -/
structure Heeds (before : List String) (turns : List (Turn definition σ)) (after : List String) :
    Prop where
  inOrder : (turns.flatMap Turn.heard ++ after).Sublist (before ++ turns.flatMap Turn.told)
  inTurn : ∀ prior turn later, turns = prior ++ turn :: later →
    (prior.flatMap Turn.heard ++ turn.heard).Sublist (before ++ prior.flatMap Turn.told)

namespace Heeds

variable {before between after : List String} {turns others : List (Turn definition σ)}

theorem refl (queue : List String) : Heeds queue ([] : List (Turn definition σ)) queue where
  inOrder := by simp
  inTurn := by simp

theorem of_unheard {turn : Turn definition σ} (unheard : turn.heard = []) :
    Heeds turn.before.queue [turn] turn.after.queue where
  inOrder := by simp [unheard, turn.after_queue]
  inTurn prior other later parts := by
    rcases List.singleton_eq_append_iff.mp parts with ⟨rfl, only⟩ | ⟨_, none⟩
    · obtain rfl := (List.cons.inj only).1
      simp [unheard]
    · cases none

theorem then_sublist (first : Heeds before turns between) {heard told : List String}
    (next : heard.Sublist (between ++ told)) :
    (turns.flatMap Turn.heard ++ heard).Sublist (before ++ (turns.flatMap Turn.told ++ told)) :=
  calc (turns.flatMap Turn.heard ++ heard).Sublist
        (turns.flatMap Turn.heard ++ (between ++ told)) := next.append_left _
    _ = (turns.flatMap Turn.heard ++ between) ++ told := (List.append_assoc _ _ _).symm
    List.Sublist _ ((before ++ turns.flatMap Turn.told) ++ told) := first.inOrder.append_right _
    _ = before ++ (turns.flatMap Turn.told ++ told) := List.append_assoc _ _ _

theorem trans (first : Heeds before turns between) (second : Heeds between others after) :
    Heeds before (turns ++ others) after where
  inOrder := by
    rw [List.flatMap_append, List.flatMap_append, List.append_assoc]
    exact first.then_sublist second.inOrder
  inTurn prior turn later parts := by
    have beyond (more : List (Turn definition σ)) (left : others = more ++ turn :: later)
        (here : prior = turns ++ more) :
        (prior.flatMap Turn.heard ++ turn.heard).Sublist (before ++ prior.flatMap Turn.told) := by
      rw [here, List.flatMap_append, List.flatMap_append, List.append_assoc]
      exact first.then_sublist (second.inTurn more turn later left)
    -- The turn is one of the others also if `prior` ends just where they begin.
    rcases List.append_eq_append_iff.mp parts with ⟨more, here, left⟩ | ⟨more, here, left⟩
    · exact beyond more left here
    · cases more with
      | nil => exact beyond [] left.symm (by simp [here])
      | cons other more =>
        obtain ⟨rfl, _⟩ := List.cons.inj left
        exact first.inTurn prior turn more here

end Heeds

theorem Session.Feeds.heeds {client : Client} {limit : Nat} {session : Session definition σ}
    {turns : List (Turn definition σ)} (feeds : Session.Feeds client limit session turns) :
    Heeds session.queue turns [] where
  inOrder := by
    rw [List.append_nil, ← feeds.inOrder (List.append_nil turns).symm]
    exact List.sublist_append_left _ _
  inTurn prior turn later parts := by
    have told := feeds.inOrder parts
    have rest := feeds.suffix parts
    generalize limit - prior.length = left at rest
    cases rest with
    | @hop _ _ content queue _ queued _ _ =>
      rw [queued] at told
      rw [← told]
      exact (List.singleton_sublist.mpr List.mem_cons_self).append_left _

theorem Turn.find_of_found? {turn : Turn definition σ} {transition : Transition}
    (found : turn.found? = some transition) :
    ∃ item, turn.occasion = .item item ∧ (turn.before.machine.find item).1 = some transition := by
  obtain ⟨client, occasion, before⟩ := turn
  cases occasion with
  | start => cases found
  | item item =>
    refine ⟨item, rfl, ?_⟩
    unfold found? Session.found? at found
    dsimp only at found
    split at found
    next => exact found
    next => cases found

omit [Evaluator σ] in
theorem Conversation.create_queue {connection : String} {scriptsAllowed : Bool} {scripts : σ}
    {pins : PinStream} {conversation : Conversation definition σ}
    (created : create definition connection scriptsAllowed scripts pins = .ok conversation) :
    conversation.queue = [] := by
  unfold create at created
  split at created <;> cases created
  rfl

/-- A conversation with all turns that it has had, whatever the clients do and whatever is written
down by others in between. -/
inductive Chronicle (origin : Conversation definition σ) :
    Conversation definition σ → List (Turn definition σ) → Prop where
  | refl : Chronicle origin origin []
  | start {conversation : Conversation definition σ} {turns : List (Turn definition σ)}
      (client : Client) (ledger : Ledger) :
      Chronicle origin conversation turns →
        Chronicle origin (Session.start client ⟨conversation, ledger⟩).conversation
          (turns ++ [⟨client, .start, ⟨conversation, ledger⟩⟩])
  | handle {conversation : Conversation definition σ} {turns : List (Turn definition σ)}
      (client : Client) (ledger : Ledger) (notification : Notification) :
      Chronicle origin conversation turns →
        Chronicle origin (Session.handle client notification ⟨conversation, ledger⟩).conversation
          (turns ++ (notification.item?.map fun item =>
            ⟨client, .item item, ⟨conversation, ledger⟩⟩).toList)
  | drain {conversation : Conversation definition σ} {turns : List (Turn definition σ)}
      (client : Client) (ledger : Ledger) :
      Chronicle origin conversation turns →
        Chronicle origin (Session.drain client ⟨conversation, ledger⟩).conversation
          (turns ++ Session.hops client ⟨conversation, ledger⟩)

namespace Chronicle

variable {origin conversation : Conversation definition σ} {turns : List (Turn definition σ)}

theorem heeds (chronicle : Chronicle origin conversation turns) :
    Heeds origin.queue turns conversation.queue := by
  induction chronicle with
  | refl => exact .refl _
  | @start conversation _ client ledger _ ih =>
    have begun : (⟨client, .start, ⟨conversation, ledger⟩⟩ : Turn definition σ).heard = [] := rfl
    exact ih.trans (Heeds.of_unheard begun)
  | @handle conversation _ client ledger notification _ ih =>
    rw [Session.handle_eq]
    cases told : notification.item? with
    | none => exact ih.trans (.refl _)
    | some item =>
      have outside :
          (⟨client, .item item, ⟨conversation, ledger⟩⟩ : Turn definition σ).heard = [] := by
        cases notification <;> cases told <;> rfl
      exact ih.trans (Heeds.of_unheard outside)
  | @drain conversation _ client ledger _ ih =>
    have fed := Session.hops_feeding client ⟨conversation, ledger⟩
    rw [fed.drained]
    exact ih.trans fed.feeds.heeds

theorem round (chronicle : Chronicle origin conversation turns) (client : Client)
    (opening : Option Notification) (ledger : Ledger) :
    let round : Round definition σ := ⟨client, opening, ⟨conversation, ledger⟩⟩
    Chronicle origin round.final.conversation (turns ++ round.turns) := by
  intro round
  rw [Round.turns, ← List.append_assoc]
  cases opening with
  | none => exact .drain client _ (chronicle.start client ledger)
  | some notification =>
    have handled := chronicle.handle client ledger notification
    cases notification <;> exact .drain client _ handled

/-- From its creation on, a conversation finds for an item only what is meant for such items, and
what its machine is told of its own has been told by it before. The exception is a status that names
a reserved protocol and is not ours: for it the triggers of that protocol are looked through,
whatever their type ids. -/
theorem triggers_keep_to_their_kind {draft : Draft} (accepted : draft.check = .ok definition)
    {connection : String} {scriptsAllowed : Bool} {scripts : σ} {pins : PinStream}
    (created : Conversation.create definition connection scriptsAllowed scripts pins = .ok origin)
    (chronicle : Chronicle origin conversation turns) :
    (∀ prior turn later transition, turns = prior ++ turn :: later →
        turn.found? = some transition →
          ∃ item, turn.occasion = .item item ∧ item.Suits transition.trigger ∧
            (∀ content, item = .transient content →
              (prior.flatMap Turn.heard ++ [content]).Sublist (prior.flatMap Turn.told)) ∧
            ∀ change, item = .status change → transition.trigger.protocol.isReserved = true →
              change.protocol.isReserved = true ∧ change.ours = false) ∧
      ∀ change : Status, change.protocol.isReserved = true → change.ours = false →
        conversation.machine.find (.status change) =
          conversation.machine.resolve change.content fun trigger =>
            trigger.protocol = change.protocol := by
  have wellFormed := Definition.wellFormed_of_check accepted
  refine ⟨?_, fun change => Machine.find_reserved wellFormed conversation.machine⟩
  intro prior turn later transition parts found
  obtain ⟨item, about, fired⟩ := Turn.find_of_found? found
  have suits := Machine.find_suits fired
  refine ⟨item, about, suits, ?_, ?_⟩
  · rintro content rfl
    have heeded := chronicle.heeds.inTurn prior turn later parts
    have heard : turn.heard = [content] := by rw [Turn.heard, about]
    rw [heard, Conversation.create_queue created, List.nil_append] at heeded
    exact heeded
  · rintro change rfl reserved
    obtain ⟨protocol, rule⟩ := suits
    have other := Machine.rule_of_reserved (Machine.find_fits wellFormed _ fired).trigger reserved
    exact ⟨protocol ▸ reserved, Bool.eq_false_iff.mpr fun ours => other (rule.mpr ours)⟩

end Chronicle

/-- A conversation that runs by itself goes through such turns, round by round. -/
theorem Course.chronicle {origin : Conversation definition σ} {task : Task definition σ}
    {rounds : List (Round definition σ)} (course : Course origin task rounds) :
    Chronicle origin task.conversation (rounds.flatMap Round.turns) := by
  induction course with
  | spawn => exact .refl
  | move client isCancelled move ledger _ advanced ih =>
    cases Task.step_of_advance? advanced with
    | @begin fresh =>
      simp only [Task.round?, fresh, Option.toList_some, List.flatMap_append,
        List.flatMap_singleton]
      exact ih.round client none ledger
    | @handle item handling =>
      simp only [Task.round?, handling, Option.toList_some, List.flatMap_append,
        List.flatMap_singleton]
      exact ih.round client (some item) ledger
    | takeNotification phase _ | takeHook phase _ | noticeClosed phase _ _
    | noticeCancelled phase _ | report phase =>
      simp only [Task.round?, Option.toList_none, List.append_nil]
      exact ih
  | deliver item _ delivered ih =>
    rw [(Task.deliver?_delivered delivered).conversation]
    exact ih
  | closeNotifications _ ih => exact ih
  | closeHooks _ ih => exact ih

/-- On a ring a warden tells itself to open the gate, and the gate is opened for nothing else. -/
def Draft.warden : Draft where
  name := "warden"
  kind := .conversation
  keepMemory := false
  initial := { trigger := none, sends := [], target := "SHUT" }
  states :=
    [("SHUT",
      { transitions :=
          [{ trigger := some ⟨"hook", none, some "INPUT", none, none, false⟩
             sends := [⟨"transient", none, none, some "open", none, false⟩]
             target := "SHUT" },
            { trigger := some ⟨"transient", none, some "INPUT_EQUAL", some "open", none, false⟩
              sends := [⟨"basic_message", none, none, some "Come in!", none, false⟩]
              target := "WIDE" }]
        terminate := false }),
      ("WIDE", { transitions := [], terminate := false })]

def Transition.welcome : Transition where
  trigger := ⟨.transient, .inputEqual, none, "open", none, true⟩
  sends := [⟨.basicMessage, .data, none, "Come in!", none, true⟩]
  target := "WIDE"

def Definition.warden : Definition where
  name := "warden"
  kind := .conversation
  keepMemory := false
  initial := { sends := [], target := "SHUT" }
  states :=
    [⟨"SHUT",
      [⟨⟨.hook, .input, none, "", none, true⟩, [⟨.transient, .data, none, "open", none, true⟩],
          "SHUT"⟩,
        .welcome], false⟩,
      ⟨"WIDE", [], false⟩]
  initialIndex := ⟨0, by decide⟩
  checksum := Draft.warden.checksum

namespace Chronicle

def watching : Conversation Definition.warden Lua.State :=
  .new .warden "c" .initial (.constant (Fin.last 999999))

def ringing : Turn Definition.warden Lua.State :=
  ⟨.refusing fun _ => false, .item (.hook ⟨"c", .empty⟩), ⟨watching, .empty⟩⟩

def heeding : Turn Definition.warden Lua.State :=
  ringing.after.hop ringing.client "open" []

/-- A warden opens the gate once it has told itself to. -/
theorem warden_heeds_itself :
    Draft.warden.check = .ok Definition.warden ∧
      heeding.found? = some .welcome ∧
      ∃ conversation, Chronicle watching conversation [ringing, heeding] ∧
        "open" ∈ ringing.told := by
  have accepted : Draft.warden.check = .ok Definition.warden := rfl
  have created :
      Conversation.create .warden "c" true .initial (.constant (Fin.last 999999)) = .ok watching :=
    rfl
  have rung : Chronicle watching _ [ringing] :=
    .handle ringing.client .empty (.hook ⟨"c", .empty⟩) .refl
  have heeded : Chronicle watching _ [ringing, heeding] := .drain ringing.client _ rung
  have found : heeding.found? = some .welcome := by decide +kernel
  obtain ⟨fires, _⟩ := triggers_keep_to_their_kind accepted created heeded
  obtain ⟨item, about, _, told, _⟩ := fires [ringing] heeding [] .welcome rfl found
  have heard : ["open"].Sublist (ringing.told ++ []) := told "open" (Occasion.item.inj about).symm
  exact ⟨accepted, found, _, heeded, by simpa using heard⟩

def intruding : Turn Definition.warden Lua.State :=
  ⟨.refusing fun _ => false,
    .item (.status ⟨"c", "p", .transient, .done, false, .basicMessage "open"⟩), ⟨watching, .empty⟩⟩

theorem intruder_gets_in :
    Draft.warden.check = .ok Definition.warden ∧
      Chronicle watching intruding.after.conversation [intruding] ∧
      intruding.found? = some .welcome ∧
      Transition.welcome.trigger.protocol = .transient ∧
      intruding.after.machine.state.name = "WIDE" :=
  ⟨rfl, .handle intruding.client .empty
      (.status ⟨"c", "p", .transient, .done, false, .basicMessage "open"⟩) .refl,
    by decide +kernel, rfl, by decide +kernel⟩

end Chronicle
end Parley
