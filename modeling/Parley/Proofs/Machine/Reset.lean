import Parley.Lua.Evaluator
import Parley.Proofs.Machine.Operation
import Parley.Proofs.Machine.Reached
/-!
Back at its initial state a machine forgets.

Besides its place a machine is its memory, the memory of before, and whether it has ended. A step to
the initial state leaves nothing of these, and where no event has a script it makes no difference
what there is to run scripts.
-/

namespace Parley

variable {definition : Definition} {draft : Draft} {σ : Type}

def Store.equip (store : Store σ) (scripts : Option σ) : Store σ := { store with scripts }

def Operation.Scriptless : Operation → Prop
  | .build transition _ => ∀ send ∈ transition.sends, send.rule ≠ .lua
  | .start | .find _ | .step _ | .rollback => True

section Equip

variable [Evaluator σ]

theorem Event.fires_equip {event : Event} (scriptless : event.rule ≠ .lua) (content : String)
    (store : Store σ) (scripts : Option σ) :
    event.fires content (store.equip scripts) =
      ((event.fires content store).1, (event.fires content store).2.equip scripts) := by
  cases rule : event.rule <;> simp only [fires, rule]
  case lua => exact absurd rule scriptless
  all_goals rfl

theorem Event.content_equip {event : Event} (scriptless : event.rule ≠ .lua) (input : String)
    (store : Store σ) (scripts : Option σ) :
    event.content input (store.equip scripts) =
      ((event.content input store).1, (event.content input store).2.equip scripts) := by
  cases rule : event.rule <;> simp only [content, rule]
  case lua => exact absurd rule scriptless
  case genPin => split <;> rfl
  all_goals rfl

theorem Event.build_equip {event : Event} (scriptless : event.rule ≠ .lua) (input : String)
    (store : Store σ) (scripts : Option σ) :
    event.build input (store.equip scripts) =
      ((event.build input store).1, (event.build input store).2.equip scripts) := by
  unfold build
  rw [event.content_equip scriptless]
  rcases event.content input store with ⟨_ | _ | _, _⟩ <;> rfl

theorem buildAll_equip {events : List Event} (scriptless : ∀ event ∈ events, event.rule ≠ .lua)
    (input : String) (store : Store σ) (scripts : Option σ) :
    buildAll events input (store.equip scripts) =
      ((buildAll events input store).1, (buildAll events input store).2.equip scripts) := by
  induction events generalizing store with
  | nil => rfl
  | cons event rest ih =>
    obtain ⟨first, later⟩ := List.forall_mem_cons.mp scriptless
    rw [buildAll, buildAll, event.build_equip first]
    rcases event.build input store with ⟨_ | built, after⟩
    next => rfl
    next =>
      simp only [ih later after]
      rcases buildAll rest input after with ⟨_ | _, _⟩ <;> rfl

namespace Machine

theorem firstFiring_equip {transitions : List Transition}
    (scriptless : ∀ transition ∈ transitions, transition.trigger.rule ≠ .lua) (content : String)
    (admits : Event → Bool) (store : Store σ) (scripts : Option σ) :
    firstFiring definition content admits transitions (store.equip scripts) =
      ((firstFiring definition content admits transitions store).1,
        (firstFiring definition content admits transitions store).2.equip scripts) := by
  induction transitions generalizing store with
  | nil => rfl
  | cons transition rest ih =>
    obtain ⟨first, later⟩ := List.forall_mem_cons.mp scriptless
    rw [firstFiring, firstFiring, Event.fires_equip first]
    split
    next =>
      rcases transition.trigger.fires content store with ⟨_ | _, after⟩
      next => exact ih later after
      next => rfl
    next => exact ih later store

def equip (machine : Machine definition σ) (scripts : Option σ) : Machine definition σ :=
  { machine with store := machine.store.equip scripts }

omit [Evaluator σ] in
theorem scriptless_of_needsEvaluator (scriptless : definition.needsEvaluator = false) :
    ∀ event ∈ definition.events, event.rule ≠ .lua := by
  intro event member
  have none := List.any_eq_false.mp scriptless event member
  simpa using none

omit [Evaluator σ] in
theorem noteEnd_equip (machine : Machine definition σ) (scripts : Option σ) :
    (machine.equip scripts).noteEnd = machine.noteEnd.equip scripts := by
  by_cases ends : (machine.state.terminal && !machine.terminated) = true
  · simp only [noteEnd, if_pos ends]
    exact if_pos ends
  · simp only [noteEnd, if_neg ends]
    exact if_neg ends

omit [Evaluator σ] in
theorem enter_equip (machine : Machine definition σ) (next : Fin definition.states.length)
    (scripts : Option σ) :
    (machine.equip scripts).enter next = (machine.enter next).equip scripts :=
  noteEnd_equip
    { machine with
      current := next
      store :=
        { machine.store with
          memory :=
            if next = definition.initialIndex && !definition.keepMemory then .empty
            else machine.memory }
      checkpoint := none } scripts

omit [Evaluator σ] in
theorem rollback_equip (machine : Machine definition σ) (scripts : Option σ) :
    (machine.equip scripts).rollback = machine.rollback.equip scripts := by
  have same : (machine.equip scripts).checkpoint = machine.checkpoint := rfl
  unfold rollback
  rw [same]
  cases machine.checkpoint <;> rfl

theorem find_equip (scriptless : ∀ transition ∈ definition.states.flatMap State.transitions,
      transition.trigger.rule ≠ .lua) (machine : Machine definition σ) (item : Item)
    (scripts : Option σ) :
    (machine.equip scripts).find item =
      ((machine.find item).1, (machine.find item).2.equip scripts) := by
  have triggers : ∀ transition ∈ machine.state.transitions, transition.trigger.rule ≠ .lua :=
    fun transition member => scriptless transition
      (List.mem_flatMap.mpr ⟨machine.state, List.get_mem _ _, member⟩)
  have searched : firstFiring definition item.content item.admits machine.state.transitions
      (machine.store.equip scripts) = _ := firstFiring_equip triggers _ _ _ _
  simp only [find_eq, resolve]
  rw [show (machine.equip scripts).store = machine.store.equip scripts from rfl,
    show (machine.equip scripts).state = machine.state from rfl, searched]
  rfl

theorem perform_equip (scriptless : definition.needsEvaluator = false)
    (machine : Machine definition σ) (scripts : Option σ) {operation : Operation}
    (plain : operation.Scriptless) :
    (machine.equip scripts).perform operation =
      ((machine.perform operation).1, (machine.perform operation).2.equip scripts) := by
  have declared := scriptless_of_needsEvaluator scriptless
  cases operation with
  | start =>
    have sends : ∀ event ∈ definition.initial.sends, event.rule ≠ .lua :=
      fun event member => declared event (List.mem_append_left _ member)
    have built := buildAll_equip sends "" machine.store scripts
    simp only [perform, start, equip, built]
  | find item =>
    have triggers : ∀ transition ∈ definition.states.flatMap State.transitions,
        transition.trigger.rule ≠ .lua := by
      intro transition member
      obtain ⟨state, inside, here⟩ := List.mem_flatMap.mp member
      exact declared _ (Definition.mem_events_of_state inside here List.mem_cons_self)
    simp only [perform, find_equip triggers]
  | build transition input =>
    have built := buildAll_equip plain input machine.store scripts
    simp only [perform, buildSends, equip, built]
  | step transition =>
    simp only [perform, step]
    cases definition.stateIndex? transition.target with
    | none => rfl
    | some next => simp only [enter_equip]
  | rollback =>
    simp only [perform, rollback_equip]

/-- What is seen of a machine when no script is run does not depend on what there is to run them. -/
theorem observe_equip (scriptless : definition.needsEvaluator = false)
    (machine : Machine definition σ) (scripts : Option σ) {operations : List Operation}
    (plain : ∀ operation ∈ operations, operation.Scriptless) :
    (machine.equip scripts).observe operations = machine.observe operations := by
  symm
  refine observe_of_related (fun here there => there = here.equip scripts) ?_ rfl
  rintro here _ rfl operation member
  rw [perform_equip scriptless here scripts (plain operation member)]
  exact ⟨rfl, rfl⟩

theorem performAll_scripts (scriptless : definition.needsEvaluator = false)
    (machine : Machine definition σ) {operations : List Operation}
    (plain : ∀ operation ∈ operations, operation.Scriptless) :
    (machine.performAll operations).store.scripts = machine.store.scripts := by
  refine performAll_induction (motive := fun after => after.store.scripts = machine.store.scripts)
    operations rfl fun here same operation member => ?_
  have performed := perform_equip scriptless here here.store.scripts (plain operation member)
  have after : (here.perform operation).2 = (here.perform operation).2.equip here.store.scripts :=
    congrArg Prod.snd performed
  rw [after]
  exact same

omit [Evaluator σ] in
theorem noteEnd_of_lives {machine : Machine definition σ}
    (lives : machine.noteEnd.terminated = false) : machine.noteEnd = machine := by
  unfold noteEnd at lives ⊢
  split at lives
  next => cases lives
  next goes => exact if_neg goes

omit [Evaluator σ] in
theorem enter_of_lives {machine : Machine definition σ} {next : Fin definition.states.length}
    (lives : (machine.enter next).terminated = false) :
    machine.enter next =
      { machine with
        current := next
        store :=
          { machine.store with
            memory :=
              if next = definition.initialIndex && !definition.keepMemory then .empty
              else machine.memory }
        checkpoint := none } :=
  noteEnd_of_lives lives

theorem perform_signal {machine : Machine definition σ} {operation : Operation}
    (lives : (machine.perform operation).2.terminated = false) :
    machine.terminated = false ∧ (machine.perform operation).2.signal = machine.signal := by
  have of_same {after : Machine definition σ} (same : SamePlace machine after)
      (lives : after.terminated = false) :
      machine.terminated = false ∧ after.signal = machine.signal :=
    ⟨same.terminated ▸ lives, same.signal⟩
  cases operation with
  | start => exact of_same ⟨rfl, rfl, rfl⟩ lives
  | find item => exact of_same (machine.find_samePlace item) lives
  | build transition input => exact of_same (machine.buildSends_samePlace transition input) lives
  | rollback => exact of_same machine.rollback_samePlace lives
  | step transition =>
    simp only [perform, step] at lives ⊢
    cases found : definition.stateIndex? transition.target with
    | none =>
      simp only [found] at lives
      exact ⟨lives, rfl⟩
    | some next =>
      simp only [found] at lives
      have entered := enter_of_lives lives
      rw [entered] at lives
      have told := congrArg Machine.signal entered
      exact ⟨lives, told⟩

theorem performAll_signal {machine : Machine definition σ} {operations : List Operation}
    (lives : (machine.performAll operations).terminated = false) :
    (machine.performAll operations).signal = machine.signal := by
  have kept := performAll_induction
    (motive := fun after => after.terminated = false → after.signal = machine.signal)
    operations (fun _ => rfl) fun here same operation _ lives => by
      obtain ⟨lived, told⟩ := perform_signal lives
      exact told.trans (same lived)
  exact kept lives

omit [Evaluator σ] in
/-- Back at its initial state a machine is a new one, if it forgets and has not ended. -/
theorem step_initial (wellFormed : definition.WellFormed) (forgets : definition.keepMemory = false)
    {machine after : Machine definition σ} {transition : Transition}
    (back : transition.target = definition.initial.target)
    (taken : machine.step transition = .ok after) (lives : after.terminated = false) :
    machine.terminated = false ∧
      after = new definition machine.store.scripts machine.store.pins machine.signal := by
  rw [step, back, wellFormed.initial] at taken
  cases taken
  have entered := enter_of_lives lives
  rw [entered] at lives ⊢
  refine ⟨lives, ?_⟩
  simp only [new, forgets, decide_true, Bool.not_false, Bool.and_self, if_true]
  rw [lives]

omit [Evaluator σ] in
/-- Any other step keeps the memory, and so does every step of a machine that is to keep it. -/
theorem step_memory (wellFormed : definition.WellFormed) {machine after : Machine definition σ}
    {transition : Transition} (taken : machine.step transition = .ok after)
    (keeps : definition.keepMemory = true ∨ transition.target ≠ definition.initial.target) :
    after.memory = machine.memory := by
  unfold step at taken
  split at taken
  next next found =>
    cases taken
    rw [enter_memory, if_neg]
    rw [Bool.and_eq_true, decide_eq_true_eq, index_initial_iff wellFormed found]
    rintro ⟨back, forgets⟩
    rcases keeps with kept | away
    · rw [kept] at forgets
      cases forgets
    · exact away back
  next => cases taken

/-- A machine that forgets is as good as new once it is back at its initial state: whatever is done
with it from then on, the same is seen of a new machine that draws the same PINs. Other steps change
no register. -/
theorem return_forgets (accepted : draft.check = .ok definition) :
    (definition.needsEvaluator = false → definition.keepMemory = false →
      ∀ (scripts : Option σ) (pins : PinStream) (signal : EndSignal) (earlier : List Operation)
        (transition : Transition) (after : Machine definition σ),
        transition.target = definition.initial.target →
        ((new definition scripts pins signal).performAll earlier).step transition = .ok after →
        after.terminated = false →
          (∀ later, after.observe later =
            (new definition after.store.scripts after.store.pins signal).observe later) ∧
          ((∀ operation ∈ earlier, operation.Scriptless) → after.store.scripts = scripts) ∧
          ∀ (others : Option σ) later, (∀ operation ∈ later, operation.Scriptless) →
            after.observe later =
              (new definition others after.store.pins signal).observe later) ∧
    (definition.needsEvaluator = false →
      ∀ (machine : Machine definition σ) (item : Item) (found : Transition),
        (machine.find item).1 = some found → ∀ input, (Operation.build found input).Scriptless) ∧
    ∀ (machine after : Machine definition σ) (transition : Transition),
      machine.step transition = .ok after →
        definition.keepMemory = true ∨ transition.target ≠ definition.initial.target →
          after.memory = machine.memory := by
  have wellFormed := Definition.wellFormed_of_check accepted
  refine ⟨fun scriptless forgets scripts pins signal earlier transition after back taken lives =>
    ?_, fun scriptless machine item found here input => ?_, fun _ _ _ => step_memory wellFormed⟩
  · have stepped := step_scripts taken
    obtain ⟨lived, renewed⟩ := step_initial wellFormed forgets back taken lives
    have told : ((new definition scripts pins signal).performAll earlier).signal = signal :=
      performAll_signal lived
    have fresh : after = new definition after.store.scripts after.store.pins signal := by
      rw [renewed, told]
      rfl
    refine ⟨fun later => ?_, fun plain => ?_, fun others later plain => ?_⟩
    · exact congrArg (fun machine => machine.observe later) fresh
    · exact stepped.trans (performAll_scripts scriptless _ plain)
    · have same := observe_equip scriptless after others plain
      rw [← same, fresh]
      rfl
  · intro send member
    exact scriptless_of_needsEvaluator scriptless send
      (find_events here send (List.mem_cons_of_mem _ member))

end Machine

end Equip

def Draft.locker : Draft where
  name := "locker"
  kind := .conversation
  keepMemory := false
  initial := { trigger := none, sends := [], target := "OPEN" }
  states :=
    [("LOCKED",
      { transitions :=
          [{ trigger := some ⟨"basic_message", none, some "VALIDATE_EQUAL", some "PIN", none, false⟩
             sends := []
             target := "OPEN" }]
        terminate := false }),
      ("OPEN",
        { transitions :=
            [{ trigger := some ⟨"basic_message", none, some "INPUT_SAVE", some "OWNER", none, false⟩
               sends := [⟨"basic_message", none, some "GEN_PIN", none, none, false⟩]
               target := "LOCKED" }]
          terminate := false })]

def Transition.locking : Transition where
  trigger := ⟨.basicMessage, .inputSave, none, "OWNER", none, true⟩
  sends := [⟨.basicMessage, .genPin, none, "", none, true⟩]
  target := "LOCKED"

def Transition.opening : Transition where
  trigger := ⟨.basicMessage, .validateEqual, none, "PIN", none, true⟩
  sends := []
  target := "OPEN"

def Definition.locker : Definition where
  name := "locker"
  kind := .conversation
  keepMemory := false
  initial := { sends := [], target := "OPEN" }
  states := [⟨"LOCKED", [.opening], false⟩, ⟨"OPEN", [.locking], false⟩]
  initialIndex := ⟨1, by decide⟩
  checksum := Draft.locker.checksum

def lockAndOpen : List Operation :=
  [.find (.status (.message "c" "p" "Ann")), .build .locking "Ann", .step .locking,
    .find (.status (.message "c" "p" "999999"))]

def Machine.locker : Machine .locker Lua.State :=
  .new .locker none (.constant (Fin.last 999999)) .awaited

/-- The PIN and the name of the owner are there before the last step, and gone after it. -/
theorem locker_is_open_again :
    (Machine.locker.performAll lockAndOpen).memory.keys = ["OWNER", "PIN"] ∧
      ∃ after, (Machine.locker.performAll lockAndOpen).step .opening = .ok after ∧
        ∀ later, after.observe later =
          (Machine.new .locker after.store.scripts after.store.pins .awaited).observe later := by
  refine ⟨by decide +kernel, _, rfl, ?_⟩
  have accepted : Draft.locker.check = .ok Definition.locker := rfl
  exact ((Machine.return_forgets accepted).1 rfl rfl none (.constant (Fin.last 999999)) .awaited
    lockAndOpen .opening _ rfl rfl rfl).1

end Parley
