import Parley.Machine
import Parley.Proofs.Definition.Checked
/-!
What a machine can be told, and what looking for a transition leaves as it was.

The five entry points share one search. It moves neither the place of the machine nor its end, and
it keeps the memory of before, so that a transition that is not taken can be undone.
-/

namespace Parley

inductive Item where
  | status (change : Status)
  | question (asked : Question)
  | hook (data : HookData)
  | backend (message : BackendMessage)
  /-- What the machine has told itself. -/
  | transient (content : String)
  deriving DecidableEq

namespace Item

def content : Item → String
  | status change => change.content
  | question asked => asked.content
  | hook data => data.content
  | backend message => message.content
  | transient content => content

def question? : Item → Option Question
  | question asked => some asked
  | _ => none

def admits : Item → Event → Bool
  | status change => Machine.admitsStatus change
  | question _ => fun trigger => trigger.protocol = .answer
  | hook _ => fun trigger => trigger.protocol = .hook
  | backend message => Machine.admitsBackend message
  | transient _ => fun trigger => trigger.protocol = .transient

def keep : Item → Option Transition → Registers → Registers
  | question asked, some transition, memory =>
    if transition.trigger.rule = .acceptAndInputValues then storeValues memory asked.values
    else memory
  | _, _, memory => memory

end Item

namespace Machine

variable {definition : Definition} {σ : Type} [Evaluator σ]

def find (machine : Machine definition σ) : Item → Option Transition × Machine definition σ
  | .status change => machine.onStatus change
  | .question asked => machine.onQuestion asked
  | .hook data => machine.onHook data
  | .backend message => machine.onBackend message
  | .transient content => machine.onTransient content

omit [Evaluator σ] in
theorem retarget_fits {transition : Transition} (fits : transition.Fits definition)
    (target : Option String) : (retarget definition transition target).Fits definition := by
  cases target with
  | none => exact fits
  | some target =>
    by_cases declared : definition.hasState target = true
    · simp only [retarget, if_pos declared]
      exact ⟨declared, fits.trigger, fits.sends⟩
    · simp only [retarget, if_neg declared]
      exact fits

theorem firstFiring_fits {content : String} {admits : Event → Bool} {transitions : List Transition}
    {store : Store σ} (fits : ∀ transition ∈ transitions, transition.Fits definition)
    {found : Transition}
    (fired : (firstFiring definition content admits transitions store).1 = some found) :
    found.Fits definition := by
  induction transitions generalizing store with
  | nil => cases fired
  | cons transition rest ih =>
    have later : ∀ other ∈ rest, other.Fits definition :=
      fun other member => fits other (List.mem_cons_of_mem _ member)
    rw [firstFiring] at fired
    split at fired
    next =>
      split at fired
      next => cases fired; exact retarget_fits (fits transition List.mem_cons_self) _
      next => exact ih later fired
    next => exact ih later fired

/-- All entry points search alike. Only a question may leave more in the memory. -/
theorem find_eq (machine : Machine definition σ) (item : Item) :
    machine.find item =
      let (found, after) := machine.resolve item.content item.admits
      (found,
        { after with
          store := { after.store with memory := item.keep found after.memory } }) := by
  cases item with
  | question asked =>
    simp only [find, onQuestion, Item.content, Item.admits]
    generalize machine.resolve asked.content
      (fun trigger => decide (trigger.protocol = .answer)) = resolved
    obtain ⟨found, after⟩ := resolved
    cases found with
    | none => rfl
    | some transition =>
      simp only [Item.keep]
      split <;> rfl
  | _ => rfl

theorem find_fits (wellFormed : definition.WellFormed) (machine : Machine definition σ)
    {item : Item} {transition : Transition}
    (found : (machine.find item).1 = some transition) : transition.Fits definition := by
  rw [find_eq] at found
  exact firstFiring_fits
    (fun other member => wellFormed.transitions machine.state (List.get_mem _ _) other member) found

structure SamePlace (before after : Machine definition σ) : Prop where
  current : after.current = before.current
  terminated : after.terminated = before.terminated
  signal : after.signal = before.signal

omit [Evaluator σ] in
theorem SamePlace.trans {first second third : Machine definition σ}
    (earlier : SamePlace first second) (later : SamePlace second third) :
    SamePlace first third :=
  ⟨later.current.trans earlier.current, later.terminated.trans earlier.terminated,
    later.signal.trans earlier.signal⟩

theorem find_samePlace (machine : Machine definition σ) (item : Item) :
    SamePlace machine (machine.find item).2 := by
  rw [find_eq]
  exact ⟨rfl, rfl, rfl⟩

theorem find_checkpoint (machine : Machine definition σ) (item : Item) :
    (machine.find item).2.checkpoint = some machine.memory := by
  rw [find_eq]
  rfl

theorem buildSends_samePlace (machine : Machine definition σ) (transition : Transition)
    (input : String) : SamePlace machine (machine.buildSends transition input).2 :=
  ⟨rfl, rfl, rfl⟩

omit [Evaluator σ] in
theorem rollback_samePlace (machine : Machine definition σ) :
    SamePlace machine machine.rollback := by
  unfold rollback
  split <;> exact ⟨rfl, rfl, rfl⟩

omit [Evaluator σ] in
theorem rollback_memory {machine : Machine definition σ} {memory : Registers}
    (kept : machine.checkpoint = some memory) : machine.rollback.memory = memory := by
  unfold rollback
  rw [kept]
  rfl

omit [Evaluator σ] in
theorem noteEnd_state (machine : Machine definition σ) :
    machine.noteEnd.current = machine.current ∧ machine.noteEnd.store = machine.store := by
  unfold noteEnd
  split <;> exact ⟨rfl, rfl⟩

omit [Evaluator σ] in
theorem index_initial_iff (wellFormed : definition.WellFormed) {target : String}
    {next : Fin definition.states.length} (found : definition.stateIndex? target = some next) :
    next = definition.initialIndex ↔ target = definition.initial.target := by
  constructor
  · intro same
    rw [← Definition.name_of_stateIndex? found, same,
      Definition.name_of_stateIndex? wellFormed.initial]
  · intro same
    rw [same, wellFormed.initial] at found
    exact (Option.some.inj found).symm

def remembered (definition : Definition) (target : String) (memory : Registers) : Registers :=
  if target = definition.initial.target ∧ definition.keepMemory = false then .empty else memory

omit [Evaluator σ] in
theorem enter_memory (machine : Machine definition σ) (next : Fin definition.states.length) :
    (machine.enter next).memory =
      if next = definition.initialIndex && !definition.keepMemory then .empty
      else machine.memory :=
  congrArg Store.memory (noteEnd_state _).2

omit [Evaluator σ] in
theorem step_of_fits (wellFormed : definition.WellFormed) {transition : Transition}
    (fits : transition.Fits definition) (machine : Machine definition σ) :
    ∃ after, machine.step transition = .ok after ∧ after.state.name = transition.target ∧
      after.memory = remembered definition transition.target machine.memory := by
  obtain ⟨next, found⟩ := Option.isSome_iff_exists.mp fits.target
  refine ⟨machine.enter next, by simp only [step, found], ?_, ?_⟩
  · have here : (machine.enter next).current = next := (noteEnd_state _).1
    rw [state, here]
    exact Definition.name_of_stateIndex? found
  · rw [enter_memory]
    simp only [remembered, Bool.and_eq_true, decide_eq_true_eq, Bool.not_eq_true',
      index_initial_iff wellFormed found]

end Machine
end Parley
