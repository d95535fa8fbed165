import Mathlib.Data.List.Nodup
import Parley.Proofs.Machine.Evaluation
import Parley.Proofs.Machine.Item
import Parley.Proofs.Send.Build
/-!
What holds of a machine in whatever order it is started, told things, built for, moved and taken
back. Sends are built, and steps are made, only for transitions that the machine itself has found;
it may have found them at any time before.
-/

namespace Parley

variable {definition : Definition} {draft : Draft} {σ : Type}

theorem Definition.stateIndex?_get (distinct : (definition.states.map State.name).Nodup)
    (index : Fin definition.states.length) :
    definition.stateIndex? (definition.states.get index).name = some index := by
  refine List.findFinIdx?_eq_some_iff.mpr ⟨by simp, fun earlier before same => ?_⟩
  have names : definition.states[earlier].name = (definition.states.get index).name := by
    simpa using same
  have states := List.inj_on_of_nodup_map distinct (List.get_mem _ _) (List.get_mem _ _) names
  have equal : earlier = index := (List.Nodup.get_inj_iff (distinct.of_map _)).mp states
  exact Nat.lt_irrefl index (equal ▸ before)

theorem Definition.mem_events_of_state {state : State} (declared : state ∈ definition.states)
    {transition : Transition} (inside : transition ∈ state.transitions) {event : Event}
    (member : event ∈ transition.events) : event ∈ definition.events :=
  List.mem_append_right _
    (List.mem_flatMap.mpr ⟨state, declared, List.mem_flatMap.mpr ⟨transition, inside, member⟩⟩)

variable [Evaluator σ]

namespace Machine

def evaluatedToStart (machine : Machine definition σ) : List (Evaluation σ) :=
  (watchedBuild definition.initial.sends "" machine.store).2

def evaluatedToFind (machine : Machine definition σ) (item : Item) : List (Evaluation σ) :=
  (watchedFiring definition item.content item.admits machine.state.transitions machine.store).2

def evaluatedToBuild (machine : Machine definition σ) (transition : Transition) (input : String) :
    List (Evaluation σ) :=
  (watchedBuild transition.sends input machine.store).2

/-- What a machine can become: with the transitions that it has found on the way and the events
that it has looked at, the last ones first. -/
inductive Reached (origin : Machine definition σ) :
    Machine definition σ → List Transition → List (Evaluation σ) → Prop where
  | refl : Reached origin origin [] []
  | start {machine : Machine definition σ} {known : List Transition}
      {seen : List (Evaluation σ)} :
      Reached origin machine known seen →
        Reached origin machine.start.2 known (machine.evaluatedToStart ++ seen)
  | find {machine : Machine definition σ} {known : List Transition}
      {seen : List (Evaluation σ)} (item : Item) :
      Reached origin machine known seen →
        Reached origin (machine.find item).2 ((machine.find item).1.toList ++ known)
          (machine.evaluatedToFind item ++ seen)
  | build {machine : Machine definition σ} {known : List Transition}
      {seen : List (Evaluation σ)} {transition : Transition} (input : String) :
      Reached origin machine known seen → transition ∈ known →
        Reached origin (machine.buildSends transition input).2 known
          (machine.evaluatedToBuild transition input ++ seen)
  | step {machine after : Machine definition σ} {known : List Transition}
      {seen : List (Evaluation σ)} {transition : Transition} :
      Reached origin machine known seen → transition ∈ known →
        machine.step transition = .ok after → Reached origin after known seen
  | rollback {machine : Machine definition σ} {known : List Transition}
      {seen : List (Evaluation σ)} :
      Reached origin machine known seen → Reached origin machine.rollback known seen

section Scripts

theorem start_scripts (machine : Machine definition σ) :
    machine.start.2.store.scripts.isSome = machine.store.scripts.isSome :=
  buildAll_scripts _ _ _

theorem find_scripts (machine : Machine definition σ) (item : Item) :
    (machine.find item).2.store.scripts.isSome = machine.store.scripts.isSome := by
  rw [find_eq]
  exact firstFiring_scripts _ _ _ _

theorem buildSends_scripts (machine : Machine definition σ) (transition : Transition)
    (input : String) :
    (machine.buildSends transition input).2.store.scripts.isSome =
      machine.store.scripts.isSome :=
  buildAll_scripts _ _ _

omit [Evaluator σ] in
theorem rollback_scripts (machine : Machine definition σ) :
    machine.rollback.store.scripts = machine.store.scripts := by
  unfold rollback
  split <;> rfl

omit [Evaluator σ] in
theorem step_scripts {machine after : Machine definition σ} {transition : Transition}
    (taken : machine.step transition = .ok after) :
    after.store.scripts = machine.store.scripts := by
  unfold step at taken
  split at taken
  next next _ =>
    cases taken
    unfold enter
    rw [(noteEnd_state _).2]
  next => cases taken

end Scripts

theorem find_events {machine : Machine definition σ} {item : Item} {transition : Transition}
    (found : (machine.find item).1 = some transition) :
    ∀ event ∈ transition.events, event ∈ definition.events := by
  rw [find_eq] at found
  obtain ⟨declared, inside, same⟩ := firstFiring_events found
  intro event member
  exact Definition.mem_events_of_state (List.get_mem _ _) inside (same ▸ member)

namespace Reached

variable {origin machine : Machine definition σ} {known : List Transition}
  {seen : List (Evaluation σ)}

/-- The invariant of what has been found: it fits the definition, and its events are events of the
definition. -/
theorem found (wellFormed : definition.WellFormed) (reached : Reached origin machine known seen) :
    ∀ transition ∈ known, transition.Fits definition ∧
      ∀ event ∈ transition.events, event ∈ definition.events := by
  -- Only a search adds to what has been found; all other operations leave it alone.
  induction reached with
  | refl => simp
  | start _ ih => exact ih
  | @find machine _ _ item _ ih =>
    intro transition member
    rcases List.mem_append.mp member with fresh | old
    · have here := Option.mem_toList.mp fresh
      exact ⟨find_fits wellFormed machine here, find_events here⟩
    · exact ih transition old
  | build _ _ _ ih => exact ih
  | step _ _ _ ih => exact ih
  | rollback _ ih => exact ih

theorem scripts (reached : Reached origin machine known seen) :
    machine.store.scripts.isSome = origin.store.scripts.isSome := by
  induction reached with
  | refl => rfl
  | @start machine _ _ _ ih => rw [machine.start_scripts, ih]
  | @find machine _ _ item _ ih => rw [machine.find_scripts, ih]
  | @build machine _ _ transition input _ _ ih => rw [machine.buildSends_scripts, ih]
  | step _ _ taken ih => rw [step_scripts taken, ih]
  | @rollback machine _ _ _ ih => rw [machine.rollback_scripts, ih]

theorem evaluated (wellFormed : definition.WellFormed)
    (reached : Reached origin machine known seen) :
    ∀ evaluation ∈ seen, evaluation.event ∈ definition.events ∧
      evaluation.store.scripts.isSome = origin.store.scripts.isSome := by
  induction reached with
  | refl => simp
  | start earlier ih =>
    intro evaluation member
    rcases List.mem_append.mp member with fresh | old
    · obtain ⟨inside, same⟩ := watchedBuild_evaluations fresh
      exact ⟨List.mem_append_left _ inside, same.trans earlier.scripts⟩
    · exact ih evaluation old
  | find item earlier ih =>
    intro evaluation member
    rcases List.mem_append.mp member with fresh | old
    · obtain ⟨⟨transition, inside, event⟩, same⟩ := watchedFiring_evaluations fresh
      refine ⟨?_, same.trans earlier.scripts⟩
      exact Definition.mem_events_of_state (List.get_mem _ _) inside
        (event ▸ List.mem_cons_self)
    · exact ih evaluation old
  | build input earlier own ih =>
    intro evaluation member
    rcases List.mem_append.mp member with fresh | old
    · obtain ⟨inside, same⟩ := watchedBuild_evaluations fresh
      refine ⟨?_, same.trans earlier.scripts⟩
      exact ((earlier.found wellFormed) _ own).2 _ (List.mem_cons_of_mem _ inside)
    · exact ih evaluation old
  | step _ _ _ ih => exact ih
  | rollback _ ih => exact ih

/-- Where machines with scripts are made with an evaluator, every script finds it. -/
theorem equipped (wellFormed : definition.WellFormed)
    (supplied : definition.needsEvaluator = true → origin.store.scripts.isSome = true)
    (reached : Reached origin machine known seen) :
    ∀ evaluation ∈ seen, evaluation.IsEquipped := by
  intro evaluation member scripted
  obtain ⟨inside, same⟩ := reached.evaluated wellFormed evaluation member
  have needed : definition.needsEvaluator = true :=
    List.any_eq_true.mpr ⟨evaluation.event, inside, by simpa using scripted⟩
  exact same.trans (supplied needed)

end Reached

theorem start_fault (wellFormed : definition.WellFormed) {machine : Machine definition σ}
    {fault : Fault} (failed : machine.start.1 = .error fault) : fault = .badTemplate :=
  buildAll_fault wellFormed.initialSends failed

theorem buildSends_fault {machine : Machine definition σ} {transition : Transition}
    (fits : transition.Fits definition) {input : String} {fault : Fault}
    (failed : (machine.buildSends transition input).1 = .error fault) : fault = .badTemplate :=
  buildAll_fault fits.sends failed

end Machine

end Parley
