import Parley.Machine
/-!
Which events a machine evaluates, and what each of them finds.

The search for a transition and the building of sends are done here a second time with a list of
what they evaluate beside the result, and the results are shown to be the same.
-/

namespace Parley

variable {definition : Definition} {σ : Type}

structure Evaluation (σ : Type) where
  event : Event
  store : Store σ

/-- A script is only looked at where there is something to run it. -/
def Evaluation.IsEquipped (evaluation : Evaluation σ) : Prop :=
  evaluation.event.rule = .lua → evaluation.store.scripts.isSome = true

variable [Evaluator σ]

theorem Store.runScript_scripts (store : Store σ) (script input : String)
    (sentinel : Script.Sentinel) :
    (store.runScript script input sentinel).2.scripts.isSome = store.scripts.isSome := by
  unfold Store.runScript
  split <;> simp [*]

namespace Event

theorem fires_scripts (event : Event) (content : String) (store : Store σ) :
    (event.fires content store).2.scripts.isSome = store.scripts.isSome := by
  have ran := store.runScript_scripts event.data content .usual
  cases rule : event.rule <;> simp only [fires, rule, Store.write]
  case lua =>
    split
    next result => rw [result] at ran; exact ran
    next result => rw [result] at ran; exact ran

theorem content_scripts (event : Event) (input : String) (store : Store σ) :
    (event.content input store).2.scripts.isSome = store.scripts.isSome := by
  have ran := store.runScript_scripts event.data input .any
  cases rule : event.rule <;> simp only [content, rule, Store.write, Store.drawPin]
  case genPin => split <;> rfl
  case lua =>
    split
    next result => rw [result] at ran; exact ran
    next result => rw [result] at ran; exact ran

theorem build_scripts (event : Event) (input : String) (store : Store σ) :
    (event.build input store).2.scripts.isSome = store.scripts.isSome := by
  have same := event.content_scripts input store
  unfold build
  split
  next result => rw [result] at same; exact same
  next result => rw [result] at same; exact same
  next result => rw [result] at same; exact same

end Event

def watchedBuild : List Event → String → Store σ →
    (Except Fault (List Send) × Store σ) × List (Evaluation σ)
  | [], _, store => ((.ok [], store), [])
  | event :: rest, input, store =>
    match event.build input store with
    | (.error fault, after) => ((.error fault, after), [⟨event, store⟩])
    | (.ok built, after) =>
      match watchedBuild rest input after with
      | ((.error fault, final), later) => ((.error fault, final), ⟨event, store⟩ :: later)
      | ((.ok sends, final), later) =>
        ((.ok (built.toList ++ sends), final), ⟨event, store⟩ :: later)

theorem watchedBuild_fst (events : List Event) (input : String) (store : Store σ) :
    (watchedBuild events input store).1 = buildAll events input store := by
  induction events generalizing store with
  | nil => rfl
  | cons event rest ih =>
    rw [watchedBuild, buildAll]
    cases event.build input store with
    | mk result after =>
      cases result with
      | error fault => rfl
      | ok built =>
        dsimp only
        rw [← ih after]
        obtain ⟨⟨sends, final⟩, later⟩ := watchedBuild rest input after
        cases sends <;> rfl

/-- Every send that is looked at is one of those to build, and finds an evaluator if there was one
at the beginning. -/
theorem watchedBuild_evaluations {events : List Event} {input : String} {store : Store σ}
    {evaluation : Evaluation σ} (member : evaluation ∈ (watchedBuild events input store).2) :
    evaluation.event ∈ events ∧ evaluation.store.scripts.isSome = store.scripts.isSome := by
  induction events generalizing store with
  | nil => cases member
  | cons event rest ih =>
    have kept := event.build_scripts input store
    unfold watchedBuild at member
    split at member
    next =>
      rw [List.mem_singleton.mp member]
      exact ⟨List.mem_cons_self, rfl⟩
    next built after result =>
      rw [result] at kept
      have first : evaluation = ⟨event, store⟩ ∨
          evaluation ∈ (watchedBuild rest input after).2 := by
        split at member
        next later => rw [later]; exact List.mem_cons.mp member
        next later => rw [later]; exact List.mem_cons.mp member
      rcases first with rfl | later
      · exact ⟨List.mem_cons_self, rfl⟩
      · obtain ⟨inside, same⟩ := ih later
        exact ⟨List.mem_cons_of_mem _ inside, same.trans kept⟩

theorem buildAll_scripts (events : List Event) (input : String) (store : Store σ) :
    (buildAll events input store).2.scripts.isSome = store.scripts.isSome := by
  induction events generalizing store with
  | nil => rfl
  | cons event rest ih =>
    have kept := event.build_scripts input store
    unfold buildAll
    split
    next result => rw [result] at kept; exact kept
    next built after result =>
      rw [result] at kept
      have later := (ih after).trans kept
      split
      next result => rw [result] at later; exact later
      next result => rw [result] at later; exact later

namespace Machine

def watchedFiring (definition : Definition) (content : String) (admits : Event → Bool) :
    List Transition → Store σ → (Option Transition × Store σ) × List (Evaluation σ)
  | [], store => ((none, store), [])
  | transition :: rest, store =>
    if admits transition.trigger then
      match transition.trigger.fires content store with
      | (some fired, after) =>
        ((some (retarget definition transition fired.target), after),
          [⟨transition.trigger, store⟩])
      | (none, after) =>
        let (result, later) := watchedFiring definition content admits rest after
        (result, ⟨transition.trigger, store⟩ :: later)
    else watchedFiring definition content admits rest store

theorem watchedFiring_fst (definition : Definition) (content : String) (admits : Event → Bool)
    (transitions : List Transition) (store : Store σ) :
    (watchedFiring definition content admits transitions store).1 =
      firstFiring definition content admits transitions store := by
  induction transitions generalizing store with
  | nil => rfl
  | cons transition rest ih =>
    unfold watchedFiring firstFiring
    by_cases admitted : admits transition.trigger = true
    · rw [if_pos admitted, if_pos admitted]
      cases transition.trigger.fires content store with
      | mk fired? after =>
        cases fired? with
        | some fired => rfl
        | none => exact ih after
    · rw [if_neg admitted, if_neg admitted]
      exact ih store

theorem watchedFiring_evaluations {content : String} {admits : Event → Bool}
    {transitions : List Transition} {store : Store σ} {evaluation : Evaluation σ}
    (member : evaluation ∈ (watchedFiring definition content admits transitions store).2) :
    (∃ transition ∈ transitions, evaluation.event = transition.trigger) ∧
      evaluation.store.scripts.isSome = store.scripts.isSome := by
  induction transitions generalizing store with
  | nil => cases member
  | cons transition rest ih =>
    have kept := transition.trigger.fires_scripts content store
    have later {after : Store σ} (same : after.scripts.isSome = store.scripts.isSome)
        (inside : evaluation ∈ (watchedFiring definition content admits rest after).2) :
        (∃ other ∈ transition :: rest, evaluation.event = other.trigger) ∧
          evaluation.store.scripts.isSome = store.scripts.isSome := by
      obtain ⟨⟨other, present, event⟩, found⟩ := ih inside
      exact ⟨⟨other, List.mem_cons_of_mem _ present, event⟩, found.trans same⟩
    unfold watchedFiring at member
    split at member
    next =>
      split at member
      next =>
        rw [List.mem_singleton.mp member]
        exact ⟨⟨transition, List.mem_cons_self, rfl⟩, rfl⟩
      next after result =>
        rw [result] at kept
        rcases List.mem_cons.mp member with rfl | inside
        · exact ⟨⟨transition, List.mem_cons_self, rfl⟩, rfl⟩
        · exact later kept inside
    next => exact later rfl member

theorem firstFiring_scripts (content : String) (admits : Event → Bool)
    (transitions : List Transition) (store : Store σ) :
    (firstFiring definition content admits transitions store).2.scripts.isSome =
      store.scripts.isSome := by
  induction transitions generalizing store with
  | nil => rfl
  | cons transition rest ih =>
    have kept := transition.trigger.fires_scripts content store
    unfold firstFiring
    split
    next =>
      split
      next result => rw [result] at kept; exact kept
      next after result => rw [result] at kept; exact (ih after).trans kept
    next => exact ih store

theorem firstFiring_events {content : String} {admits : Event → Bool}
    {transitions : List Transition} {store : Store σ} {found : Transition}
    (fired : (firstFiring definition content admits transitions store).1 = some found) :
    ∃ transition ∈ transitions, found.events = transition.events := by
  induction transitions generalizing store with
  | nil => cases fired
  | cons transition rest ih =>
    have later {after : Store σ}
        (inside : (firstFiring definition content admits rest after).1 = some found) :
        ∃ other ∈ transition :: rest, found.events = other.events := by
      obtain ⟨other, present, same⟩ := ih inside
      exact ⟨other, List.mem_cons_of_mem _ present, same⟩
    rw [firstFiring] at fired
    split at fired
    next =>
      split at fired
      next =>
        cases fired
        refine ⟨transition, List.mem_cons_self, ?_⟩
        unfold retarget
        split
        next => split <;> rfl
        next => rfl
      next => exact later fired
    next => exact later fired

theorem firstFiring_admitted {content : String} {admits : Event → Bool}
    {transitions : List Transition} {store : Store σ} {found : Transition}
    (fired : (firstFiring definition content admits transitions store).1 = some found) :
    admits found.trigger = true := by
  induction transitions generalizing store with
  | nil => cases fired
  | cons transition rest ih =>
    rw [firstFiring] at fired
    split at fired
    next admitted =>
      split at fired
      next =>
        cases fired
        unfold retarget
        split
        next => split <;> exact admitted
        next => exact admitted
      next => exact ih fired
    next => exact ih fired

end Machine
end Parley
