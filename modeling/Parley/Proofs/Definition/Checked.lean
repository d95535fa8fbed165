import Parley.Proofs.Definition.Acceptance
/-!
What a machine can be relied on for once it has been checked: every target is a state, every event
stands on a side it may stand on, and has the data that its send cannot be built without.
-/

namespace Parley

variable {definition : Definition} {draft : Draft}

structure Event.Fits (side : Side) (event : Event) : Prop where
  protocol : event.protocol.allowedOn side = true
  rule : Event.ruleFits side event.protocol event.rule = true
  data : Event.missingData? side event.protocol event.eventData = none
  script : event.rule = .lua → Text.isBlankText event.data = false

structure Transition.Fits (definition : Definition) (transition : Transition) : Prop where
  target : definition.hasState transition.target = true
  trigger : transition.trigger.Fits .trigger
  sends : ∀ event ∈ transition.sends, event.Fits .send

structure Definition.WellFormed (definition : Definition) : Prop where
  distinct : (definition.states.map State.name).Nodup
  initial : definition.stateIndex? definition.initial.target = some definition.initialIndex
  initialSends : ∀ event ∈ definition.initial.sends, event.Fits .send
  transitions : ∀ state ∈ definition.states, ∀ transition ∈ state.transitions,
    transition.Fits definition

namespace Draft

theorem Event.ReadAs.fits {side : Side} {written : Event} {event : Parley.Event}
    (reads : written.ReadAs side event) : event.Fits side := by
  obtain ⟨protocol, rule, resolves, rfl⟩ := reads
  obtain ⟨_, _, allowed, fits, data, script⟩ := resolves_iff.mp resolves
  exact ⟨allowed, fits, data, script⟩

theorem sends_fit {written : List Event} {sends : List Parley.Event}
    (read : List.Forall₂ (Event.ReadAs .send) written sends) :
    ∀ event ∈ sends, event.Fits .send := by
  intro event member
  obtain ⟨_, _, reads⟩ := forall₂_right read member
  exact reads.fits

end Draft

namespace Definition

theorem hasState_iff (name : String) :
    definition.hasState name = true ↔ name ∈ definition.states.map State.name := by
  unfold hasState stateIndex?
  rw [List.isSome_findFinIdx?]
  simp

theorem name_of_stateIndex? {name : String} {index : Fin definition.states.length}
    (found : definition.stateIndex? name = some index) :
    (definition.states.get index).name = name := by
  have here := (List.findFinIdx?_eq_some_iff.mp found).1
  simpa using here

theorem wellFormed_of_check (accepted : draft.check = .ok definition) : definition.WellFormed := by
  obtain ⟨distinct, _, _, declared, made⟩ := Draft.check_eq_ok_iff.mp accepted
  have names := Draft.names_of_madeInto made.states
  have distinct' : (definition.states.map State.name).Nodup := by
    rw [names]
    exact distinct
  refine ⟨distinct', ?_, Draft.sends_fit made.initialSends, ?_⟩
  · rw [made.initialTarget]
    exact (Draft.findFinIdx?_name_iff distinct').mpr made.initialIndex
  · intro state member transition inside
    obtain ⟨entry, present, state⟩ := Draft.forall₂_right made.states member
    obtain ⟨written, found, like⟩ := Draft.forall₂_right state.transitions inside
    obtain ⟨_, _, trigger⟩ := like.trigger
    refine ⟨(hasState_iff _).mpr ?_, trigger.fits, Draft.sends_fit like.sends⟩
    rw [names, like.target]
    exact declared entry present written found

end Definition
end Parley
