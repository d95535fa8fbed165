import Parley.Definition.Load
import Parley.Proofs.Definition.Acceptance
import Parley.Proofs.Document.Members
/-!
The canonical text of a machine loses nothing.

What is left out of it is what the reader takes for granted, so that every machine as written is
read back from its text: two machines with one text are one machine.
-/

namespace Parley

open Document

namespace EventData

theorem toJson_ne_null (data : EventData) : data.toJson ≠ .null := by
  unfold toJson
  split <;> exact Json.noConfusion

theorem ofDocument?_toJson (data : EventData) :
    EventData.ofDocument? (ofJson data.toJson) = some data := by
  cases data with
  | backend subject => cases subject <;> rfl
  | hook data =>
    show ofFields? .hook (ofJson (.object [("data", .ofTextMap data)])) = some (.hook data)
    simp only [ofFields?]
    rw [fields?_object]
    simp [defaulted]
  | _ => rfl

end EventData

namespace Draft

section Members

variable {α : Type} (encode : α → Json)

@[simp]
theorem filter_memberIf (name other : String) (value : Option α) :
    (memberIf name encode value).filter (fun member => member.1 = other) =
      if name = other then memberIf name encode value else [] := by
  cases value <;> by_cases same : name = other <;> simp [memberIf, same]

@[simp]
theorem filter_flagIf (name other : String) (value : Bool) :
    (flagIf name value).filter (fun member => member.1 = other) =
      if name = other then flagIf name value else [] := by
  cases value <;> by_cases same : name = other <;> simp [flagIf, same]

@[simp]
theorem sole?_memberIf (name : String) (value : Option α) :
    sole? (memberIf name encode value) = some (value.map fun value => ofJson (encode value)) := by
  cases value <;> rfl

@[simp]
theorem sole?_flagIf (name : String) (value : Bool) :
    sole? (flagIf name value) = some (if value then some (ofJson (.bool true)) else none) := by
  cases value <;> rfl

end Members

@[simp]
theorem truth_of_flag (value : Bool) :
    defaulted truth? false (if value then some (ofJson (.bool true)) else none) = some value := by
  cases value <;> rfl

theorem Event.ofDocument?_toJson (event : Event) :
    Event.ofDocument? (ofJson event.toJson) = some event := by
  have data := optional_map EventData.ofDocument?_toJson EventData.toJson_ne_null event.eventData
  unfold Event.ofDocument? Event.toJson
  rw [fields?_object]
  simp [required, data]

theorem Event.toJson_ne_null (event : Event) : event.toJson ≠ .null := Json.noConfusion

theorem Transition.ofDocument?_toJson (transition : Transition) :
    Transition.ofDocument? (ofJson transition.toJson) = some transition := by
  have trigger := optional_map Event.ofDocument?_toJson Event.toJson_ne_null transition.trigger
  have sends := listOf_array Event.ofDocument?_toJson transition.sends
  unfold Transition.ofDocument? Transition.toJson
  rw [fields?_object]
  simp [required, defaulted, trigger, sends]

theorem State.ofDocument?_toJson (state : State) :
    State.ofDocument? (ofJson state.toJson) = some state := by
  have transitions := listOf_array Transition.ofDocument?_toJson state.transitions
  unfold State.ofDocument? State.toJson
  rw [fields?_object]
  simp [defaulted.eq_1 (listOf Transition.ofDocument?), transitions]

theorem statesOfDocument?_object (states : List (String × State)) :
    statesOfDocument? (ofJson (.object (states.map fun (name, state) => (name, state.toJson)))) =
      some states := by
  rw [statesOfDocument?, entries?_object, List.map_map]
  dsimp only
  rw [List.mapM_map]
  have each : (fun entry : String × Document => (State.ofDocument? entry.2).map (entry.1, ·)) ∘
      ((fun member : String × Json => (member.1, ofJson member.2)) ∘
        fun entry : String × State => (entry.1, entry.2.toJson)) = some := by
    funext entry
    simp [State.ofDocument?_toJson]
  rw [each]
  exact List.mapM_pure.trans (congrArg some (List.map_id states))

@[simp]
theorem choice?_kind (kind : MachineKind) :
    choice? MachineKind.ofName? (ofJson (.string kind.name)) = some kind := by
  cases kind <;> rfl

theorem ofDocument?_toJson (draft : Draft) : ofDocument? (ofJson draft.toJson) = some draft := by
  have initial := Transition.ofDocument?_toJson draft.initial
  have states := statesOfDocument?_object draft.states
  unfold ofDocument? toJson
  rw [fields?_object]
  simp [required, defaulted, initial, states]

section Verbal

theorem verbal_memberIf {α : Type} {encode : α → Json}
    (verbal : ∀ value, (encode value).isVerbal = true) (name : String) (value : Option α) :
    (memberIf name encode value).all (fun member => member.2.isVerbal) = true := by
  cases value with
  | none => rfl
  | some value => simp [memberIf, verbal]

@[simp]
theorem verbal_flagIf (name : String) (value : Bool) :
    (flagIf name value).all (fun member => member.2.isVerbal) = true := by
  cases value <;> rfl

theorem isVerbal_eventData (data : EventData) : data.toJson.isVerbal = true := by
  unfold EventData.toJson
  split <;> simp

theorem Event.isVerbal_toJson (event : Event) : event.toJson.isVerbal = true := by
  have texts := verbal_memberIf Json.isVerbal_string
  have data := verbal_memberIf isVerbal_eventData
  simp only [toJson, Json.isVerbal_object, List.all_cons, List.all_append, texts, data,
    verbal_flagIf, Json.isVerbal_string, Bool.and_self]

theorem Transition.isVerbal_toJson (transition : Transition) :
    transition.toJson.isVerbal = true := by
  have trigger := verbal_memberIf Event.isVerbal_toJson
  simp [toJson, trigger, Event.isVerbal_toJson]

theorem State.isVerbal_toJson (state : State) : state.toJson.isVerbal = true := by
  simp [toJson, Transition.isVerbal_toJson]

theorem isVerbal_toJson (draft : Draft) : draft.toJson.isVerbal = true := by
  simp [toJson, Transition.isVerbal_toJson, State.isVerbal_toJson]

end Verbal

theorem read?_canonical (draft : Draft) : read? .json draft.canonical = some draft := by
  have parsed := Json.parse_print draft.isVerbal_toJson
  simp only [read?, document?, canonical, parsed, Option.map_some, Option.bind_some,
    ofDocument?_toJson]

/-- A machine comes back from its canonical text as it was, so that no two machines have one text,
and the text of a machine that is accepted loads as the same machine with the same checksum. -/
theorem canonical_loses_nothing :
    (∀ draft : Draft, read? .json draft.canonical = some draft) ∧
      Function.Injective canonical ∧
      ∀ (draft : Draft) (definition : Definition), draft.check = .ok definition →
        Definition.load .json draft.canonical = .ok definition ∧
          definition.checksum = Checksum.ofText draft.canonical := by
  refine ⟨read?_canonical, ?_, ?_⟩
  · intro draft other same
    have read := read?_canonical draft
    rw [same, read?_canonical] at read
    exact (Option.some.inj read).symm
  · intro draft definition accepted
    constructor
    · rw [Definition.load, read?_canonical]
      exact accepted
    · exact (check_eq_ok_iff.mp accepted).2.2.2.2.checksum

/-- The clerk's machine comes back whole. -/
theorem clerk_comes_back : Definition.load .json Draft.clerk.canonical = .ok Definition.clerk :=
  (canonical_loses_nothing.2.2 Draft.clerk Definition.clerk Draft.clerk_check).1

end Draft
end Parley
