import Parley.Definition.Load
import Parley.Proofs.Document.Collapsed
import Parley.Proofs.Machine.StateOrder
/-!
Machines loaded from a value of JSON.

A value has the states in the order of their names. With different names they are the states of the
text in another order, so what is loaded from the value behaves as what is loaded from the text.
-/

namespace Parley

open Document

variable {repeats : Prop}

theorem keeps_texts : Keeps repeats texts? := by
  have named : ∀ document, texts? document = (readEntries text? document).map TextMap.ofList := by
    intro document
    unfold texts? readEntries
    cases document.entries? <;> rfl
  intro json inside
  have same := (readEntries_kept keeps_text json inside).map TextMap.ofList
  simp only [Option.map_map, Function.comp_def, TextMap.ofList_entries] at same
  rw [named, named]
  exact same

namespace EventData

theorem keeps_field {α β : Type} {name : String} {read : Option Document → Option α}
    (keeps : KeepsField repeats read) (make : α → β) :
    Keeps repeats fun document => (document.fields? [name]).bind fun
      | [field] => (read field).bind fun value => some (make value)
      | _ => none := by
  refine keeps_fields fun fields parts => ?_
  match fields, parts with
  | [field], parts => exact (keeps field (parts field (by simp))).bind fun _ => .refl _
  | [], _ | _ :: _ :: _, _ => exact .refl _

theorem keeps_ofFields (kind : Kind) : Keeps repeats (ofFields? kind) := by
  cases kind with
  | basicMessage => exact keeps_field keeps_text.required EventData.basicMessage
  | proof => exact keeps_field keeps_text.required EventData.proof
  | hook => exact keeps_field (keeps_texts.defaulted TextMap.empty) EventData.hook
  | backend => exact keeps_field keeps_text.optional EventData.backend
  | answer => exact keeps_field (keeps_truth.defaulted true) EventData.answer
  | issuing =>
    refine keeps_fields fun fields parts => ?_
    match fields, parts with
    | [credDefId, attrs], parts =>
      exact (keeps_text.required credDefId (parts credDefId (by simp))).bind fun _ =>
        (keeps_text.required attrs (parts attrs (by simp))).bind fun _ => .refl _
    | [], _ | [_], _ | _ :: _ :: _ :: _, _ => exact .refl _
  | email =>
    refine keeps_fields fun fields parts => ?_
    match fields, parts with
    | [recipient, source, subject], parts =>
      exact (keeps_text.required recipient (parts recipient (by simp))).bind fun _ =>
        (keeps_text.defaulted "" source (parts source (by simp))).bind fun _ =>
          (keeps_text.defaulted "" subject (parts subject (by simp))).bind fun _ => .refl _
    | [], _ | [_], _ | [_, _], _ | _ :: _ :: _ :: _ :: _, _ => exact .refl _

theorem keeps_ofDocument : Keeps repeats EventData.ofDocument? := by
  intro json inside
  cases json with
  | object members =>
    refine sameUnless_single inside (fun entries several => ?_) fun member single => ?_
    · unfold EventData.ofDocument?
      split
      next name document one => cases one; exact absurd rfl several
      next => rfl
    · obtain ⟨name, value⟩ := member
      simp only [ofJson, ofMembers, EventData.ofDocument?]
      cases Kind.ofName? name with
      | none => exact .refl _
      | some kind =>
        exact keeps_ofFields kind value fun often =>
          inside (.member (single ▸ List.mem_singleton_self _) often)
  | _ => exact .refl _

end EventData

namespace Draft

theorem keeps_event : Keeps repeats Event.ofDocument? := by
  refine keeps_fields fun fields parts => ?_
  match fields, parts with
  | [protocol, typeId, rule, data, eventData, noStatus], parts =>
    exact (keeps_text.required protocol (parts protocol (by simp))).bind fun _ =>
      (keeps_text.optional typeId (parts typeId (by simp))).bind fun _ =>
        (keeps_text.optional rule (parts rule (by simp))).bind fun _ =>
          (keeps_text.optional data (parts data (by simp))).bind fun _ =>
            (EventData.keeps_ofDocument.optional eventData (parts eventData (by simp))).bind
              fun _ => (keeps_truth.defaulted false noStatus (parts noStatus (by simp))).bind
                fun _ => .refl _
  | [], _ | [_], _ | [_, _], _ | [_, _, _], _ | [_, _, _, _], _ | [_, _, _, _, _], _
  | _ :: _ :: _ :: _ :: _ :: _ :: _ :: _, _ => exact .refl _

theorem keeps_transition : Keeps repeats Transition.ofDocument? := by
  refine keeps_fields fun fields parts => ?_
  match fields, parts with
  | [trigger, sends, target], parts =>
    exact (keeps_event.optional trigger (parts trigger (by simp))).bind fun _ =>
      (keeps_event.listOf.defaulted [] sends (parts sends (by simp))).bind fun _ =>
        (keeps_text.required target (parts target (by simp))).bind fun _ => .refl _
  | [], _ | [_], _ | [_, _], _ | _ :: _ :: _ :: _ :: _, _ => exact .refl _

theorem keeps_state : Keeps repeats State.ofDocument? := by
  refine keeps_fields fun fields parts => ?_
  match fields, parts with
  | [transitions, terminate], parts =>
    exact (keeps_transition.listOf.defaulted [] transitions (parts transitions (by simp))).bind
      fun _ => (keeps_truth.defaulted false terminate (parts terminate (by simp))).bind
        fun _ => .refl _
  | [], _ | [_], _ | _ :: _ :: _ :: _, _ => exact .refl _

/-- The machine with its states in the order of their names, and of states with one name the last
one. -/
def sorted (draft : Draft) : Draft :=
  { draft with states := (TextMap.ofList draft.states).entries }

theorem states_kept (states : Option Json)
    (inside : ∀ json, states = some json → json.Repeats → repeats) :
    SameUnless repeats
      ((required statesOfDocument? (states.map ofJson)).map fun entries =>
        (TextMap.ofList entries).entries)
      (required statesOfDocument? (states.map fun json => ofJson json.collapsed)) := by
  have named : statesOfDocument? = readEntries State.ofDocument? := by
    funext document
    unfold statesOfDocument? readEntries
    cases document.entries? <;> rfl
  cases states with
  | none => exact .refl _
  | some json =>
    rw [named]
    exact readEntries_kept keeps_state json (inside json rfl)

theorem ofDocument?_collapsed (json : Json) :
    SameUnless json.Repeats ((Draft.ofDocument? (ofJson json)).map sorted)
      (Draft.ofDocument? (ofJson json.collapsed)) := by
  have written : (Draft.ofDocument? (ofJson json)).map sorted = _ := Option.map_bind ..
  rw [written]
  refine sameUnless_fields id fun fields parts => ?_
  match fields, parts with
  | [name, kind, keepMemory, initial, states], parts =>
    refine (keeps_text.defaulted "" name (parts name (by simp))).bind_map fun name => ?_
    refine ((keeps_choice MachineKind.ofName?).defaulted MachineKind.conversation kind
      (parts kind (by simp))).bind_map fun kind => ?_
    refine (keeps_truth.defaulted false keepMemory (parts keepMemory (by simp))).bind_map
      fun keepMemory => ?_
    refine (keeps_transition.required initial (parts initial (by simp))).bind_map fun initial => ?_
    have same := (states_kept states (parts states (by simp))).bind fun states =>
      .refl (some (⟨name, kind, keepMemory, initial, states⟩ : Draft))
    rw [Option.bind_map] at same
    rw [Option.bind_eq_bind, Option.map_bind]
    exact same
  | [], _ | [_], _ | [_, _], _ | [_, _, _], _ | [_, _, _, _], _
  | _ :: _ :: _ :: _ :: _ :: _ :: _, _ => exact .refl _

theorem sorted_perm {draft : Draft} (distinct : draft.names.Nodup) :
    draft.sorted.states.Perm draft.states := by
  have apart : draft.states.Pairwise (fun a b => a.1 ≠ b.1) := List.pairwise_map.mp distinct
  have apart' : draft.sorted.states.Pairwise (fun a b => a.1 ≠ b.1) :=
    (TextMap.ofList draft.states).ordered.imp fun less => String.ne_of_lt less
  have different {a b : String × State} (names : a.1 ≠ b.1) : a ≠ b :=
    fun same => names (same ▸ rfl)
  refine (List.perm_ext_iff_of_nodup (apart'.imp different) (apart.imp different)).mpr ?_
  rintro ⟨name, state⟩
  have found := TextMap.get?_ofList draft.states name
  have backward : draft.states.reverse.Pairwise (fun a b => a.1 ≠ b.1) :=
    List.pairwise_reverse.mpr (apart.imp Ne.symm)
  calc
    (name, state) ∈ draft.sorted.states ↔
        (TextMap.ofList draft.states).get? name = some state :=
      (TextMap.findIn_eq_some_iff apart').symm
    _ ↔ (name, state) ∈ draft.states.reverse := by rw [found, TextMap.findIn_eq_some_iff backward]
    _ ↔ (name, state) ∈ draft.states := List.mem_reverse

end Draft

def Definition.SeenAlike (here there : Definition) : Prop :=
  ∀ {σ : Type} [Evaluator σ] (scripts : Option σ) (pins : PinStream) (signal : EndSignal)
    (operations : List Operation),
    (Machine.new here scripts pins signal).observe operations =
      (Machine.new there scripts pins signal).observe operations

structure LoadedAlike (here there : Except Fault Definition) : Prop where
  accepted : (∃ definition, here = .ok definition) ↔ ∃ definition, there = .ok definition
  alike : ∀ definition other, here = .ok definition → there = .ok other →
    definition.SeenAlike other

namespace Draft

/-- The value of a text reads as the text, with the states in the order of their names. -/
theorem read?_value {text : String} {json : Json} (whole : Json.parseStrict text = some json) :
    SameUnless json.Repeats ((read? .json text).map sorted) (read? .value text) := by
  have parsed : Json.parse text = some json := by
    unfold Json.parseStrict at whole
    split at whole
    next value found =>
      split at whole
      next => exact found.trans whole
      next => cases whole
    next => cases whole
  have written : read? .json text = ofDocument? (ofJson json) := by
    simp [read?, document?, parsed]
  have kept : read? .value text = ofDocument? (ofJson json.collapsed) := by
    simp [read?, document?, whole]
  rw [written, kept]
  exact ofDocument?_collapsed json

theorem loadedAlike_of_perm {draft : Draft} {states : List (String × State)}
    (same : states.Perm draft.states) :
    LoadedAlike draft.check (check { draft with states }) := by
  refine ⟨?_, fun definition other accepted accepted' σ _ scripts pins signal operations => ?_⟩
  · rw [← wellWritten_iff, ← wellWritten_iff]
    exact ⟨wellWritten_of_perm same, @wellWritten_of_perm { draft with states } _ same.symm⟩
  · exact Machine.observe_reordered (reordered_of_check same accepted accepted') scripts pins signal
      operations

end Draft

/-- In whatever order the states stand, a machine is accepted alike and does the same. So it is with
a machine that is loaded from a value, as long as nothing is lost that is written twice. -/
theorem Definition.state_order_is_irrelevant :
    (∀ (draft : Draft) (states : List (String × Draft.State)), states.Perm draft.states →
      LoadedAlike draft.check (Draft.check { draft with states })) ∧
    ∀ (text : String) (json : Json), Json.parseStrict text = some json →
      (∀ draft, Draft.read? .json text = some draft → draft.names.Nodup) →
        (Draft.read? .json text = none → ¬json.Repeats) →
          LoadedAlike (load .json text) (load .value text) := by
  refine ⟨fun draft states same => Draft.loadedAlike_of_perm same,
    fun text json whole distinct once => ?_⟩
  have same := Draft.read?_value whole
  unfold load
  cases read : Draft.read? .json text with
  | some draft =>
    have kept : Draft.read? .value text = some draft.sorted :=
      same.eq_of_some (by rw [read, Option.map_some])
    rw [kept]
    exact Draft.loadedAlike_of_perm (Draft.sorted_perm (distinct draft read))
  | none =>
    have kept : Draft.read? .value text = none := by
      rw [same.eq_of_not (once read), read, Option.map_none]
    rw [kept]
    exact ⟨Iff.rfl, fun _ _ impossible => nomatch impossible⟩

def Draft.lamp : Draft where
  name := ""
  kind := .conversation
  keepMemory := false
  initial := { trigger := none, sends := [], target := "ON" }
  states :=
    [("ON", ⟨[⟨some ⟨"hook", none, none, none, none, false⟩, [], "OFF"⟩], false⟩),
      ("OFF", ⟨[⟨some ⟨"hook", none, none, none, none, false⟩, [], "ON"⟩], false⟩)]

def Draft.lampText : String :=
  "\x7b\"initial\":\x7b\"target\":\"ON\"\x7d,\"states\":" ++
    "\x7b\"ON\":\x7b\"transitions\":[\x7b\"trigger\":" ++
    "\x7b\"protocol\":\"hook\"\x7d,\"target\":\"OFF\"\x7d]\x7d," ++
    "\"OFF\":\x7b\"transitions\":[\x7b\"trigger\":" ++
    "\x7b\"protocol\":\"hook\"\x7d,\"target\":\"ON\"\x7d]\x7d\x7d\x7d"

/-- The lamp is the same lamp when it is loaded from a value, where the states are the other way
round. -/
theorem Draft.lamp_is_the_same :
    ∃ here there, Definition.load .json lampText = .ok here ∧
      Definition.load .value lampText = .ok there ∧
      here.states.map State.name = ["ON", "OFF"] ∧ there.states.map State.name = ["OFF", "ON"] ∧
      here.SeenAlike there := by
  have whole : (Json.parseStrict lampText).isSome = true := by decide +kernel
  obtain ⟨json, whole⟩ := Option.isSome_iff_exists.mp whole
  have written : read? .json lampText = some lamp := by decide +kernel
  have kept : read? .value lampText = some lamp.sorted := by decide +kernel
  have same := Definition.state_order_is_irrelevant.2 lampText json whole
    (fun draft read => by cases written.symm.trans read; decide)
    (fun unread => by cases written.symm.trans unread)
  have here : Definition.load .json lampText = lamp.check := by rw [Definition.load, written]
  have there : Definition.load .value lampText = lamp.sorted.check := by rw [Definition.load, kept]
  rw [here, there] at same ⊢
  exact ⟨_, _, rfl, rfl, rfl, rfl, same.alike _ _ rfl rfl⟩

def Draft.twice : Draft where
  name := ""
  kind := .conversation
  keepMemory := false
  initial := { trigger := none, sends := [], target := "A" }
  states := [("A", ⟨[], false⟩), ("B", ⟨[], false⟩), ("B", ⟨[], true⟩)]

def Draft.twiceText : String :=
  "\x7b\"initial\":\x7b\"target\":\"A\"\x7d,\"states\":" ++
    "\x7b\"A\":\x7b\x7d,\"B\":\x7b\x7d,\"B\":\x7b\"terminate\":true\x7d\x7d\x7d"

/-- The text is refused for that, and the value of it is not, for it has lost one of the two. -/
theorem Draft.value_hides_duplicate :
    (Json.parseStrict twiceText).isSome = true ∧
      Definition.load .json twiceText = .error (.duplicateState "B") ∧
      (∃ definition, Definition.load .value twiceText = .ok definition) ∧
      ¬LoadedAlike (Definition.load .json twiceText) (Definition.load .value twiceText) := by
  have whole : (Json.parseStrict twiceText).isSome = true := by decide +kernel
  have written : read? .json twiceText = some twice := by decide +kernel
  have kept : read? .value twiceText = some twice.sorted := by decide +kernel
  have refused : Definition.load .json twiceText = .error (.duplicateState "B") := by
    rw [Definition.load, written]
    rfl
  have accepted : ∃ definition, Definition.load .value twiceText = .ok definition := by
    rw [Definition.load, kept]
    exact ⟨_, rfl⟩
  refine ⟨whole, refused, accepted, fun alike => ?_⟩
  obtain ⟨definition, impossible⟩ := alike.accepted.mpr accepted
  rw [refused] at impossible
  cases impossible

end Parley
