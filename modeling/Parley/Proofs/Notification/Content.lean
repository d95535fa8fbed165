import Parley.Proofs.Machine.FirstMatch
import Parley.Proofs.Notification.RoundTrip
import Parley.Proofs.Text.Bytes
/-!
What triggers see of the values of a proof, and what is kept of them.

The content is made from a map that the values are put into, and the registers are written one value
after the other. Where a name comes up more than once both are left with its last value.
-/

namespace Parley

def ProofValue.last? (values : List ProofValue) (name : String) : Option String :=
  (values.reverse.find? (·.name = name)).map ProofValue.value

/-- The text is a JSON object that says just what is held under each name, every name once and in
bytewise order. -/
def Json.Records (text : String) (held : String → Option String) : Prop :=
  ∃ members : List (String × String),
    parseStrict text = some (object (members.map fun member => (member.1, string member.2))) ∧
      members.Pairwise (fun a b => Text.bytes a.1 < Text.bytes b.1) ∧
        ∀ name value, (name, value) ∈ members ↔ held name = some value

section Values

theorem get?_storeValues_eq (memory : Registers) (values : List ProofValue) (name : String) :
    (storeValues memory values).get? name =
      (ProofValue.last? values name).or (memory.get? name) := by
  rw [storeValues, List.foldl_eq_foldr_reverse, ProofValue.last?]
  induction values.reverse with
  | nil => rfl
  | cons value rest ih =>
    rw [List.foldr_cons, TextMap.get?_insert, ih, List.find?_cons]
    by_cases same : value.name = name
    · simp [same]
    · simp [same, Ne.symm same]

theorem ProofValue.get?_byName (values : List ProofValue) (name : String) :
    (byName values).get? name = last? values name :=
  TextMap.get?_ofList_map _ values name

theorem Json.records_ofTextMap (map : TextMap String) :
    Records (ofTextMap map).print map.get? := by
  have flat : (ofTextMap map).depth ≤ 1 := by
    apply (depth_object_le_iff 0).mpr
    intro member found
    obtain ⟨entry, _, rfl⟩ := List.mem_map.mp found
    exact Nat.le_refl 0
  have distinct : map.entries.Pairwise (fun a b => a.1 ≠ b.1) := map.ordered.imp String.ne_of_lt
  apply Exists.intro map.entries
  refine ⟨?_, ?_, ?_⟩
  · exact parseStrict_print (isVerbal_ofTextMap map) (Nat.le_trans flat (by decide))
  · exact map.ordered.imp Text.lt_iff_bytes_lt.mp
  · intro name value
    exact (TextMap.findIn_eq_some_iff distinct).symm

theorem ProofValue.records_content (values : List ProofValue) :
    Json.Records (content values) (last? values) := by
  have held : (byName values).get? = last? values := by
    funext name
    exact get?_byName values name
  rw [content, ← held]
  exact Json.records_ofTextMap (byName values)

end Values

namespace Machine

variable {definition : Definition} {σ : Type} [Evaluator σ]

/-- Where no script is tried, nothing but the accepted values is written. -/
theorem memory_onQuestion {machine : Machine definition σ} {asked : Question} {found : Transition}
    (resolved : (machine.onQuestion asked).1 = some found)
    (accepts : found.trigger.rule = .acceptAndInputValues)
    (scriptless : ∀ evaluation ∈ machine.evaluatedToFind (.question asked),
      evaluation.event.rule ≠ .lua) :
    (machine.onQuestion asked).2.memory = storeValues machine.memory asked.values := by
  rcases machine.store.misses_or_holds asked.content (machine.candidates (.question asked)) with
    misses | ⟨before, declared, later, split, misses, holds⟩
  · obtain ⟨seen, _, search⟩ := search_of_misses misses
    have nothing : (machine.onQuestion asked).1 = none :=
      congrArg Prod.fst (find_of_search search).1
    rw [resolved] at nothing
    cases nothing
  · have first : machine.FirstMatch (.question asked) before declared later :=
      ⟨split, misses, holds⟩
    obtain ⟨hit, seen, follows, events, search⟩ := search_of_match first
    obtain ⟨result, evaluated⟩ := find_of_search search
    have same : hit = found := by
      have hits : (machine.onQuestion asked).1 = some hit := congrArg Prod.fst result
      exact Option.some.inj (hits.symm.trans resolved)
    subst same
    have rules : ∀ candidate ∈ before ++ [declared], candidate.trigger.rule ≠ .lua := by
      intro candidate member
      have here : candidate.trigger ∈ seen.map Evaluation.event := by
        rw [events]
        exact List.mem_map_of_mem member
      obtain ⟨evaluation, inside, equal⟩ := List.mem_map.mp here
      rw [← equal]
      apply scriptless
      rwa [evaluated]
    have left : machine.store.leftBy asked.content before = machine.store :=
      Store.leftBy_of_rules fun candidate member => rules candidate (List.mem_append_left _ member)
    have rule : declared.trigger.rule = .acceptAndInputValues := follows.trigger ▸ accepts
    have silent : declared.trigger.fired asked.content machine.store = machine.store := by
      rw [Event.fired, if_neg (by simp [rule]), Event.tried_of_rule (by simp [rule])]
    show (machine.find (.question asked)).2.memory = _
    rw [result]
    simp only [Item.content, left, silent, memory, keptBy, Item.keep, accepts, if_true]

/-- The content that triggers see of the values of a proof is a JSON object with each name once and
with its last value, and to accept the values leaves just these in the registers. The content of a
hook is its data. -/
theorem values_are_stored_as_seen :
    (∀ asked : Question, Json.Records asked.content (ProofValue.last? asked.values)) ∧
    (∀ (change : Status) (values : List ProofValue), change.payload = .proof values →
      Json.Records change.content (ProofValue.last? values)) ∧
    (∀ hook : HookData, Json.Records hook.content hook.data.get?) ∧
    ∀ (machine : Machine definition σ) (asked : Question) (found : Transition),
      (machine.onQuestion asked).1 = some found →
      found.trigger.rule = .acceptAndInputValues →
      (∀ evaluation ∈ machine.evaluatedToFind (.question asked), evaluation.event.rule ≠ .lua) →
      ∀ name, (machine.onQuestion asked).2.memory.get? name =
        (ProofValue.last? asked.values name).or (machine.memory.get? name) := by
  refine ⟨?_, ?_, ?_, ?_⟩
  · intro asked
    exact ProofValue.records_content asked.values
  · intro change values proof
    rw [Status.content, proof]
    exact ProofValue.records_content values
  · intro hook
    exact Json.records_ofTextMap hook.data
  · intro machine asked found resolved accepts scriptless name
    rw [memory_onQuestion resolved accepts scriptless, get?_storeValues_eq]

end Machine

section Registrar

/-- A registrar takes all values, unless there are none. -/
def Transition.registrar : List Transition :=
  [⟨⟨.answer, .inputEqual, none, "\x7b\x7d", none, true⟩, [], "DESK"⟩,
    ⟨⟨.answer, .acceptAndInputValues, none, "", none, true⟩, [], "DESK"⟩]

def Definition.registrar : Definition where
  name := "registrar"
  kind := .conversation
  keepMemory := true
  initial := { sends := [], target := "DESK" }
  states := [⟨"DESK", Transition.registrar, false⟩]
  initialIndex := ⟨0, by decide⟩
  checksum := ""

def Machine.filing : Machine .registrar Lua.State where
  current := ⟨0, by decide⟩
  store :=
    { memory := (TextMap.empty.insert "email" "old").insert "desk" "3"
      scripts := none
      pins := .constant (Fin.last 999999) }
  checkpoint := none
  signal := .none
  terminated := false

def application : Question :=
  ⟨"q", "c", [⟨"é\"", "z@b.c", none⟩, ⟨"email", "a@b.c", none⟩, ⟨"email", "d\n", some "cd-1"⟩]⟩

theorem registrar_files_application :
    ∃ found, (Machine.filing.onQuestion application).1 = some found ∧
      found.trigger.rule = .acceptAndInputValues ∧
      (∀ evaluation ∈ Machine.filing.evaluatedToFind (.question application),
        evaluation.event.rule ≠ .lua) ∧
      application.content = "\x7b\"email\":\"d\\n\",\"é\\\"\":\"z@b.c\"\x7d" ∧
      Json.Records application.content (ProofValue.last? application.values) ∧
      (Machine.filing.onQuestion application).2.memory.get? "email" = some "d\n" ∧
      (Machine.filing.onQuestion application).2.memory.get? "desk" = some "3" := by
  have resolved : (Machine.filing.onQuestion application).1 = some Transition.registrar[1] := by
    rfl
  have scriptless : ∀ evaluation ∈ Machine.filing.evaluatedToFind (.question application),
      evaluation.event.rule ≠ .lua := by
    decide +kernel
  obtain ⟨question, _, _, kept⟩ :=
    @Machine.values_are_stored_as_seen .registrar Lua.State _
  have stored := kept Machine.filing application _ resolved rfl scriptless
  refine ⟨_, resolved, rfl, scriptless, by decide +kernel, question application, ?_, ?_⟩
  · rw [stored]
    decide +kernel
  · rw [stored]
    decide +kernel

end Registrar
end Parley
