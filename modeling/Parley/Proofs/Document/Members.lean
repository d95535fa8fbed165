import Parley.Document.OfJson
import Parley.Proofs.Json.RoundTrip
/-!
Fields read from an object of JSON.

A field reads as the one member of its name, whatever the other members are. So a member that is
written only sometimes reads as what it was written for.
-/

namespace Parley

open Document

namespace Json

theorem itemsAreVerbal_eq_all (items : List Json) : itemsAreVerbal items = items.all isVerbal := by
  induction items with
  | nil => rfl
  | cons item rest ih => rw [itemsAreVerbal, ih, List.all_cons]

theorem membersAreVerbal_eq_all (members : List (String × Json)) :
    membersAreVerbal members = members.all fun member => member.2.isVerbal := by
  induction members with
  | nil => rfl
  | cons member rest ih => rw [membersAreVerbal, ih, List.all_cons]

@[simp]
theorem isVerbal_array (items : List Json) : (array items).isVerbal = items.all isVerbal :=
  itemsAreVerbal_eq_all items

@[simp]
theorem isVerbal_object (members : List (String × Json)) :
    (object members).isVerbal = members.all fun member => member.2.isVerbal :=
  membersAreVerbal_eq_all members

@[simp]
theorem isVerbal_string (text : String) : (string text).isVerbal = true := rfl

@[simp]
theorem isVerbal_bool (value : Bool) : (bool value).isVerbal = true := rfl

@[simp]
theorem isVerbal_ofTextMap (map : TextMap String) : (ofTextMap map).isVerbal = true := by
  simp [ofTextMap]

end Json

namespace Document

theorem ofItems_eq_map (items : List Json) : ofItems items = items.map ofJson := by
  induction items with
  | nil => rfl
  | cons item rest ih => rw [ofItems, ih, List.map_cons]

theorem ofMembers_eq_map (members : List (String × Json)) :
    ofMembers members = members.map fun member => (some member.1, ofJson member.2) := by
  induction members with
  | nil => rfl
  | cons member rest ih => rw [ofMembers, ih, List.map_cons]

theorem entries?_object (members : List (String × Json)) :
    (ofJson (.object members)).entries? =
      some (members.map fun member => (member.1, ofJson member.2)) := by
  rw [ofJson, ofMembers_eq_map, entries?, List.mapM_map]
  exact List.mapM_pure

def sole? : List (String × Json) → Option (Option Document)
  | [] => some none
  | [(_, value)] => some (some (ofJson value))
  | _ => none

@[simp]
theorem sole?_singleton (name : String) (value : Json) :
    sole? [(name, value)] = some (some (ofJson value)) := rfl

theorem fields?_object (names : List String) (members : List (String × Json)) :
    (ofJson (.object members)).fields? names =
      names.mapM fun name => sole? (members.filter fun member => member.1 = name) := by
  have entries := entries?_object members
  rw [ofJson] at entries ⊢
  simp only [fields?, entries]
  congr 1
  funext name
  have same : (members.filter fun member => member.1 = name) =
      members.filter ((fun entry : String × Document => decide (entry.1 = name)) ∘
        fun member => (member.1, ofJson member.2)) := rfl
  rw [List.filter_map, same]
  -- Of the members with the name, those that are read are as many as those that are written.
  generalize List.filter _ members = found
  rcases found with _ | ⟨⟨_, value⟩, _ | ⟨next, rest⟩⟩ <;> rfl

@[simp]
theorem text?_string (text : String) : text? (ofJson (.string text)) = some text := rfl

@[simp]
theorem truth?_bool (value : Bool) : truth? (ofJson (.bool value)) = some value := rfl

theorem optional_map {α : Type} {encode : α → Json} {read : Document → Option α}
    (decodes : ∀ value, read (ofJson (encode value)) = some value)
    (solid : ∀ value, encode value ≠ .null) (value : Option α) :
    optional read (value.map fun value => ofJson (encode value)) = some value := by
  cases value with
  | none => rfl
  | some value =>
    have read := decodes value
    have present := solid value
    rw [Option.map_some]
    cases written : encode value with
    | null => exact absurd written present
    | _ =>
      rw [written] at read
      simp only [ofJson] at read ⊢
      simp [optional, read]

@[simp]
theorem optional_string (value : Option String) :
    optional text? (value.map fun text => ofJson (.string text)) = some value :=
  optional_map text?_string (fun _ => Json.noConfusion) value

@[simp]
theorem texts?_ofTextMap (map : TextMap String) : texts? (ofJson (.ofTextMap map)) = some map := by
  rw [texts?, Json.ofTextMap, entries?_object, List.map_map]
  dsimp only
  rw [List.mapM_map]
  have same : (fun entry : String × Document => (text? entry.2).map (entry.1, ·)) ∘
      ((fun member : String × Json => (member.1, ofJson member.2)) ∘
        fun entry : String × String => (entry.1, Json.string entry.2)) = some := rfl
  have every : map.entries.mapM some = some map.entries :=
    List.mapM_pure.trans (congrArg some (List.map_id map.entries))
  rw [same, every, Option.map_some, TextMap.ofList_entries]

theorem listOf_array {α : Type} {encode : α → Json} {read : Document → Option α}
    (decodes : ∀ value, read (ofJson (encode value)) = some value) (values : List α) :
    listOf read (ofJson (.array (values.map encode))) = some values := by
  rw [ofJson, listOf, items?, ofItems_eq_map, List.map_map]
  dsimp only
  rw [List.mapM_map]
  have same : read ∘ ofJson ∘ encode = some := funext decodes
  rw [same]
  exact List.mapM_pure.trans (congrArg some (List.map_id values))

end Document
end Parley
