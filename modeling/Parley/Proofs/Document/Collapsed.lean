import Parley.Proofs.Definition.Acceptance
import Parley.Proofs.Document.Members
/-!
Reading a value of JSON that has been kept as a value.

A value puts the members of its objects in the order of their names, and of members with one name it
keeps the last. A reader that takes members by their names finds the same in it, unless there is a
name that is written twice: then it may read what it refuses as it is written.
-/

namespace Parley

open Document

/-- The second reading is the first one, but where the first comes to nothing because of something
that is written twice. -/
def SameUnless (repeats : Prop) {α : Type} (written kept : Option α) : Prop :=
  kept = written ∨ written = none ∧ repeats

namespace SameUnless

variable {repeats : Prop} {α β γ : Type}

theorem refl (reading : Option α) : SameUnless repeats reading reading := .inl rfl

theorem eq_of_some {written kept : Option α} {value : α} (same : SameUnless repeats written kept)
    (read : written = some value) : kept = some value := by
  rcases same with equal | ⟨nothing, _⟩
  · exact equal.trans read
  · rw [nothing] at read
    cases read

theorem eq_of_not {written kept : Option α} (same : SameUnless repeats written kept)
    (once : ¬repeats) : kept = written :=
  same.resolve_right fun lost => once lost.2

theorem bind {written kept : Option α} (same : SameUnless repeats written kept)
    {f g : α → Option β} (later : ∀ value, SameUnless repeats (f value) (g value)) :
    SameUnless repeats (written.bind f) (kept.bind g) := by
  rcases same with rfl | ⟨rfl, often⟩
  · cases kept with
    | none => exact .refl none
    | some value => exact later value
  · exact .inr ⟨rfl, often⟩

theorem bind_map {written kept : Option α} (same : SameUnless repeats written kept)
    {f : α → Option β} {g : α → Option γ} {adapt : β → γ}
    (later : ∀ value, SameUnless repeats ((f value).map adapt) (g value)) :
    SameUnless repeats ((written.bind f).map adapt) (kept.bind g) := by
  rw [Option.map_bind]
  exact same.bind later

theorem map {written kept : Option α} (same : SameUnless repeats written kept) (f : α → β) :
    SameUnless repeats (written.map f) (kept.map f) := by
  rcases same with rfl | ⟨rfl, often⟩
  · exact .refl _
  · exact .inr ⟨rfl, often⟩

end SameUnless

section Lists

variable {α β : Type}

theorem mapM_eq_some_iff {read : α → Option β} {items : List α} {results : List β} :
    items.mapM read = some results ↔
      List.Forall₂ (fun item result => read item = some result) items results := by
  induction items generalizing results with
  | nil => cases results <;> simp
  | cons item rest ih =>
    rw [List.mapM_cons, Option.bind_eq_bind, Option.bind_eq_some_iff]
    constructor
    · rintro ⟨result, first, made⟩
      obtain ⟨others, later, made⟩ := Option.bind_eq_some_iff.mp made
      cases made
      exact List.Forall₂.cons first (ih.mp later)
    · intro read
      obtain _ | ⟨first, later⟩ := read
      exact ⟨_, first, Option.bind_eq_some_iff.mpr ⟨_, ih.mpr later, rfl⟩⟩

theorem mapM_eq_none_iff {read : α → Option β} {items : List α} :
    items.mapM read = none ↔ ∃ item ∈ items, read item = none := by
  have every : (∃ results, items.mapM read = some results) ↔
      ∀ item ∈ items, ∃ result, read item = some result := by
    simp only [mapM_eq_some_iff, Draft.exists_forall₂_iff]
  rw [Option.eq_none_iff_forall_ne_some, ← not_iff_not]
  simp only [ne_eq, not_forall, not_not, not_exists, not_and, every]
  simp only [← ne_eq, Option.ne_none_iff_exists']

theorem mapM_option_map {γ : Type} (read : α → Option β) (f : β → γ) (items : List α) :
    items.mapM (fun item => (read item).map f) = (items.mapM read).map (List.map f) := by
  induction items with
  | nil => rfl
  | cons item rest ih =>
    rw [List.mapM_cons, List.mapM_cons, ih]
    cases read item <;> cases rest.mapM read <;> rfl

theorem SameUnless.mapM {repeats : Prop} {read other : α → Option β} {items : List α}
    (each : ∀ item ∈ items, SameUnless repeats (read item) (other item)) :
    SameUnless repeats (items.mapM read) (items.mapM other) := by
  induction items with
  | nil => exact .refl _
  | cons item rest ih =>
    obtain ⟨first, later⟩ := List.forall_mem_cons.mp each
    rw [List.mapM_cons, List.mapM_cons]
    exact first.bind fun value => (ih later).bind fun values => .refl _

end Lists

namespace TextMap

variable {α β : Type}

theorem findIn_eq_filter (key : String) (entries : List (String × α)) :
    findIn key entries =
      (entries.filter fun entry => entry.1 = key).head?.map Prod.snd := by
  induction entries with
  | nil => rfl
  | cons entry rest ih =>
    obtain ⟨name, value⟩ := entry
    rw [findIn, List.filter_cons]
    by_cases same : name = key
    · simp [same]
    · rw [if_neg (Ne.symm same), ih]
      simp [same]

theorem get?_ofList_eq_filter (entries : List (String × α)) (key : String) :
    (ofList entries).get? key =
      (entries.filter fun entry => entry.1 = key).getLast?.map Prod.snd := by
  rw [get?_ofList, findIn_eq_filter, List.filter_reverse, List.head?_reverse]

theorem filter_of_distinct {entries : List (String × α)}
    (distinct : entries.Pairwise (fun a b => a.1 ≠ b.1)) (key : String) :
    entries.filter (fun entry => entry.1 = key) = (findIn key entries).toList.map (key, ·) := by
  induction entries with
  | nil => rfl
  | cons entry rest ih =>
    obtain ⟨name, value⟩ := entry
    obtain ⟨apart, later⟩ := List.pairwise_cons.mp distinct
    rw [findIn, List.filter_cons]
    by_cases same : name = key
    · have none : rest.filter (fun entry => entry.1 = key) = [] := by
        rw [List.filter_eq_nil_iff]
        intro entry member found
        exact apart entry member (same.trans (of_decide_eq_true found).symm)
      simp [same, none]
    · rw [if_neg (Ne.symm same), ← ih later]
      simp [same]

theorem filter_entries (map : TextMap α) (key : String) :
    map.entries.filter (fun entry => entry.1 = key) = (map.get? key).toList.map (key, ·) :=
  filter_of_distinct (map.ordered.imp fun less => String.ne_of_lt less) key

theorem forall₂_insertIn {related : α → β → Prop} {left : List (String × α)}
    {right : List (String × β)}
    (alike : List.Forall₂ (fun a b => a.1 = b.1 ∧ related a.2 b.2) left right) (key : String)
    {value : α} {value' : β} (same : related value value') :
    List.Forall₂ (fun a b => a.1 = b.1 ∧ related a.2 b.2) (insertIn key value left)
      (insertIn key value' right) := by
  induction alike with
  | nil => exact .cons ⟨rfl, same⟩ .nil
  | @cons head head' rest rest' first later ih =>
    obtain ⟨name, held⟩ := head
    obtain ⟨name', held'⟩ := head'
    obtain rfl : name = name' := first.1
    rw [insertIn, insertIn]
    split
    next => exact .cons ⟨rfl, same⟩ (.cons first later)
    next =>
      split
      next => exact .cons ⟨rfl, same⟩ later
      next => exact .cons first ih

theorem forall₂_ofList (related : α → β → Prop) {left : List (String × α)}
    {right : List (String × β)}
    (alike : List.Forall₂ (fun a b => a.1 = b.1 ∧ related a.2 b.2) left right) :
    List.Forall₂ (fun a b => a.1 = b.1 ∧ related a.2 b.2) (ofList left).entries
      (ofList right).entries := by
  have fold : ∀ (map : TextMap α) (map' : TextMap β),
      List.Forall₂ (fun a b => a.1 = b.1 ∧ related a.2 b.2) map.entries map'.entries →
        List.Forall₂ (fun a b => a.1 = b.1 ∧ related a.2 b.2)
          (left.foldl (fun map entry => map.insert entry.1 entry.2) map).entries
          (right.foldl (fun map entry => map.insert entry.1 entry.2) map').entries := by
    induction alike with
    | nil => exact fun _ _ held => held
    | cons first _ ih =>
      intro map map' held
      apply ih
      obtain ⟨name, value⟩ := first
      dsimp only
      rw [name]
      exact forall₂_insertIn held _ value
  exact fold empty empty .nil

end TextMap

namespace Json

inductive Repeats : Json → Prop
  | here {members : List (String × Json)} :
      ¬(members.map Prod.fst).Nodup → Repeats (.object members)
  | item {items : List Json} {item : Json} : item ∈ items → Repeats item → Repeats (.array items)
  | member {members : List (String × Json)} {member : String × Json} :
      member ∈ members → Repeats member.2 → Repeats (.object members)

theorem collapsedItems_eq_map (items : List Json) :
    collapsedItems items = items.map collapsed := by
  induction items with
  | nil => rfl
  | cons item rest ih => rw [collapsedItems, ih, List.map_cons]

def kept (members : List (String × Json)) : TextMap Json :=
  TextMap.ofList (members.map fun member => (member.1, member.2.collapsed))

theorem collapsedMembers_eq_kept (members : List (String × Json)) :
    collapsedMembers .empty members = kept members := by
  have from_seen : ∀ seen, collapsedMembers seen members =
      (members.map fun member => (member.1, member.2.collapsed)).foldl
        (fun map entry => map.insert entry.1 entry.2) seen := by
    induction members with
    | nil => exact fun _ => rfl
    | cons member rest ih => exact fun seen => ih _
  exact from_seen .empty

theorem collapsed_array (items : List Json) :
    (array items).collapsed = array (items.map collapsed) := by
  rw [collapsed, collapsedItems_eq_map]

theorem collapsed_object (members : List (String × Json)) :
    (object members).collapsed = object (kept members).entries := by
  rw [collapsed, collapsedMembers_eq_kept]

theorem get?_kept (members : List (String × Json)) (name : String) :
    (kept members).get? name =
      (members.filter fun member => member.1 = name).getLast?.map fun member =>
        member.2.collapsed := by
  rw [kept, TextMap.get?_ofList_eq_filter, List.filter_map, List.getLast?_map, Option.map_map]
  rfl

theorem mem_kept {members : List (String × Json)} (once : (members.map Prod.fst).Nodup)
    {member : String × Json} (inside : member ∈ members) :
    (member.1, member.2.collapsed) ∈ (kept members).entries := by
  have distinct : members.Pairwise (fun a b => a.1 ≠ b.1) := List.pairwise_map.mp once
  have sole : members.filter (fun other => other.1 = member.1) = [member] := by
    rw [TextMap.filter_of_distinct distinct, (TextMap.findIn_eq_some_iff distinct).mpr inside]
    rfl
  have found := get?_kept members member.1
  rw [sole] at found
  exact (TextMap.findIn_eq_some_iff
    ((kept members).ordered.imp fun less => String.ne_of_lt less)).mp found

end Json

namespace Document

def soleMember? : List (String × Json) → Option (Option Json)
  | [] => some none
  | [(_, value)] => some (some value)
  | _ => none

theorem sole?_eq_map (found : List (String × Json)) :
    sole? found = (soleMember? found).map (Option.map ofJson) := by
  rcases found with _ | ⟨_, _ | _⟩ <;> rfl

variable {repeats : Prop} {α β : Type}

/-- A reader that does not care whether it is given what is written or what is kept of it. -/
def Keeps (repeats : Prop) (read : Document → Option α) : Prop :=
  ∀ json : Json, (json.Repeats → repeats) →
    SameUnless repeats (read (ofJson json)) (read (ofJson json.collapsed))

def KeepsField (repeats : Prop) (read : Option Document → Option α) : Prop :=
  ∀ field : Option Json, (∀ json, field = some json → json.Repeats → repeats) →
    SameUnless repeats (read (field.map ofJson))
      (read (field.map fun json => ofJson json.collapsed))

theorem Keeps.required {read : Document → Option α} (keeps : Keeps repeats read) :
    KeepsField repeats (Document.required read) := by
  intro field inside
  cases field with
  | none => exact .refl _
  | some json => exact keeps json (inside json rfl)

theorem Keeps.defaulted {read : Document → Option α} (keeps : Keeps repeats read) (default : α) :
    KeepsField repeats (Document.defaulted read default) := by
  intro field inside
  cases field with
  | none => exact .refl _
  | some json => exact keeps json (inside json rfl)

theorem Keeps.optional {read : Document → Option α} (keeps : Keeps repeats read) :
    KeepsField repeats (Document.optional read) := by
  intro field inside
  cases field with
  | none => exact .refl _
  | some json =>
    have same := keeps json (inside json rfl)
    cases json with
    | array items => exact same.map some
    | object members => exact same.map some
    | _ => exact .refl _

theorem keeps_text : Keeps repeats text? := by
  intro json _
  cases json <;> exact .refl _

theorem keeps_truth : Keeps repeats truth? := by
  intro json _
  cases json <;> exact .refl _

theorem Keeps.listOf {read : Document → Option α} (keeps : Keeps repeats read) :
    Keeps repeats (Document.listOf read) := by
  intro json inside
  cases json with
  | array items =>
    rw [Json.collapsed_array]
    simp only [ofJson, Document.listOf, items?, ofItems_eq_map, List.map_map, List.mapM_map]
    exact SameUnless.mapM fun item member =>
      keeps item fun often => inside (.item member often)
  | object members => exact .refl _
  | _ => exact .refl _

theorem sameUnless_sole {members : List (String × Json)}
    (inside : (Json.object members).Repeats → repeats) (name : String) :
    SameUnless repeats
      ((soleMember? (members.filter fun member => member.1 = name)).map
        (Option.map fun json => ofJson json.collapsed))
      (sole? ((Json.kept members).entries.filter fun member => member.1 = name)) := by
  rw [TextMap.filter_entries, Json.get?_kept]
  generalize written : members.filter (fun member => member.1 = name) = found
  rcases found with _ | ⟨⟨other, value⟩, _ | ⟨next, rest⟩⟩
  · exact .refl _
  · exact .refl _
  · refine .inr ⟨rfl, inside (.here fun once => ?_)⟩
    have distinct : members.Pairwise (fun a b => a.1 ≠ b.1) := List.pairwise_map.mp once
    have few := congrArg List.length (TextMap.filter_of_distinct distinct name)
    rw [written] at few
    cases found : TextMap.findIn name members <;> simp [found] at few

theorem mem_of_soleMember? {members : List (String × Json)} {name : String} {json : Json}
    (found : soleMember? (members.filter fun member => member.1 = name) = some (some json)) :
    ∃ member ∈ members, member.2 = json := by
  generalize written : members.filter (fun member => member.1 = name) = among at found
  rcases among with _ | ⟨member, _ | _⟩ <;> cases found
  have inside : member ∈ members.filter (fun member => member.1 = name) := by simp [written]
  exact ⟨member, (List.mem_filter.mp inside).1, rfl⟩

/-- The fields of an object are those of what is kept, each in what is kept of it. -/
theorem fields_kept {json : Json} (inside : json.Repeats → repeats) (names : List String) :
    ∃ found : Option (List (Option Json)),
      (ofJson json).fields? names = found.map (List.map (Option.map ofJson)) ∧
        SameUnless repeats
          (found.map (List.map (Option.map fun json => ofJson json.collapsed)))
          ((ofJson json.collapsed).fields? names) ∧
        ∀ fields, found = some fields → ∀ field ∈ fields, ∀ part, field = some part →
          part.Repeats → repeats := by
  cases json with
  | array items =>
    rw [Json.collapsed_array]
    simp only [ofJson, fields?, ofItems_eq_map, List.length_map]
    by_cases few : items.length ≤ names.length
    · refine ⟨some (items.map some ++ List.replicate (names.length - items.length) none), ?_, ?_,
        ?_⟩
      · simp [if_pos few]
      · exact .inl (by simp [if_pos few])
      · rintro _ ⟨⟩ field member part rfl often
        rcases List.mem_append.mp member with present | absent
        · obtain ⟨item, owned, same⟩ := List.mem_map.mp present
          cases same
          exact inside (.item owned often)
        · cases List.eq_of_mem_replicate absent
    · exact ⟨none, by rw [if_neg few]; rfl, .inl (by rw [if_neg few]; rfl), by rintro _ ⟨⟩⟩
  | object members =>
    refine ⟨names.mapM fun name => soleMember? (members.filter fun member => member.1 = name),
      ?_, ?_, ?_⟩
    · simp only [fields?_object, sole?_eq_map, mapM_option_map]
    · rw [Json.collapsed_object, fields?_object, ← mapM_option_map]
      exact SameUnless.mapM fun name _ => sameUnless_sole inside name
    · intro fields found field member part same often
      obtain ⟨name, _, here⟩ := Draft.forall₂_right (mapM_eq_some_iff.mp found) member
      obtain ⟨owner, owned, rfl⟩ := mem_of_soleMember? (here.trans (congrArg some same))
      exact inside (.member owned often)
  | _ => exact ⟨none, rfl, .refl _, by rintro _ ⟨⟩⟩

theorem sameUnless_fields {json : Json} (inside : json.Repeats → repeats) {names : List String}
    {read other : List (Option Document) → Option α}
    (each : ∀ fields : List (Option Json),
      (∀ field ∈ fields, ∀ part, field = some part → part.Repeats → repeats) →
        SameUnless repeats (read (fields.map (Option.map ofJson)))
          (other (fields.map (Option.map fun json => ofJson json.collapsed)))) :
    SameUnless repeats (((ofJson json).fields? names).bind read)
      (((ofJson json.collapsed).fields? names).bind other) := by
  obtain ⟨found, written, kept, parts⟩ := fields_kept inside names
  rw [written]
  rcases kept with same | ⟨lost, often⟩
  · rw [same]
    cases found with
    | none => exact .refl _
    | some fields => exact each fields (parts fields rfl)
  · rw [Option.map_eq_none_iff.mp lost]
    exact .inr ⟨rfl, often⟩

theorem keeps_fields {names : List String} {read : List (Option Document) → Option α}
    (each : ∀ fields : List (Option Json),
      (∀ field ∈ fields, ∀ part, field = some part → part.Repeats → repeats) →
        SameUnless repeats (read (fields.map (Option.map ofJson)))
          (read (fields.map (Option.map fun json => ofJson json.collapsed)))) :
    Keeps repeats fun document => (document.fields? names).bind read :=
  fun _ inside => sameUnless_fields inside each

def readEntries (read : Document → Option α) (document : Document) : Option (List (String × α)) :=
  document.entries?.bind fun entries => entries.mapM fun entry =>
    (read entry.2).map (entry.1, ·)

theorem readEntries_object (read : Document → Option α) (members : List (String × Json)) :
    readEntries read (ofJson (.object members)) =
      members.mapM fun member => (read (ofJson member.2)).map (member.1, ·) := by
  rw [readEntries, entries?_object, Option.bind_some, List.mapM_map]
  rfl

/-- The entries that are kept are the last ones of their names, in the order of the names. -/
theorem readEntries_kept {read : Document → Option α} (keeps : Keeps repeats read) (json : Json)
    (inside : json.Repeats → repeats) :
    SameUnless repeats
      ((readEntries read (ofJson json)).map fun entries => (TextMap.ofList entries).entries)
      (readEntries read (ofJson json.collapsed)) := by
  cases json with
  | object members =>
    have each : ∀ member ∈ members, SameUnless repeats (read (ofJson member.2))
        (read (ofJson member.2.collapsed)) :=
      fun member owned => keeps member.2 fun often => inside (.member owned often)
    rw [Json.collapsed_object, readEntries_object, readEntries_object]
    cases written : members.mapM fun member => (read (ofJson member.2)).map (member.1, ·) with
    | some entries =>
      have made := (List.forall₂_and_left _ _).mpr ⟨each, mapM_eq_some_iff.mp written⟩
      have alike : List.Forall₂ (fun a b => a.1 = b.1 ∧ read (ofJson a.2) = some b.2)
          (members.map fun member => (member.1, member.2.collapsed)) entries := by
        refine List.forall₂_map_left_iff.mpr (made.imp ?_)
        rintro member entry ⟨same, here⟩
        obtain ⟨value, found, rfl⟩ := Option.map_eq_some_iff.mp here
        exact ⟨rfl, same.eq_of_some found⟩
      have sorted :=
        TextMap.forall₂_ofList (fun json value => read (ofJson json) = some value) alike
      refine .inl (mapM_eq_some_iff.mpr (sorted.imp ?_))
      rintro member entry ⟨name, value⟩
      rw [value, name]
      rfl
    | none =>
      by_cases often : repeats
      · exact .inr ⟨rfl, often⟩
      · obtain ⟨member, owned, lost⟩ := mapM_eq_none_iff.mp written
        have once : (members.map Prod.fst).Nodup := by
          by_contra twice
          exact often (inside (.here twice))
        have same := (each member owned).eq_of_not often
        refine .inl (mapM_eq_none_iff.mpr ⟨_, Json.mem_kept once owned, ?_⟩)
        rw [Option.map_eq_none_iff] at lost ⊢
        exact same.trans lost
  | _ => exact .refl _

/-- An object of one member is kept as one, and other objects only become one where that one member
is written several times. -/
theorem sameUnless_single {read : Document → Option α} {members : List (String × Json)}
    (inside : (Json.object members).Repeats → repeats)
    (others : ∀ entries : List (Option String × Document), entries.length ≠ 1 →
      read (.record entries) = none)
    (single : ∀ member, members = [member] →
      SameUnless repeats (read (ofJson (.object [member])))
        (read (ofJson (.object [(member.1, member.2.collapsed)])))) :
    SameUnless repeats (read (ofJson (.object members)))
      (read (ofJson (Json.object members).collapsed)) := by
  rw [Json.collapsed_object]
  match members, inside, single with
  | [], _, _ => exact .refl _
  | [member], _, single => exact single member rfl
  | first :: second :: rest, inside, _ =>
    have written : read (ofJson (.object (first :: second :: rest))) = none :=
      others _ (by simp [ofMembers_eq_map])
    rw [written]
    by_cases once : ((first :: second :: rest).map Prod.fst).Nodup
    · have apart : first.1 ≠ second.1 := by
        intro same
        simp [same] at once
      refine .inl (others _ ?_)
      rw [ofMembers_eq_map, List.length_map]
      have here := Json.mem_kept once List.mem_cons_self
      have there := Json.mem_kept once (List.mem_cons_of_mem _ List.mem_cons_self)
      intro one
      obtain ⟨entry, only⟩ := List.length_eq_one_iff.mp one
      rw [only, List.mem_singleton] at here there
      have same := congrArg Prod.fst (here.trans there.symm)
      exact apart same
    · exact .inr ⟨rfl, inside (.here once)⟩

theorem keeps_choice (named : String → Option α) : Keeps repeats (choice? named) := by
  intro json inside
  cases json with
  | object members =>
    refine sameUnless_single inside (fun entries several => ?_) fun member single => ?_
    · unfold choice?
      split
      next impossible => cases impossible
      next name scalar one => cases one; exact absurd rfl several
      next => rfl
    · obtain ⟨name, value⟩ := member
      cases value <;> exact .refl _
  | _ => exact .refl _

end Document
end Parley
