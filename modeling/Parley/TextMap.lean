/-!
Finite maps from texts, kept as a list of entries in the bytewise order of their keys.

The order is strict, so a map has one representation and two maps with the same look-ups are
equal (`TextMap.ext`).
-/

namespace Parley

structure TextMap (α : Type) where
  entries : List (String × α)
  ordered : entries.Pairwise (fun a b => a.1 < b.1)

namespace TextMap

variable {α β : Type}

def findIn (key : String) : List (String × α) → Option α
  | [] => none
  | (name, value) :: rest => if key = name then some value else findIn key rest

def insertIn (key : String) (value : α) : List (String × α) → List (String × α)
  | [] => [(key, value)]
  | (name, held) :: rest =>
    if key < name then (key, value) :: (name, held) :: rest
    else if key = name then (key, value) :: rest
    else (name, held) :: insertIn key value rest

theorem mem_insertIn {key : String} {value : α} {entry : String × α}
    {entries : List (String × α)} (found : entry ∈ insertIn key value entries) :
    entry = (key, value) ∨ entry ∈ entries := by
  induction entries with
  | nil => simpa [insertIn] using found
  | cons head rest ih => grind [insertIn]

theorem not_lt_of_ne {a b : String} (less : ¬a < b) (same : ¬a = b) : b < a := by
  have le : b ≤ a := String.not_lt.mp less
  rcases Decidable.em (b < a) with h | h
  · exact h
  · exact absurd (String.le_antisymm (String.not_lt.mp h) le) same

theorem insertIn_ordered (key : String) (value : α) {entries : List (String × α)}
    (ordered : entries.Pairwise (fun a b => a.1 < b.1)) :
    (insertIn key value entries).Pairwise (fun a b => a.1 < b.1) := by
  induction entries with
  | nil => simp [insertIn]
  | cons head rest ih =>
    obtain ⟨name, held⟩ := head
    have tail := List.pairwise_cons.mp ordered
    rw [insertIn]
    split
    next less =>
      refine List.pairwise_cons.mpr ⟨fun entry found => ?_, ordered⟩
      rcases List.mem_cons.mp found with rfl | later
      · exact less
      · exact String.lt_trans less (tail.1 entry later)
    next less =>
      split
      next same => exact List.pairwise_cons.mpr ⟨same ▸ tail.1, tail.2⟩
      next same =>
        refine List.pairwise_cons.mpr ⟨fun entry found => ?_, ih tail.2⟩
        rcases mem_insertIn found with rfl | later
        · exact not_lt_of_ne less same
        · exact tail.1 entry later

theorem findIn_insertIn (key other : String) (value : α) (entries : List (String × α)) :
    findIn other (insertIn key value entries) =
      if other = key then some value else findIn other entries := by
  induction entries with
  | nil => simp [insertIn, findIn]
  | cons head rest ih => grind [insertIn, findIn]

theorem findIn_eq_none_of_lt {key : String} {entries : List (String × α)}
    (below : ∀ entry ∈ entries, key < entry.1) : findIn key entries = none := by
  induction entries with
  | nil => rfl
  | cons head rest ih =>
    have different : key ≠ head.1 := fun same =>
      String.lt_irrefl head.1 (same ▸ below head (by simp))
    simp only [findIn]
    rw [if_neg different]
    exact ih fun entry found => below entry (by simp [found])

theorem findIn_filter (key other : String) (entries : List (String × α)) :
    findIn other (entries.filter fun entry => entry.1 ≠ key) =
      if other = key then none else findIn other entries := by
  induction entries with
  | nil => simp [findIn]
  | cons head rest ih =>
    by_cases gone : head.1 = key <;> by_cases same : other = key <;>
      by_cases here : other = head.1 <;> simp_all [findIn]

theorem findIn_eq_some_iff {entries : List (String × α)}
    (distinct : entries.Pairwise (fun a b => a.1 ≠ b.1)) {key : String} {value : α} :
    findIn key entries = some value ↔ (key, value) ∈ entries := by
  induction entries with
  | nil => simp [findIn]
  | cons head rest ih =>
    obtain ⟨name, held⟩ := head
    obtain ⟨apart, later⟩ := List.pairwise_cons.mp distinct
    rw [findIn, List.mem_cons]
    by_cases same : key = name
    · subst same
      have absent : (key, value) ∉ rest := fun found => apart _ found rfl
      rw [if_pos rfl]
      simp only [absent, or_false, Option.some.injEq, Prod.mk.injEq, true_and]
      exact eq_comm
    · rw [if_neg same, ih later]
      simp only [Prod.mk.injEq, same, false_and, false_or]

theorem eq_of_findIn {left right : List (String × α)}
    (ordered : left.Pairwise (fun a b => a.1 < b.1))
    (ordered' : right.Pairwise (fun a b => a.1 < b.1))
    (same : ∀ key, findIn key left = findIn key right) : left = right := by
  induction left generalizing right with
  | nil =>
    cases right with
    | nil => rfl
    | cons head rest => simpa [findIn] using same head.1
  | cons head rest ih =>
    cases right with
    | nil => simpa [findIn] using same head.1
    | cons head' rest' =>
      have tail := List.pairwise_cons.mp ordered
      have tail' := List.pairwise_cons.mp ordered'
      have keys : head.1 = head'.1 := by
        rcases Decidable.em (head.1 < head'.1) with less | less
        · have absent : findIn head.1 (head' :: rest') = none := by
            apply findIn_eq_none_of_lt
            intro entry found
            rcases List.mem_cons.mp found with rfl | later
            · exact less
            · exact String.lt_trans less (tail'.1 entry later)
          have := same head.1
          rw [absent] at this
          simp [findIn] at this
        · rcases Decidable.em (head.1 = head'.1) with equal | different
          · exact equal
          · have more := not_lt_of_ne less different
            have absent : findIn head'.1 (head :: rest) = none := by
              apply findIn_eq_none_of_lt
              intro entry found
              rcases List.mem_cons.mp found with rfl | later
              · exact more
              · exact String.lt_trans more (tail.1 entry later)
            have := same head'.1
            rw [absent] at this
            simp [findIn] at this
      have values : head.2 = head'.2 := by
        have := same head.1
        simp [findIn, keys] at this
        exact this
      have heads : head = head' := Prod.ext keys values
      subst heads
      congr 1
      apply ih tail.2 tail'.2
      intro key
      rcases Decidable.em (key = head.1) with rfl | different
      · rw [findIn_eq_none_of_lt tail.1, findIn_eq_none_of_lt tail'.1]
      · have := same key
        simpa [findIn, different] using this

def empty : TextMap α := ⟨[], List.Pairwise.nil⟩

instance : Inhabited (TextMap α) := ⟨empty⟩

instance [DecidableEq α] : DecidableEq (TextMap α) := fun a b =>
  if same : a.entries = b.entries then
    isTrue (by cases a; cases b; simp_all)
  else isFalse fun equal => same (by rw [equal])

def get? (map : TextMap α) (key : String) : Option α := findIn key map.entries

/-- A key that is there already takes the new value. -/
def insert (map : TextMap α) (key : String) (value : α) : TextMap α :=
  ⟨insertIn key value map.entries, insertIn_ordered key value map.ordered⟩

def erase (map : TextMap α) (key : String) : TextMap α :=
  ⟨map.entries.filter fun entry => entry.1 ≠ key, map.ordered.sublist List.filter_sublist⟩

def contains (map : TextMap α) (key : String) : Bool := (map.get? key).isSome

def size (map : TextMap α) : Nat := map.entries.length

def isEmpty (map : TextMap α) : Bool := map.entries.isEmpty

/-- Of entries with one key the last counts. -/
def ofList (entries : List (String × α)) : TextMap α :=
  entries.foldl (fun map entry => map.insert entry.1 entry.2) empty

def keys (map : TextMap α) : List String := map.entries.map (·.1)

@[ext]
theorem ext {a b : TextMap α} (same : ∀ key, a.get? key = b.get? key) : a = b := by
  have := eq_of_findIn a.ordered b.ordered same
  cases a; cases b; simp_all

@[simp]
theorem get?_empty (key : String) : (empty : TextMap α).get? key = none := rfl

@[simp]
theorem get?_insert (map : TextMap α) (key other : String) (value : α) :
    (map.insert key value).get? other = if other = key then some value else map.get? other :=
  findIn_insertIn key other value map.entries

@[simp]
theorem get?_erase (map : TextMap α) (key other : String) :
    (map.erase key).get? other = if other = key then none else map.get? other :=
  findIn_filter key other map.entries

theorem get?_ofList (entries : List (String × α)) (key : String) :
    (ofList entries).get? key = findIn key entries.reverse := by
  rw [ofList, List.foldl_eq_foldr_reverse]
  induction entries.reverse with
  | nil => rfl
  | cons head rest ih => rw [List.foldr_cons, get?_insert, ih, findIn]

theorem findIn_map (entry : β → String × α) (items : List β) (key : String) :
    findIn key (items.map entry) =
      (items.find? fun item => (entry item).1 = key).map fun item => (entry item).2 := by
  induction items with
  | nil => rfl
  | cons item rest ih =>
    rw [List.map_cons, findIn, List.find?_cons, ih]
    by_cases same : key = (entry item).1 <;> simp [same, eq_comm]

theorem get?_ofList_map (entry : β → String × α) (items : List β) (key : String) :
    (ofList (items.map entry)).get? key =
      (items.reverse.find? fun item => (entry item).1 = key).map fun item => (entry item).2 := by
  rw [get?_ofList, ← List.map_reverse, findIn_map]

@[simp]
theorem ofList_entries (map : TextMap α) : ofList map.entries = map := by
  have distinct : map.entries.Pairwise (fun a b => a.1 ≠ b.1) :=
    map.ordered.imp fun less => String.ne_of_lt less
  ext key value
  rw [get?_ofList, get?, findIn_eq_some_iff distinct, findIn_eq_some_iff, List.mem_reverse]
  exact List.pairwise_reverse.mpr (distinct.imp Ne.symm)

theorem mem_keys {map : TextMap α} {key : String} :
    key ∈ map.keys ↔ map.contains key = true := by
  unfold keys contains get?
  induction map.entries with
  | nil => simp [findIn]
  | cons entry rest ih =>
    obtain ⟨name, value⟩ := entry
    rw [List.map_cons, List.mem_cons, ih, findIn]
    split
    next same => simp [same]
    next apart => simp [apart]

end TextMap
end Parley
