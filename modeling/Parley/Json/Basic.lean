import Parley.TextMap
/-!
JSON values.

The members of an object stand as they were written, repeated names included. A string with half a
surrogate pair and a number out of range are words of the grammar that denote nothing: they read
as `illFormed`, and so does an object with such a name.
-/

namespace Parley

inductive Json where
  | null
  | bool (value : Bool)
  | number (literal : String)
  | string (text : String)
  | array (items : List Json)
  | object (members : List (String × Json))
  | illFormed

namespace Json

instance : Inhabited Json := ⟨null⟩

def ofNat (n : Nat) : Json := number (Nat.repr n)

def ofTextMap (map : TextMap String) : Json :=
  object (map.entries.map fun entry => (entry.1, string entry.2))

mutual

def depth : Json → Nat
  | array items => depthOfItems items + 1
  | object members => depthOfMembers members + 1
  | _ => 0

def depthOfItems : List Json → Nat
  | [] => 0
  | item :: rest => max item.depth (depthOfItems rest)

def depthOfMembers : List (String × Json) → Nat
  | [] => 0
  | (_, value) :: rest => max value.depth (depthOfMembers rest)

end

mutual

def isWellFormed : Json → Bool
  | array items => itemsAreWellFormed items
  | object members => membersAreWellFormed members
  | illFormed => false
  | _ => true

def itemsAreWellFormed : List Json → Bool
  | [] => true
  | item :: rest => item.isWellFormed && itemsAreWellFormed rest

def membersAreWellFormed : List (String × Json) → Bool
  | [] => true
  | (_, value) :: rest => value.isWellFormed && membersAreWellFormed rest

end

mutual

/-- Every object in the order of its names, and of members with one name the last. -/
def collapsed : Json → Json
  | array items => array (collapsedItems items)
  | object members => object (collapsedMembers TextMap.empty members).entries
  | other => other

def collapsedItems : List Json → List Json
  | [] => []
  | item :: rest => item.collapsed :: collapsedItems rest

def collapsedMembers (seen : TextMap Json) : List (String × Json) → TextMap Json
  | [] => seen
  | (name, value) :: rest => collapsedMembers (seen.insert name value.collapsed) rest

end

def member? (name : String) : Json → Option Json
  | object members => TextMap.findIn name members
  | _ => none

end Json
end Parley
