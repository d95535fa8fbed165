import Parley.Document
import Parley.Json.Basic
import Parley.Json.Number
/-!
JSON as a document: each scalar has one reading, by its type.
-/

namespace Parley.Document

def jsonCount? (literal : String) : Option Nat :=
  let digits := literal.toList
  if digits.all Json.isDigit && Json.digitsValue digits < Nat.pow 2 64 then
    some (Json.digitsValue digits)
  else none

mutual

def ofJson : Json → Document
  | .null => scalar ⟨none, none, none, true, false⟩
  | .bool value => scalar ⟨none, some value, none, false, false⟩
  | .number literal => scalar ⟨none, none, jsonCount? literal, false, false⟩
  | .string text => scalar ⟨some text, none, none, false, false⟩
  | .array items => list (ofItems items)
  | .object members => record (ofMembers members)
  | .illFormed => unreadable

def ofItems : List Json → List Document
  | [] => []
  | item :: rest => ofJson item :: ofItems rest

def ofMembers : List (String × Json) → List (Option String × Document)
  | [] => []
  | (name, value) :: rest => (some name, ofJson value) :: ofMembers rest

end

end Parley.Document
