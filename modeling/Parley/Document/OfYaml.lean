import Parley.Document
import Parley.Yaml.Node
/-!
YAML as a document: every scalar is a text, and a plain one may be more.
-/

namespace Parley.Document

def isYamlNull (text : String) : Bool :=
  text = "null" || text = "Null" || text = "NULL" || text = "~"

def yamlTruth? (text : String) : Option Bool :=
  if text = "true" || text = "True" || text = "TRUE" then some true
  else if text = "false" || text = "False" || text = "FALSE" then some false
  else none

def digitIn? (base : Nat) (c : Char) : Option Nat :=
  (Yaml.hexValue? c).filter (· < base)

def numberIn? (base : Nat) (digits : List Char) : Option Nat :=
  if digits.isEmpty then none
  else
    let value := digits.foldlM (fun value c => (digitIn? base c).map (base * value + ·)) 0
    value.filter (· < Nat.pow 2 64)

/-- A number not below zero. In base ten it starts with a zero only if it is one. -/
def yamlCount? (text : String) : Option Nat :=
  let unsigned := match text.toList with
    | '+' :: rest => rest
    | other => other
  match unsigned with
  | '0' :: 'x' :: rest => numberIn? 16 rest
  | '0' :: 'o' :: rest => numberIn? 8 rest
  | '0' :: 'b' :: rest => numberIn? 2 rest
  | '0' :: _ :: _ => none
  | digits => numberIn? 10 digits

def yamlName? : Yaml.Node → Option String
  | .scalar text _ => some text
  | _ => none

mutual

def ofYaml : Yaml.Node → Document
  | .scalar text true =>
    scalar ⟨some text, yamlTruth? text, yamlCount? text, text.isEmpty || isYamlNull text,
      text.isEmpty⟩
  | .scalar text false => scalar ⟨some text, none, none, false, false⟩
  | .sequence items => list (ofNodes items)
  | .mapping entries => record (ofPairs entries)
  | .endless => unreadable

def ofNodes : List Yaml.Node → List Document
  | [] => []
  | item :: rest => ofYaml item :: ofNodes rest

def ofPairs : List (Yaml.Node × Yaml.Node) → List (Option String × Document)
  | [] => []
  | (name, value) :: rest => (yamlName? name, ofYaml value) :: ofPairs rest

end

end Parley.Document
