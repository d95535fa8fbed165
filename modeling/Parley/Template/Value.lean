import Parley.Text.Decimal
import Parley.TextMap
/-!
The values that templates work with.
-/

namespace Parley.Template

inductive Value where
  /-- A name that nothing is known of. -/
  | undefined
  | null
  | bool (value : Bool)
  | int (value : Int)
  | float (value : Float)
  | text (value : String)
  | list (items : List Value)
  /-- What is known about the turn of a loop. -/
  | record (fields : List (String × Value))

namespace Value

instance : Inhabited Value := ⟨undefined⟩

def isTrue : Value → Bool
  | undefined | null => false
  | bool value => value
  | int value => value ≠ 0
  | float value => !(value == 0)
  | text value => !value.isEmpty
  | list items => !items.isEmpty
  | record fields => !fields.isEmpty

def quotedChar (c : Char) : List Char :=
  if c = '"' then ['\\', '"']
  else if c = '\\' then ['\\', '\\']
  else if c = '\n' then ['\\', 'n']
  else if c = '\r' then ['\\', 'r']
  else if c = '\t' then ['\\', 't']
  else [c]

def quoted (text : String) : String :=
  String.ofList ('"' :: (text.toList.flatMap quotedChar ++ ['"']))

mutual

def showInside : Value → String
  | undefined => "undefined"
  | null => "None"
  | bool value => if value then "True" else "False"
  | int value => toString value
  | float value => Decimal.shortest value
  | text value => quoted value
  | list items => "[" ++ showItems items ++ "]"
  | record fields => "\x7b" ++ showFields fields ++ "\x7d"

def showItems : List Value → String
  | [] => ""
  | [item] => showInside item
  | item :: rest => showInside item ++ ", " ++ showItems rest

def showFields : List (String × Value) → String
  | [] => ""
  | [(name, value)] => quoted name ++ ": " ++ showInside value
  | (name, value) :: rest => quoted name ++ ": " ++ showInside value ++ ", " ++ showFields rest

end

def print : Value → String
  | undefined => ""
  | text value => value
  | other => showInside other

/-- A number, where truth values count as one and zero. -/
inductive Number where
  | int (value : Int)
  | float (value : Float)

def number? : Value → Option Number
  | bool value => some (.int value.toNat)
  | int value => some (.int value)
  | float value => some (.float value)
  | _ => none

def Number.toFloat : Number → Float
  | int value => Float.ofInt value
  | float value => value

/-- Two numbers of one sort: whole ones if both are. -/
def numbers? (a b : Value) : Option (Number × Number) :=
  match number? a, number? b with
  | some (.int m), some (.int n) => some (.int m, .int n)
  | some m, some n => some (.float m.toFloat, .float n.toFloat)
  | _, _ => none

mutual

def same : Value → Value → Bool
  | undefined, undefined | null, null => true
  | text a, text b => a = b
  | list a, list b => sameItems a b
  | a, b =>
    match numbers? a b with
    | some (.int m, .int n) => m = n
    | some (m, n) => m.toFloat == n.toFloat
    | none => false

def sameItems : List Value → List Value → Bool
  | [], [] => true
  | a :: rest, b :: others => same a b && sameItems rest others
  | _, _ => false

end

def rank : Value → Nat
  | undefined => 0
  | null => 1
  | bool _ => 2
  | int _ | float _ => 3
  | text _ => 4
  | list _ => 5
  | record _ => 6

mutual

def less : Value → Value → Bool
  | text a, text b => a < b
  | list a, list b => lessItems a b
  | a, b =>
    match numbers? a b with
    | some (.int m, .int n) => m < n
    | some (m, n) => m.toFloat < n.toFloat
    | none => rank a < rank b

def lessItems : List Value → List Value → Bool
  | [], _ :: _ => true
  | a :: rest, b :: others => less a b || (same a b && lessItems rest others)
  | _, _ => false

end

def items? : Value → Option (List Value)
  | undefined | null => some []
  | text value => some (value.toList.map fun c => text (String.singleton c))
  | list items => some items
  | record fields => some (fields.map fun field => text field.1)
  | _ => none

/-- Whole numbers have at most 128 bits. -/
def whole? (n : Int) : Option Value :=
  if -(Nat.pow 2 127 : Int) ≤ n && n < Nat.pow 2 127 then some (int n) else none

end Value
end Parley.Template
