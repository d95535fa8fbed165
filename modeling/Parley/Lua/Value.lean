import Parley.Lua.Tree
import Parley.Script.Host
/-!
The values of Lua programs, and the store that tables, functions and local names live in.

What an operation cannot do by itself it leaves to the metatable of a value. Functions are not
called here: an operation comes to a value, or to a function that is to be asked for one.
-/

namespace Parley.Lua

inductive Builtin where
  | assert
  | error
  | getMetatable
  | getRegister
  | ipairs
  | next
  | nextIndex
  | pairs
  | pcall
  | print
  | rawEqual
  | rawGet
  | rawLength
  | rawSet
  | select
  | setMetatable
  | setRegister
  | stringByte
  | stringChar
  | stringFind
  | stringLength
  | stringLower
  | stringRepeat
  | stringReverse
  | stringSub
  | stringUpper
  | toNumber
  | toString
  | type
  deriving DecidableEq

inductive Value where
  | nil
  | bool (value : Bool)
  | number (value : Number)
  | string (bytes : List UInt8)
  | table (address : Nat)
  | function (address : Nat)
  | builtin (function : Builtin)

instance : Inhabited Value := ⟨.nil⟩

/-- Entries in the order in which their keys came. -/
abbrev Table := List (Value × Value)

/-- Where the values of local names are, the innermost name first. -/
abbrev Scope := List (String × Nat)

structure Closure where
  parameters : List String
  isVariadic : Bool
  body : List Statement
  scope : Scope

structure State where
  tables : Array Table
  /-- The addresses of tables with those of their metatables. -/
  metatables : List (Nat × Nat)
  closures : Array Closure
  cells : Array Value

inductive Stop where
  | thrown (value : Value)
  /-- The run takes too long. -/
  | exhausted

abbrev Run := ExceptT Stop (StateT State Script.Dialogue)

def ofText (text : String) : Value := .string text.toUTF8.toList

def fail {α : Type} (message : String) : Run α := throw (.thrown (ofText message))

namespace Value

def isTrue : Value → Bool
  | nil | bool false => false
  | _ => true

def typeName : Value → String
  | nil => "nil"
  | bool _ => "boolean"
  | number _ => "number"
  | string _ => "string"
  | table _ => "table"
  | function _ | builtin _ => "function"

def isFunction : Value → Bool
  | function _ | builtin _ => true
  | _ => false

def same : Value → Value → Bool
  | nil, nil => true
  | bool a, bool b => a = b
  | number a, number b => a.equal b
  | string a, string b => a = b
  | table a, table b => a = b
  | function a, function b => a = b
  | builtin a, builtin b => a = b
  | _, _ => false

def ascii? (bytes : List UInt8) : Option (List Char) :=
  if bytes.all (· < 128) then some (bytes.map fun byte => Char.ofNat byte.toNat) else none

def toNumber? : Value → Option Number
  | number value => some value
  | string bytes => (ascii? bytes).bind signed?
  | _ => none

def toBytes? : Value → Option (List UInt8)
  | string bytes => some bytes
  | number value => some value.print.toUTF8.toList
  | _ => none

/-- What goes into a register: a string of well-formed text, or the text of a number. -/
def toText? (value : Value) : Option String :=
  value.toBytes?.bind fun bytes => String.fromUTF8? (ByteArray.mk bytes.toArray)

def print (value name : Value) : List UInt8 :=
  match value with
  | nil => "nil".toUTF8.toList
  | bool value => (toString value).toUTF8.toList
  | number value => value.print.toUTF8.toList
  | string bytes => bytes
  | table address =>
    (match name with
      | string bytes => bytes
      | _ => "table".toUTF8.toList) ++ (": " ++ toString address).toUTF8.toList
  | function address => ("function: " ++ toString address).toUTF8.toList
  | builtin _ => "function: builtin".toUTF8.toList

end Value

namespace Table

def find (key : Value) : Table → Value
  | [] => .nil
  | (held, value) :: rest => if held.same key then value else find key rest

def put (key value : Value) : Table → Table
  | [] => [(key, value)]
  | (held, old) :: rest =>
    if held.same key then (held, value) :: rest else (held, old) :: put key value rest

def erase (key : Value) (table : Table) : Table := table.filter fun entry => !entry.1.same key

/-- Nothing is kept under a key whose value is nil. -/
def set (key value : Value) (table : Table) : Table :=
  match value with
  | .nil => table.erase key
  | value => table.put key value

def borderFrom (table : Table) : Nat → Nat → Nat
  | 0, n => n
  | fuel + 1, n =>
    match table.find (.number (.int (Int64.ofNat (n + 1)))) with
    | .nil => n
    | _ => borderFrom table fuel (n + 1)

def border (table : Table) : Nat := borderFrom table (List.length table) 0

def next? (key : Value) (table : Table) : Option (Option (Value × Value)) :=
  match key with
  | .nil => some table.head?
  | _ =>
    match table.dropWhile fun entry => !entry.1.same key with
    | _ :: rest => some rest.head?
    | [] => none

end Table

/-- A key as tables keep it: a whole number is kept as one. -/
def keyOf : Value → Run Value
  | .nil => fail "index is nil"
  | .number (.float x) =>
    if x.isNaN then fail "index is NaN"
    else
      match Number.wholeOf? x with
      | some n => return .number (.int n)
      | none => return .number (.float x)
  | key => return key

def getTable (address : Nat) : Run Table := return (← get).tables.getD address []

def setTable (address : Nat) (table : Table) : Run Unit :=
  modify fun state => { state with tables := state.tables.setIfInBounds address table }

def newTable (table : Table) : Run Value := do
  let address := (← get).tables.size
  modify fun state => { state with tables := state.tables.push table }
  return .table address

def newClosure (closure : Closure) : Run Value := do
  let address := (← get).closures.size
  modify fun state => { state with closures := state.closures.push closure }
  return .function address

def declare (scope : Scope) : List String → List Value → Run Scope
  | [], _ => return scope
  | name :: names, values => do
    let cell := (← get).cells.size
    modify fun state => { state with cells := state.cells.push (values.head?.getD .nil) }
    declare ((name, cell) :: scope) names (values.drop 1)

def writeCell (cell : Nat) (value : Value) : Run Unit :=
  modify fun state => { state with cells := state.cells.setIfInBounds cell value }

def globalsAddress : Nat := 0

def stringsAddress : Nat := 1

def stringMetatable : Nat := 2

def metatable? : Value → Run (Option Nat)
  | .table address => return (← get).metatables.lookup address
  | .string _ => return some stringMetatable
  | _ => return none

def handlerOf (event : String) (value : Value) : Run Value := do
  match ← metatable? value with
  | some address => return (← getTable address).find (ofText event)
  | none => return .nil

def setMetatable (address : Nat) (metatable : Option Nat) : Run Unit :=
  modify fun state =>
    let others := state.metatables.filter fun entry => entry.1 ≠ address
    { state with
      metatables :=
        match metatable with
        | some metatable => (address, metatable) :: others
        | none => others }

inductive Answer where
  | value (value : Value)
  /-- The first value that a function gives, brought into the form of a result. -/
  | ask (function : Value) (arguments : List Value) (finish : Value → Value)

def chainLimit : Nat := 2000

/-- What a table itself holds under a key. -/
def ownField (owner key : Value) : Run Value := do
  match owner with
  | .table address => return (← getTable address).find key
  | _ => return .nil

def lookUp (key : Value) : Nat → Value → Run Answer
  | 0, _ => fail "'__index' chain too long; possibly a loop"
  | chain + 1, owner => do
    match ← ownField owner key with
    | .nil =>
      match ← handlerOf "__index" owner, owner with
      | .nil, .table _ => return .value .nil
      | .nil, _ => fail ("attempt to index a " ++ owner.typeName ++ " value")
      | handler, _ =>
        if handler.isFunction then return .ask handler [owner, key] id
        else lookUp key chain handler
    | value => return .value value

/-- What is told that a value is put into a field. Nothing is if the field is there already. -/
def placeHandler (owner key : Value) : Run Value := do
  match ← ownField owner key with
  | .nil => handlerOf "__newindex" owner
  | _ => return .nil

/-- Puts a value into a field. A field that a table does not have yet is put where its metatable
says. -/
def assign (key value : Value) : Nat → Value → Run Answer
  | 0, _ => fail "'__newindex' chain too long; possibly a loop"
  | chain + 1, owner => do
    match ← placeHandler owner key, owner with
    | .nil, .table address =>
      setTable address ((← getTable address).set (← keyOf key) value)
      return .value .nil
    | .nil, _ => fail ("attempt to index a " ++ owner.typeName ++ " value")
    | handler, _ =>
      if handler.isFunction then return .ask handler [owner, key, value] id
      else assign key value chain handler

end Parley.Lua
