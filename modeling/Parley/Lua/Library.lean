import Parley.Lua.Arithmetic
/-!
The functions that programs find: a part of Lua's own, and two for the registers of the host.
-/

namespace Parley.Lua

def argument (arguments : List Value) (place : Nat) : Value := arguments.getD place .nil

def badArgument {α : Type} (place : Nat) (expected : String) : Run α :=
  fail ("bad argument #" ++ toString (place + 1) ++ " (" ++ expected ++ " expected)")

def bytesArgument (arguments : List Value) (place : Nat) : Run (List UInt8) :=
  match (argument arguments place).toBytes? with
  | some bytes => return bytes
  | none => badArgument place "string"

def intArgument (arguments : List Value) (place : Nat) : Run Int :=
  match (argument arguments place).toNumber? with
  | some number =>
    match number.whole? with
    | some n => return n.toInt
    | none => fail "number has no integer representation"
  | none => badArgument place "number"

def intOr (arguments : List Value) (place : Nat) (usual : Int) : Run Int :=
  match argument arguments place with
  | .nil => return usual
  | _ => intArgument arguments place

def someArgument (arguments : List Value) : Run Value :=
  match arguments with
  | value :: _ => return value
  | [] => badArgument 0 "value"

def tableArgument (arguments : List Value) (place : Nat) : Run Nat :=
  match argument arguments place with
  | .table address => return address
  | _ => badArgument place "table"

/-- A place from one on; a number below zero counts from the end. -/
def startPlace (length : Nat) (place : Int) : Nat :=
  if 0 < place then place.toNat
  else if place = 0 || place < -length then 1
  else (length + place + 1).toNat

def endPlace (length : Nat) (place : Int) : Nat :=
  if length < place then length
  else if 0 ≤ place then place.toNat
  else if place < -length then 0
  else (length + place + 1).toNat

def slice (bytes : List UInt8) (first last : Nat) : List UInt8 :=
  (bytes.take last).drop (first - 1)

def findBytes? (part : List UInt8) : List UInt8 → Nat → Option Nat
  | [], place => if part.isEmpty then some place else none
  | byte :: rest, place =>
    if part.isPrefixOf (byte :: rest) then some place else findBytes? part rest (place + 1)

def isPatternByte (byte : UInt8) : Bool := "^$*+?.([%-".toUTF8.toList.contains byte

def findString (arguments : List Value) : Run (List Value) := do
  let bytes ← bytesArgument arguments 0
  let part ← bytesArgument arguments 1
  let first := startPlace bytes.length (← intOr arguments 2 1)
  if bytes.length + 1 < first then return [.nil]
  else if !(argument arguments 3).isTrue && part.any isPatternByte then
    fail "patterns are not supported"
  else
    match findBytes? part (bytes.drop (first - 1)) first with
    | some place =>
      return [.number (.int (Int64.ofNat place)),
        .number (.int (Int64.ofNat (place + part.length - 1)))]
    | none => return [.nil]

def lowerByte (byte : UInt8) : UInt8 := if 65 ≤ byte && byte ≤ 90 then byte + 32 else byte

def upperByte (byte : UInt8) : UInt8 := if 97 ≤ byte && byte ≤ 122 then byte - 32 else byte

def repeated (count : Nat) (bytes between : List UInt8) : List UInt8 :=
  between.intercalate (List.replicate count bytes)

def digitIn? (base : Nat) (c : Char) : Option Nat :=
  let value :=
    if isDigit c then some (c.toNat - 48)
    else if c.isAlpha then some (c.toLower.toNat - 87)
    else none
  value.filter (· < base)

def numberIn? (base : Nat) (text : List Char) : Option Int64 :=
  let inner := ((text.dropWhile isBlank).reverse.dropWhile isBlank).reverse
  let (isNegative, digits) := match inner with
    | '-' :: rest => (true, rest)
    | rest => (false, rest)
  if digits.isEmpty then none
  else
    (digits.foldlM (fun n c => (digitIn? base c).map (base * n + ·)) 0).map fun n =>
      if isNegative then -(Int64.ofNat n) else Int64.ofNat n

def toNumber (arguments : List Value) : Run (List Value) := do
  match argument arguments 1 with
  | .nil =>
    match (← someArgument arguments).toNumber? with
    | some number => return [.number number]
    | none => return [.nil]
  | _ =>
    let base ← intArgument arguments 1
    match arguments.head? with
    | some (.string bytes) =>
      if base < 2 || 36 < base then badArgument 1 "base"
      else
        match (Value.ascii? bytes).bind (numberIn? base.toNat) with
        | some n => return [.number (.int n)]
        | none => return [.nil]
    | _ => badArgument 0 "string"

def textArgument (arguments : List Value) (place : Nat) : Run String :=
  match (argument arguments place).toText? with
  | some text => return text
  | none => badArgument place "string"

def answered {α : Type} : Except String α → Run α
  | .ok value => return value
  | .error message => fail message

def getRegister (arguments : List Value) : Run (List Value) := do
  let bank ← textArgument arguments 0
  let key ← textArgument arguments 1
  let value ← answered (← (Script.Dialogue.get bank key .done : Script.Dialogue _))
  return [ofText value]

def setRegister (arguments : List Value) : Run (List Value) := do
  let bank ← textArgument arguments 0
  let key ← textArgument arguments 1
  let value ← textArgument arguments 2
  answered (← (Script.Dialogue.set bank key value .done : Script.Dialogue _))
  return []

/-- A metatable may hold something that is shown in its place. -/
def getMetatable (arguments : List Value) : Run (List Value) := do
  let value ← someArgument arguments
  match ← metatable? value with
  | none => return [.nil]
  | some address =>
    match ← handlerOf "__metatable" value with
    | .nil => return [.table address]
    | shown => return [shown]

def changeMetatable (arguments : List Value) : Run (List Value) := do
  let address ← tableArgument arguments 0
  let metatable ← match arguments with
    | _ :: .nil :: _ => pure none
    | _ :: .table metatable :: _ => pure (some metatable)
    | _ => badArgument 1 "nil or table"
  match ← handlerOf "__metatable" (.table address) with
  | .nil =>
    setMetatable address metatable
    return [.table address]
  | _ => fail "cannot change a protected metatable"

def ofInt (n : Int) : Value := .number (.int (Int64.ofInt n))

def applyBuiltin (function : Builtin) (arguments : List Value) : Run (List Value) := do
  match function with
  | .getRegister => getRegister arguments
  | .setRegister => setRegister arguments
  | .getMetatable => getMetatable arguments
  | .setMetatable => changeMetatable arguments
  | .assert =>
    if (← someArgument arguments).isTrue then return arguments
    else
      match arguments with
      | _ :: message :: _ => throw (.thrown message)
      | _ => fail "assertion failed!"
  | .error => throw (.thrown (argument arguments 0))
  | .ipairs => return [.builtin .nextIndex, ← someArgument arguments, ofInt 0]
  | .next =>
    let table ← getTable (← tableArgument arguments 0)
    match table.next? (argument arguments 1) with
    | some (some (key, value)) => return [key, value]
    | some none => return [.nil]
    | none => fail "invalid key to 'next'"
  | .rawEqual => return [.bool ((argument arguments 0).same (argument arguments 1))]
  | .rawGet =>
    return [(← getTable (← tableArgument arguments 0)).find (argument arguments 1)]
  | .rawLength =>
    match argument arguments 0 with
    | .string bytes => return [ofInt bytes.length]
    | .table address => return [ofInt (← getTable address).border]
    | _ => badArgument 0 "table or string"
  | .rawSet =>
    let address ← tableArgument arguments 0
    let key ← keyOf (argument arguments 1)
    setTable address ((← getTable address).set key (argument arguments 2))
    return [.table address]
  | .select =>
    match argument arguments 0 with
    | .string [35] => return [ofInt (arguments.length - 1)]
    | _ =>
      let n ← intArgument arguments 0
      let rest := arguments.drop 1
      if n = 0 || n < -rest.length then badArgument 0 "index in range"
      else return rest.drop (if n < 0 then (rest.length + n).toNat else (n - 1).toNat)
  | .stringByte =>
    let bytes ← bytesArgument arguments 0
    let first ← intOr arguments 1 1
    let last ← intOr arguments 2 first
    return (slice bytes (startPlace bytes.length first) (endPlace bytes.length last)).map
      fun byte => ofInt byte.toNat
  | .stringChar =>
    let codes ← (List.range arguments.length).mapM (intArgument arguments)
    if codes.all fun n => 0 ≤ n && n < 256 then
      return [.string (codes.map fun n => UInt8.ofNat n.toNat)]
    else fail "value out of range"
  | .stringFind => findString arguments
  | .stringLength => return [ofInt (← bytesArgument arguments 0).length]
  | .stringLower => return [.string ((← bytesArgument arguments 0).map lowerByte)]
  | .stringUpper => return [.string ((← bytesArgument arguments 0).map upperByte)]
  | .stringReverse => return [.string (← bytesArgument arguments 0).reverse]
  | .stringRepeat =>
    let bytes ← bytesArgument arguments 0
    let count ← intArgument arguments 1
    let between ← match argument arguments 2 with
      | .nil => pure []
      | _ => bytesArgument arguments 2
    if Nat.pow 2 31 ≤ count * (bytes.length + between.length) then fail "resulting string too large"
    else return [.string (repeated count.toNat bytes between)]
  | .stringSub =>
    let bytes ← bytesArgument arguments 0
    let first ← intArgument arguments 1
    let last ← intOr arguments 2 (-1)
    return [.string (slice bytes (startPlace bytes.length first) (endPlace bytes.length last))]
  | .toNumber => toNumber arguments
  | .type => return [ofText (← someArgument arguments).typeName]
  | .nextIndex | .pairs | .pcall | .print | .toString =>
    fail "attempt to call a function out of its place"

def globalFunctions : List (String × Builtin) :=
  [("assert", .assert), ("error", .error), ("getRegValue", .getRegister),
    ("getmetatable", .getMetatable), ("ipairs", .ipairs), ("next", .next), ("pairs", .pairs),
    ("pcall", .pcall), ("print", .print), ("rawequal", .rawEqual), ("rawget", .rawGet),
    ("rawlen", .rawLength), ("rawset", .rawSet), ("select", .select),
    ("setRegValue", .setRegister), ("setmetatable", .setMetatable), ("tonumber", .toNumber),
    ("tostring", .toString), ("type", .type)]

def stringFunctions : List (String × Builtin) :=
  [("byte", .stringByte), ("char", .stringChar), ("find", .stringFind), ("len", .stringLength),
    ("lower", .stringLower), ("rep", .stringRepeat), ("reverse", .stringReverse),
    ("sub", .stringSub), ("upper", .stringUpper)]

def tableOf (functions : List (String × Builtin)) : Table :=
  functions.map fun entry => (ofText entry.1, .builtin entry.2)

def State.initial : State where
  tables :=
    #[tableOf globalFunctions ++
        [(ofText "string", .table stringsAddress), (ofText "_G", .table globalsAddress),
          (ofText "_VERSION", ofText "Lua 5.4")],
      tableOf stringFunctions,
      [(ofText "__index", .table stringsAddress)]]
  metatables := []
  closures := #[]
  cells := #[]

end Parley.Lua
