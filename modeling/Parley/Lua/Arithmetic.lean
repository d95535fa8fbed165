import Parley.Lua.Value
/-!
The operators of Lua.
-/

namespace Parley.Lua

def Binary.event : Binary → String
  | .or | .and => ""
  | .equal | .notEqual => "__eq"
  | .less | .more => "__lt"
  | .lessOrEqual | .moreOrEqual => "__le"
  | .bitOr => "__bor"
  | .bitXor => "__bxor"
  | .bitAnd => "__band"
  | .shiftLeft => "__shl"
  | .shiftRight => "__shr"
  | .concat => "__concat"
  | .add => "__add"
  | .subtract => "__sub"
  | .multiply => "__mul"
  | .divide => "__div"
  | .floorDivide => "__idiv"
  | .modulo => "__mod"
  | .power => "__pow"

/-- Leaves an operation to the metatable of the left operand, or else to that of the right one. -/
def delegate (event : String) (left right : Value) (finish : Value → Value)
    (otherwise : Run Answer) : Run Answer := do
  match ← handlerOf event left with
  | .nil =>
    match ← handlerOf event right with
    | .nil => otherwise
    | handler => return .ask handler [left, right] finish
  | handler => return .ask handler [left, right] finish

def floorDivide (m n : Int64) : Int64 := Int64.ofInt (m.toInt.fdiv n.toInt)

def floorModulo (m n : Int64) : Int64 := Int64.ofInt (m.toInt.fmod n.toInt)

def calculateInts (operator : Binary) (m n : Int64) : Run Number :=
  match operator with
  | .add => return .int (m + n)
  | .subtract => return .int (m - n)
  | .multiply => return .int (m * n)
  | .floorDivide =>
    if n = 0 then fail "attempt to perform 'n//0'" else return .int (floorDivide m n)
  | .modulo => if n = 0 then fail "attempt to perform 'n%%0'" else return .int (floorModulo m n)
  | .power => return .float ((Number.int m).toFloat ^ (Number.int n).toFloat)
  | _ => return .float ((Number.int m).toFloat / (Number.int n).toFloat)

def calculateFloats (operator : Binary) (a b : Float) : Float :=
  match operator with
  | .add => a + b
  | .subtract => a - b
  | .multiply => a * b
  | .floorDivide => (a / b).floor
  | .modulo => Number.floorRemainder a b
  | .power => a ^ b
  | _ => a / b

/-- Strings that hold numbers count as numbers. -/
def calculate (operator : Binary) (left right : Value) : Run Answer := do
  match left.toNumber?, right.toNumber? with
  | some (.int m), some (.int n) => return .value (.number (← calculateInts operator m n))
  | some a, some b =>
    return .value (.number (.float (calculateFloats operator a.toFloat b.toFloat)))
  | some _, none =>
    delegate operator.event left right id
      (fail ("attempt to perform arithmetic on a " ++ right.typeName ++ " value"))
  | none, _ =>
    delegate operator.event left right id
      (fail ("attempt to perform arithmetic on a " ++ left.typeName ++ " value"))

/-- Shifts to the left, or to the right for numbers below zero. What is shifted out is gone. -/
def shiftBits (bits : UInt64) (distance : Int) : UInt64 :=
  if 64 ≤ distance.natAbs then 0
  else if 0 ≤ distance then bits <<< UInt64.ofNat distance.natAbs
  else bits >>> UInt64.ofNat distance.natAbs

def combineBits (operator : Binary) (m n : Int64) : Int64 :=
  match operator with
  | .bitAnd => m &&& n
  | .bitOr => m ||| n
  | .bitXor => m ^^^ n
  | .shiftLeft => (shiftBits m.toUInt64 n.toInt).toInt64
  | _ => (shiftBits m.toUInt64 (-n.toInt)).toInt64

def bits? (value : Value) : Option Int64 := value.toNumber?.bind Number.whole?

def bitsFailure {α : Type} (value : Value) : Run α :=
  match value.toNumber? with
  | some _ => fail "number has no integer representation"
  | none => fail ("attempt to perform bitwise operation on a " ++ value.typeName ++ " value")

def combine (operator : Binary) (left right : Value) : Run Answer := do
  match bits? left, bits? right with
  | some m, some n => return .value (.number (.int (combineBits operator m n)))
  | some _, none => delegate operator.event left right id (bitsFailure right)
  | none, _ => delegate operator.event left right id (bitsFailure left)

def concat (left right : Value) : Run Answer := do
  match left.toBytes?, right.toBytes? with
  | some a, some b => return .value (.string (a ++ b))
  | some _, none =>
    delegate "__concat" left right id
      (fail ("attempt to concatenate a " ++ right.typeName ++ " value"))
  | none, _ =>
    delegate "__concat" left right id
      (fail ("attempt to concatenate a " ++ left.typeName ++ " value"))

def bytesLess : List UInt8 → List UInt8 → Bool
  | [], _ :: _ => true
  | a :: rest, b :: others => a < b || (a = b && bytesLess rest others)
  | _, [] => false

def compareFailure {α : Type} (left right : Value) : Run α :=
  if left.typeName = right.typeName then
    fail ("attempt to compare two " ++ left.typeName ++ " values")
  else fail ("attempt to compare " ++ left.typeName ++ " with " ++ right.typeName)

def truth (value : Value) : Value := .bool value.isTrue

def untruth (value : Value) : Value := .bool !value.isTrue

def less (left right : Value) : Run Answer := do
  match left, right with
  | .number a, .number b => return .value (.bool (a.less b))
  | .string a, .string b => return .value (.bool (bytesLess a b))
  | _, _ => delegate "__lt" left right truth (compareFailure left right)

def lessOrEqual (left right : Value) : Run Answer := do
  match left, right with
  | .number a, .number b => return .value (.bool (a.lessOrEqual b))
  | .string a, .string b => return .value (.bool !bytesLess b a)
  | _, _ => delegate "__le" left right truth (compareFailure left right)

/-- Two tables may be equal though they are not the same. -/
def equal (left right : Value) (finish : Value → Value) : Run Answer := do
  let plain : Answer := .value (finish (.bool (left.same right)))
  match left, right with
  | .table a, .table b =>
    if a = b then return plain else delegate "__eq" left right finish (return plain)
  | _, _ => return plain

def applyBinary (operator : Binary) (left right : Value) : Run Answer := do
  match operator with
  | .equal => equal left right truth
  | .notEqual => equal left right untruth
  | .less => less left right
  | .lessOrEqual => lessOrEqual left right
  | .more => less right left
  | .moreOrEqual => lessOrEqual right left
  | .concat => concat left right
  | .bitOr | .bitXor | .bitAnd | .shiftLeft | .shiftRight => combine operator left right
  | .or => return .value (if left.isTrue then left else right)
  | .and => return .value (if left.isTrue then right else left)
  | _ => calculate operator left right

def applyUnary (operator : Unary) (operand : Value) : Run Answer := do
  match operator with
  | .not => return .value (.bool !operand.isTrue)
  | .negate =>
    match operand.toNumber? with
    | some value => return .value (.number (negate value))
    | none =>
      delegate "__unm" operand operand id
        (fail ("attempt to perform arithmetic on a " ++ operand.typeName ++ " value"))
  | .bitNot =>
    match bits? operand with
    | some n => return .value (.number (.int (~~~n)))
    | none => delegate "__bnot" operand operand id (bitsFailure operand)
  | .length =>
    match operand with
    | .string bytes => return .value (.number (.int (Int64.ofNat bytes.length)))
    | .table address =>
      delegate "__len" operand operand id
        (do return .value (.number (.int (Int64.ofNat (← getTable address).border))))
    | other => fail ("attempt to get length of a " ++ other.typeName ++ " value")

end Parley.Lua
