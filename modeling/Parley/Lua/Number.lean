import Parley.Text.Decimal
/-!
The numbers of Lua: whole ones of 64 bits that wrap around, and floating-point ones.
-/

namespace Parley.Lua

inductive Number where
  | int (value : Int64)
  | float (value : Float)

namespace Number

def toFloat : Number → Float
  | int value => Float.ofInt value.toInt
  | float value => value

def limit : Float := 9223372036854775808.0

/-- A floating-point number without a fraction, if it is in range. -/
def wholeOf? (x : Float) : Option Int64 :=
  if x.floor == x && -limit ≤ x && x < limit then some x.toInt64 else none

def whole? : Number → Option Int64
  | int value => some value
  | float value => wholeOf? value

/-- Fourteen digits at most; a floating-point number that looks like a whole one gets a fraction. -/
def print : Number → String
  | int value => toString value.toInt
  | float value =>
    let text := Decimal.general 14 value
    if text.all fun c => c.isDigit || c = '-' then text ++ ".0" else text

def equal : Number → Number → Bool
  | int a, int b => a = b
  | int a, float b => wholeOf? b = some a
  | float a, int b => wholeOf? a = some b
  | float a, float b => a == b

def intLess (n : Int64) (x : Float) : Bool :=
  if limit ≤ x then true
  else if x < -limit then false
  else if x.isNaN then false
  else n < x.ceil.toInt64

def intLessOrEqual (n : Int64) (x : Float) : Bool :=
  if limit ≤ x then true
  else if x < -limit then false
  else if x.isNaN then false
  else n ≤ x.floor.toInt64

def less : Number → Number → Bool
  | int a, int b => a < b
  | int a, float b => intLess a b
  | float a, int b => !a.isNaN && !intLessOrEqual b a
  | float a, float b => a < b

def lessOrEqual : Number → Number → Bool
  | int a, int b => a ≤ b
  | int a, float b => intLessOrEqual a b
  | float a, int b => !a.isNaN && !intLess b a
  | float a, float b => a ≤ b

def truncatedRemainder (a b : Float) : Float :=
  if a.isNaN || b.isNaN || a.isInf || b == 0 then 0.0 / 0.0
  else if b.isInf || a == 0 then a
  else
    let (m, d) := Decimal.fractionOf a
    let (n, e) := Decimal.fractionOf b
    let size := Decimal.nearest ((m * e) % (n * d), d * e)
    if Decimal.isNegative a then -size else size

def floorRemainder (a b : Float) : Float :=
  let rest := truncatedRemainder a b
  if (rest > 0 && b < 0) || (rest < 0 && b > 0) then rest + b else rest

end Number

def isBlank (c : Char) : Bool :=
  c = ' ' || c = '\t' || c = '\n' || c = '\r' || c = '\x0b' || c = '\x0c'

def isDigit (c : Char) : Bool := '0' ≤ c && c ≤ '9'

def hexValue? (c : Char) : Option Nat :=
  if isDigit c then some (c.toNat - 48)
  else if 'a' ≤ c && c ≤ 'f' then some (c.toNat - 87)
  else if 'A' ≤ c && c ≤ 'F' then some (c.toNat - 55)
  else none

def isHex (c : Char) : Bool := (hexValue? c).isSome

def valueIn (base : Nat) (digits : List Char) : Nat :=
  digits.foldl (fun n c => base * n + (hexValue? c).getD 0) 0

def exponent? (text : List Char) : Option Int :=
  let (negative, digits) := match text with
    | '-' :: rest => (true, rest)
    | '+' :: rest => (false, rest)
    | rest => (false, rest)
  if digits.isEmpty || !digits.all isDigit then none
  else
    let size : Int := valueIn 10 digits
    some (if negative then -size else size)

structure Numeral where
  whole : List Char
  fraction : List Char
  exponent : Option Int
  hasPoint : Bool

def numeral? (isPart : Char → Bool) (letter : Char) (text : List Char) : Option Numeral :=
  let whole := text.takeWhile isPart
  let rest := text.dropWhile isPart
  let (hasPoint, fraction, rest) := match rest with
    | '.' :: after => (true, after.takeWhile isPart, after.dropWhile isPart)
    | other => (false, [], other)
  if whole.isEmpty && fraction.isEmpty then none
  else
    match rest with
    | [] => some { whole, fraction, exponent := none, hasPoint }
    | c :: power =>
      if c.toLower = letter then
        (exponent? power).map fun n => { whole, fraction, exponent := some n, hasPoint }
      else none

/-- A hexadecimal number. Without a point and an exponent it wraps around. -/
def hexNumber? (text : List Char) : Option Number :=
  match numeral? isHex 'p' text with
  | none => none
  | some parts =>
    let digits := valueIn 16 (parts.whole ++ parts.fraction)
    if !parts.hasPoint && parts.exponent.isNone then some (.int (Int64.ofNat digits))
    else
      let power := parts.exponent.getD 0 - 4 * parts.fraction.length
      let span : Int := 4 * (parts.whole.length + parts.fraction.length) + 2000
      let value :=
        if digits = 0 || power < -span then 0
        else if span < power then 1.0 / 0.0
        else Decimal.nearest (Decimal.scaled 2 (digits, 1) power)
      some (.float value)

/-- A decimal number that is not below zero. A whole one that is out of range is a floating-point
one. -/
def decimalNumber? (text : List Char) : Option Number :=
  match numeral? isDigit 'e' text with
  | none => none
  | some parts =>
    let digits := valueIn 10 (parts.whole ++ parts.fraction)
    if !parts.hasPoint && parts.exponent.isNone && digits < Nat.pow 2 63 then
      some (.int (Int64.ofNat digits))
    else
      some (.float (Decimal.ofDigits digits (parts.exponent.getD 0 - parts.fraction.length)))

def unsigned? : List Char → Option Number
  | '0' :: x :: rest =>
    if x = 'x' || x = 'X' then hexNumber? rest else decimalNumber? ('0' :: x :: rest)
  | text => decimalNumber? text

def negate : Number → Number
  | .int value => .int (-value)
  | .float value => .float (-value)

/-- The least whole number cannot be written as the negation of another one. -/
def negated (text : List Char) (value : Number) : Number :=
  if text.all isDigit && valueIn 10 text = Nat.pow 2 63 then .int Int64.minValue
  else negate value

def signed? (text : List Char) : Option Number :=
  let inner := ((text.dropWhile isBlank).reverse.dropWhile isBlank).reverse
  match inner with
  | '-' :: rest => (unsigned? rest).map (negated rest)
  | '+' :: rest => unsigned? rest
  | rest => unsigned? rest

end Parley.Lua
