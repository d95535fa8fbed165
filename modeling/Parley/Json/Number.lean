/-!
The numbers of JSON: their literals, and which of them are in the range of a double.
-/

namespace Parley.Json

def isDigit (c : Char) : Bool := '0' ≤ c && c ≤ '9'

def digitsValue (digits : List Char) : Nat :=
  digits.foldl (fun value c => 10 * value + (c.toNat - 48)) 0

def digits? (text : List Char) : Option (List Char × List Char) :=
  match text.takeWhile isDigit with
  | [] => none
  | digits => some (digits, text.dropWhile isDigit)

structure NumberParts where
  negative : Bool
  whole : List Char
  fraction : List Char
  exponentSign : List Char
  exponent : List Char

/-- Zero stands alone before the point. -/
def wholePart? : List Char → Option (List Char × List Char)
  | '0' :: rest => some (['0'], rest)
  | text => digits? text

def fractionPart? : List Char → Option (List Char × List Char)
  | '.' :: rest => digits? rest
  | text => some ([], text)

def exponentPart? : List Char → Option (List Char × List Char × List Char)
  | c :: rest =>
    if c = 'e' || c = 'E' then
      match rest with
      | '+' :: more => (digits? more).map fun (ds, left) => (['+'], ds, left)
      | '-' :: more => (digits? more).map fun (ds, left) => (['-'], ds, left)
      | more => (digits? more).map fun (ds, left) => ([], ds, left)
    else some ([], [], c :: rest)
  | [] => some ([], [], [])

def numberParts? (text : List Char) : Option (NumberParts × List Char) := do
  let (negative, unsigned) := match text with
    | '-' :: rest => (true, rest)
    | other => (false, other)
  let (whole, afterWhole) ← wholePart? unsigned
  let (fraction, afterFraction) ← fractionPart? afterWhole
  let (sign, exponent, left) ← exponentPart? afterFraction
  some (⟨negative, whole, fraction, sign, exponent⟩, left)

/-- The least number that rounds to infinity: half a step above the largest double. -/
def outOfRange : Nat := Nat.pow 2 1024 - Nat.pow 2 970

/-- The magnitude stays below `outOfRange`. The count of digits decides unless it is close. -/
def NumberParts.inRange (parts : NumberParts) : Bool :=
  let significant := (parts.whole ++ parts.fraction).dropWhile (· = '0')
  if significant.isEmpty then true else
    let power : Int := digitsValue parts.exponent
    let scale : Int :=
      (if parts.exponentSign = ['-'] then -power else power) - parts.fraction.length
    let order := significant.length + scale
    if order ≤ 308 then true
    else if order > 310 then false
    else if scale < 0 then
      digitsValue significant < outOfRange * Nat.pow 10 (-scale).toNat
    else digitsValue significant * Nat.pow 10 scale.toNat < outOfRange

end Parley.Json
