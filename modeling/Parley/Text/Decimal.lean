/-!
Floating-point numbers in decimal notation, rounded exactly.

A finite number is a whole number times a power of two, so it is a fraction of whole numbers, and
so is what a decimal notation stands for. Both ways go through that fraction and round half to even.
-/

namespace Parley.Decimal

def fractionOf (x : Float) : Nat × Nat :=
  let bits := x.toBits.toNat % Nat.pow 2 63
  let fraction := bits % Nat.pow 2 52
  let field := bits / Nat.pow 2 52
  let mantissa := if field = 0 then fraction else fraction + Nat.pow 2 52
  let step := max field 1
  if 1075 ≤ step then (mantissa * Nat.pow 2 (step - 1075), 1)
  else (mantissa, Nat.pow 2 (1075 - step))

def isNegative (x : Float) : Bool := Nat.pow 2 63 ≤ x.toBits.toNat

/-- The quotient, rounded to the nearest whole number, and to the even one of two. -/
def roundedQuotient (numerator denominator : Nat) : Nat :=
  let quotient := numerator / denominator
  let twice := 2 * (numerator % denominator)
  if denominator < twice || (denominator = twice && quotient % 2 = 1) then quotient + 1
  else quotient

def scaled (base : Nat) (fraction : Nat × Nat) : Int → Nat × Nat
  | .ofNat n => (fraction.1 * base.pow n, fraction.2)
  | .negSucc n => (fraction.1, fraction.2 * base.pow (n + 1))

def digitCount (n : Nat) : Nat := (Nat.toDigits 10 n).length

def firstPower (fraction : Nat × Nat) : Int :=
  let guess : Int := (digitCount fraction.1 : Int) - digitCount fraction.2
  let (numerator, denominator) := scaled 10 fraction (-guess)
  if numerator < denominator then guess - 1 else guess

/-- So many digits of a fraction that is not zero, as one number, and the power of ten of the first
one. -/
def significant (count : Nat) (fraction : Nat × Nat) : Nat × Int :=
  let power := firstPower fraction
  let (numerator, denominator) := scaled 10 fraction (count - 1 - power)
  let digits := roundedQuotient numerator denominator
  if digits = Nat.pow 10 count then (Nat.pow 10 (count - 1), power + 1) else (digits, power)

def nearest (fraction : Nat × Nat) : Float :=
  if fraction.1 = 0 then 0
  else
    let guess : Int := (fraction.1.log2 : Int) - fraction.2.log2 - 52
    let (numerator, denominator) := scaled 2 fraction (-guess)
    let isShort := numerator < denominator * Nat.pow 2 52
    let exponent := max (if isShort then guess - 1 else guess) (-1074)
    let (numerator, denominator) := scaled 2 fraction (-exponent)
    (Float.ofNat (roundedQuotient numerator denominator)).scaleB exponent

def ofDigits (digits : Nat) (power : Int) : Float :=
  if 400 < power && digits ≠ 0 then 1.0 / 0.0
  else if power < -800 - digitCount digits then 0
  else nearest (scaled 10 (digits, 1) power)

def dropZeros (digits : List Char) : List Char := (digits.reverse.dropWhile (· = '0')).reverse

def pointed (digits : List Char) : List Char := if digits.isEmpty then [] else '.' :: digits

/-- Digits in place, without an exponent. `power` is the power of ten of the first one. -/
def inPlace (digits : List Char) (power : Int) : List Char :=
  match power with
  | .ofNat n =>
    let whole := digits.take (n + 1)
    whole ++ List.replicate (n + 1 - whole.length) '0' ++ pointed (digits.drop (n + 1))
  | .negSucc n => '0' :: pointed (List.replicate n '0' ++ digits)

def withExponent (digits : List Char) (power : Int) : List Char :=
  let exponent := Nat.toDigits 10 power.natAbs
  digits.take 1 ++ pointed (digits.drop 1) ++ ['e', if power < 0 then '-' else '+'] ++
    List.replicate (2 - exponent.length) '0' ++ exponent

def signed (x : Float) (text : List Char) : String :=
  String.ofList (if isNegative x then '-' :: text else text)

/-- At most so many digits, with an exponent only if the number is far from one. -/
def general (count : Nat) (x : Float) : String :=
  if x.isNaN then "-nan"
  else if x.isInf then signed x ['i', 'n', 'f']
  else if x == 0 then signed x ['0']
  else
    let (digits, power) := significant count (fractionOf x)
    let kept := dropZeros (Nat.toDigits 10 digits)
    signed x (if -4 ≤ power && power < count then inPlace kept power else withExponent kept power)

def digitsNeeded (x : Float) : Nat → Nat
  | 0 => 17
  | more + 1 =>
    let count := 17 - more
    let (digits, power) := significant count (fractionOf x)
    if ofDigits digits (power - count + 1) == x.abs then count else digitsNeeded x more

/-- As many digits as needed, in place, and at least one after the point. -/
def shortest (x : Float) : String :=
  if x.isNaN then "NaN"
  else if x.isInf then signed x ['i', 'n', 'f']
  else if x == 0 then signed x ['0', '.', '0']
  else
    let (digits, power) := significant (digitsNeeded x 17) (fractionOf x)
    let text := inPlace (dropZeros (Nat.toDigits 10 digits)) power
    signed x (if text.contains '.' then text else text ++ ['.', '0'])

end Parley.Decimal
