import Parley.Compression.Symbols
/-!
Writing the DEFLATE format: one block with the fixed code.

Repetitions are looked for in a window before each place, and the longest one is taken.
-/

namespace Parley.Compression

inductive Token where
  | byte (value : UInt8)
  /-- So many bytes as they stand that far back. -/
  | repeated (length distance : Nat)

def longest : Nat := 258

def shortest : Nat := 3

def window : Nat := 1024

def runLength (bytes : Array UInt8) (distance : Nat) : Nat → Nat → Nat
  | 0, _ => 0
  | limit + 1, place =>
    if place < bytes.size && bytes.getD place 0 = bytes.getD (place - distance) 0 then
      runLength bytes distance limit (place + 1) + 1
    else 0

/-- The longest run at any distance up to the given one, the nearest among equally long ones: its
length and its distance. -/
def bestRun (bytes : Array UInt8) (place : Nat) : Nat → Nat × Nat
  | 0 => (0, 0)
  | distance + 1 =>
    let nearer := bestRun bytes place distance
    let length := runLength bytes (distance + 1) longest place
    if nearer.1 < length then (length, distance + 1) else nearer

def tokenAt (bytes : Array UInt8) (place : Nat) : Token :=
  let (length, distance) := bestRun bytes place (min window place)
  if shortest ≤ length then .repeated length distance else .byte (bytes.getD place 0)

def Token.size : Token → Nat
  | byte _ => 1
  | repeated length _ => length

/-- The tokens of the bytes from a place on; each stands for one byte or more. -/
def tokensFrom (bytes : Array UInt8) : Nat → Nat → List Token
  | 0, _ => []
  | fuel + 1, place =>
    if place < bytes.size then
      let token := tokenAt bytes place
      token :: tokensFrom bytes fuel (place + token.size)
    else []

def fixedCode (symbol : Nat) : List Bool :=
  if symbol < 144 then highFirst 8 (0x30 + symbol)
  else if symbol < 256 then highFirst 9 (0x190 + (symbol - 144))
  else if symbol < 280 then highFirst 7 (symbol - 256)
  else highFirst 8 (0xC0 + (symbol - 280))

def rangeOf (n : Nat) : List Range → Nat × Range
  | [] => (0, ⟨0, 0⟩)
  | [range] => (0, range)
  | range :: next :: rest =>
    if n < next.base then (0, range)
    else
      let (place, found) := rangeOf n (next :: rest)
      (place + 1, found)

def tokenBits : Token → List Bool
  | .byte value => fixedCode value.toNat
  | .repeated length distance =>
    let (lengthPlace, lengthRange) := rangeOf length lengthRanges
    let (distancePlace, distanceRange) := rangeOf distance distanceRanges
    fixedCode (firstLengthSymbol + lengthPlace) ++
      lowFirst lengthRange.width (length - lengthRange.base) ++
      highFirst 5 distancePlace ++
      lowFirst distanceRange.width (distance - distanceRange.base)

/-- The header says that the block is the last one and has the fixed code. -/
def blockBits (tokens : List Token) : List Bool :=
  [true, true, false] ++ tokens.flatMap tokenBits ++ fixedCode endSymbol

def deflate (bytes : List UInt8) : List UInt8 :=
  let held := bytes.toArray
  packed (blockBits (tokensFrom held held.size 0))

end Parley.Compression
