import Parley.Compression.Symbols
/-!
Reading the DEFLATE format.

Every step takes at least one bit, so the number of bits bounds the steps.
-/

namespace Parley.Compression

/-- Repeats bytes of the output, the ones just repeated included. -/
def copyBack : Nat → Nat → Array UInt8 → Array UInt8
  | 0, _, out => out
  | length + 1, distance, out =>
    copyBack length distance (out.push (out.getD (out.size - distance) 0))

def readRanged? (ranges : List Range) (symbol : Nat) (bits : List Bool) :
    Option (Nat × List Bool) := do
  let range ← ranges[symbol]?
  let (extra, rest) ← takeNumber? range.width bits
  some (range.base + extra, rest)

def readSymbols? (tree distances : CodeTree) :
    Nat → List Bool → Array UInt8 → Option (Array UInt8 × List Bool)
  | 0, _, _ => none
  | fuel + 1, bits, out => do
    let (symbol, rest) ← tree.read? bits
    if symbol < endSymbol then readSymbols? tree distances fuel rest (out.push (UInt8.ofNat symbol))
    else if symbol = endSymbol then some (out, rest)
    else
      let (length, rest) ← readRanged? lengthRanges (symbol - firstLengthSymbol) rest
      let (symbol, rest) ← distances.read? rest
      let (distance, rest) ← readRanged? distanceRanges symbol rest
      if distance ≤ out.size then
        readSymbols? tree distances fuel rest (copyBack length distance out)
      else none

def readBytes? : Nat → List Bool → Array UInt8 → Option (Array UInt8 × List Bool)
  | 0, bits, out => some (out, bits)
  | count + 1, bits, out => do
    let (byte, rest) ← takeNumber? 8 bits
    readBytes? count rest (out.push (UInt8.ofNat byte))

def readStored? (bits : List Bool) (out : Array UInt8) : Option (Array UInt8 × List Bool) := do
  let aligned := bits.drop (bits.length % 8)
  let (count, rest) ← takeNumber? 16 aligned
  let (check, rest) ← takeNumber? 16 rest
  if count + check = 0xFFFF then readBytes? count rest out else none

def widthOrder : List Nat :=
  [16, 17, 18, 0, 8, 7, 9, 6, 10, 5, 11, 4, 12, 3, 13, 2, 14, 1, 15]

def readTriples? : Nat → List Bool → Option (List Nat × List Bool)
  | 0, bits => some ([], bits)
  | count + 1, bits => do
    let (n, rest) ← takeNumber? 3 bits
    let (others, rest) ← readTriples? count rest
    some (n :: others, rest)

/-- Widths, of which runs are written shortly. The ones read so far come last first. -/
def readWidths? (tree : CodeTree) (total : Nat) :
    Nat → List Nat → List Bool → Option (List Nat × List Bool)
  | 0, _, _ => none
  | fuel + 1, seen, bits =>
    if seen.length = total then some (seen.reverse, bits)
    else if total < seen.length then none
    else do
      let (symbol, rest) ← tree.read? bits
      match symbol with
      | 16 =>
        let last ← seen.head?
        let (extra, rest) ← takeNumber? 2 rest
        readWidths? tree total fuel (List.replicate (3 + extra) last ++ seen) rest
      | 17 =>
        let (extra, rest) ← takeNumber? 3 rest
        readWidths? tree total fuel (List.replicate (3 + extra) 0 ++ seen) rest
      | 18 =>
        let (extra, rest) ← takeNumber? 7 rest
        readWidths? tree total fuel (List.replicate (11 + extra) 0 ++ seen) rest
      | width => readWidths? tree total fuel (width :: seen) rest

def readTrees? (bits : List Bool) : Option (CodeTree × CodeTree × List Bool) := do
  let (symbols, rest) ← takeNumber? 5 bits
  let (distances, rest) ← takeNumber? 5 rest
  let (count, rest) ← takeNumber? 4 rest
  let (triples, rest) ← readTriples? (count + 4) rest
  let given := widthOrder.zip triples
  let widthTree := CodeTree.ofWidths ((List.range 19).map fun symbol =>
    (given.lookup symbol).getD 0)
  let (widths, rest) ←
    readWidths? widthTree (symbols + 257 + (distances + 1)) (bits.length + 1) [] rest
  some (.ofWidths (widths.take (symbols + 257)), .ofWidths (widths.drop (symbols + 257)), rest)

def readBlocks? : Nat → List Bool → Array UInt8 → Option (Array UInt8)
  | 0, _, _ => none
  | fuel + 1, bits, out => do
    let (last, rest) ← takeNumber? 1 bits
    let (kind, rest) ← takeNumber? 2 rest
    let (out, rest) ←
      match kind with
      | 0 => readStored? rest out
      | 1 => readSymbols? fixedTree fixedDistanceTree (rest.length + 1) rest out
      | 2 =>
        match readTrees? rest with
        | some (tree, distances, rest) => readSymbols? tree distances (rest.length + 1) rest out
        | none => none
      | _ => none
    if last = 1 then some out else readBlocks? fuel rest out

/-- The content of compressed bytes. What comes after the last block does not matter. -/
def inflate? (bytes : List UInt8) : Option (List UInt8) :=
  let bits := bitsOf bytes
  (readBlocks? (bits.length + 1) bits #[]).map Array.toList

end Parley.Compression
