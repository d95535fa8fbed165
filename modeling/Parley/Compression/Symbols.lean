import Parley.Compression.CodeTree
/-!
The symbols of the DEFLATE format: 0 to 255 for the bytes, 256 for the end of a block, and from
257 on the ranges of lengths of a repetition. Distances have symbols of their own.
-/

namespace Parley.Compression

/-- A range of numbers that share a symbol: it starts at `base` and has `2 ^ width` numbers. -/
structure Range where
  base : Nat
  width : Nat

def rangesFrom : Nat → List Nat → List Range
  | _, [] => []
  | base, width :: rest => ⟨base, width⟩ :: rangesFrom (base + Nat.pow 2 width) rest

def lengthRanges : List Range :=
  rangesFrom 3
    [0, 0, 0, 0, 0, 0, 0, 0, 1, 1, 1, 1, 2, 2, 2, 2, 3, 3, 3, 3, 4, 4, 4, 4, 5, 5, 5, 5] ++
    [⟨258, 0⟩]

def distanceRanges : List Range :=
  rangesFrom 1
    [0, 0, 0, 0, 1, 1, 2, 2, 3, 3, 4, 4, 5, 5, 6, 6, 7, 7, 8, 8, 9, 9, 10, 10, 11, 11, 12, 12, 13,
      13]

def endSymbol : Nat := 256

def firstLengthSymbol : Nat := 257

def fixedWidths : List Nat :=
  List.replicate 144 8 ++ List.replicate 112 9 ++ List.replicate 24 7 ++ List.replicate 8 8

def fixedDistanceWidths : List Nat := List.replicate 30 5

def fixedTree : CodeTree := .ofWidths fixedWidths

def fixedDistanceTree : CodeTree := .ofWidths fixedDistanceWidths

end Parley.Compression
