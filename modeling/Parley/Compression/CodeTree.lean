import Parley.Compression.Bits
/-!
Codes of varying width of which none starts another, as binary trees.

A list of widths, one for each symbol, determines the codes: narrow ones come before wide ones,
and among codes of one width the symbols are in order.
-/

namespace Parley.Compression

inductive CodeTree where
  /-- No code goes here. -/
  | free
  | symbol (value : Nat)
  | branch (zero one : CodeTree)

namespace CodeTree

def insert (value : Nat) : List Bool → CodeTree → CodeTree
  | [], _ => symbol value
  | false :: rest, branch zero one => branch (zero.insert value rest) one
  | true :: rest, branch zero one => branch zero (one.insert value rest)
  | false :: rest, _ => branch (free.insert value rest) free
  | true :: rest, _ => branch free (free.insert value rest)

def read? : CodeTree → List Bool → Option (Nat × List Bool)
  | symbol value, bits => some (value, bits)
  | branch zero one, bit :: rest => (if bit then one else zero).read? rest
  | _, _ => none

def codesFrom (widths : List (Nat × Nat)) : Nat → Nat → Nat → List (Nat × List Bool)
  | 0, _, _ => []
  | more + 1, width, code =>
    let here := widths.filter fun entry => entry.1 = width
    (here.zipIdx code).map (fun entry => (entry.1.2, highFirst width entry.2)) ++
      codesFrom widths more (width + 1) (2 * (code + here.length))

/-- The code of each symbol; a symbol of width zero has none. -/
def codes (widths : List Nat) : List (Nat × List Bool) := codesFrom widths.zipIdx 15 1 0

def ofWidths (widths : List Nat) : CodeTree :=
  (codes widths).foldl (fun tree entry => tree.insert entry.1 entry.2) free

theorem read?_append {tree : CodeTree} {code : List Bool} {value : Nat} (rest : List Bool)
    (found : tree.read? code = some (value, [])) :
    tree.read? (code ++ rest) = some (value, rest) := by
  induction tree generalizing code with
  | free => simp [read?] at found
  | symbol held =>
    simp only [read?, Option.some.injEq, Prod.mk.injEq] at found
    simp [read?, found.1, found.2]
  | branch zero one ihZero ihOne =>
    cases code with
    | nil => simp [read?] at found
    | cons bit code =>
      simp only [read?, List.cons_append] at found ⊢
      cases bit with
      | false => exact ihZero (by simpa using found)
      | true => exact ihOne (by simpa using found)

end CodeTree
end Parley.Compression
