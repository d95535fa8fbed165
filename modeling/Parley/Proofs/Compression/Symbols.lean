import Mathlib.Data.List.Chain
import Mathlib.Tactic.SplitIfs
import Parley.Compression.Deflate
import Parley.Compression.Inflate
import Parley.Proofs.Compression.Bits
/-!
Symbols are read as they are written: the codes of the fixed code, and numbers as a range with
some more bits.
-/

namespace Parley.Compression

theorem fixedTree_read? :
    ∀ symbol < 288, fixedTree.read? (fixedCode symbol) = some (symbol, []) := by
  decide +kernel

theorem fixedDistanceTree_read? :
    ∀ place < 30, fixedDistanceTree.read? (highFirst 5 place) = some (place, []) := by
  decide +kernel

theorem fixedCode_ne_nil (symbol : Nat) : fixedCode symbol ≠ [] := by
  have filled (width n : Nat) : highFirst (width + 1) n ≠ [] := by simp [highFirst, lowFirst]
  unfold fixedCode
  split_ifs <;> apply filled

def Range.stop (range : Range) : Nat := range.base + 2 ^ range.width

/-- No number is between a range and the next one. They may overlap. -/
def Near (range next : Range) : Prop := next.base ≤ range.stop

instance (range next : Range) : Decidable (Near range next) :=
  inferInstanceAs (Decidable (_ ≤ _))

structure Covers (ranges : List Range) (n place : Nat) (range : Range) : Prop where
  found : ranges[place]? = some range
  above : range.base ≤ n
  below : n < range.stop

theorem Covers.place_lt {ranges : List Range} {n place : Nat} {range : Range}
    (covers : Covers ranges n place range) : place < ranges.length :=
  (List.getElem?_eq_some_iff.mp covers.found).1

theorem covers_rangeOf {ranges : List Range} {n : Nat} (near : ranges.IsChain Near)
    (above : ∃ range ∈ ranges.head?, range.base ≤ n)
    (below : ∀ range ∈ ranges.getLast?, n < range.stop) :
    Covers ranges n (rangeOf n ranges).1 (rangeOf n ranges).2 := by
  fun_induction rangeOf n ranges with
  | case1 => simp at above
  | case2 range => exact ⟨rfl, by simpa using above, by simpa using below⟩
  | case3 range next rest before =>
    have linked : Near range next := (List.isChain_cons_cons.mp near).1
    exact ⟨rfl, by simpa using above, Nat.lt_of_lt_of_le before linked⟩
  | case4 range next rest notBefore place found same ih =>
    have inRest : Covers (next :: rest) n place found := by
      have later := ih (List.isChain_cons_cons.mp near).2
        ⟨next, rfl, Nat.le_of_not_lt notBefore⟩ (by simpa using below)
      rwa [same] at later
    exact ⟨inRest.found, inRest.above, inRest.below⟩

theorem covers_lengthRanges {length : Nat} (above : shortest ≤ length) (below : length ≤ longest) :
    Covers lengthRanges length (rangeOf length lengthRanges).1
      (rangeOf length lengthRanges).2 := by
  apply covers_rangeOf
  · decide
  · exact ⟨⟨3, 0⟩, rfl, above⟩
  · intro range last
    obtain rfl : range = ⟨258, 0⟩ := by simpa [lengthRanges] using last.symm
    exact Nat.lt_succ_of_le below

theorem covers_distanceRanges {distance : Nat} (above : 1 ≤ distance) (below : distance ≤ window) :
    Covers distanceRanges distance (rangeOf distance distanceRanges).1
      (rangeOf distance distanceRanges).2 := by
  apply covers_rangeOf
  · decide
  · exact ⟨⟨1, 0⟩, rfl, above⟩
  · intro range last
    have stop : ∀ range ∈ distanceRanges.getLast?, window < range.stop := by decide
    exact Nat.lt_of_le_of_lt below (stop range last)

theorem Covers.readRanged? {ranges : List Range} {n place : Nat} {range : Range}
    (covers : Covers ranges n place range) (rest : List Bool) :
    readRanged? ranges place (lowFirst range.width (n - range.base) ++ rest) = some (n, rest) := by
  have small : n - range.base < 2 ^ range.width := by
    have above := covers.above
    have below := covers.below
    unfold Range.stop at below
    omega
  have whole : range.base + (n - range.base) = n := Nat.add_sub_cancel' covers.above
  simp only [Compression.readRanged?, covers.found, takeNumber?_lowFirst, Nat.mod_eq_of_lt small,
    whole, Option.bind_eq_bind, Option.bind_some]

end Parley.Compression
