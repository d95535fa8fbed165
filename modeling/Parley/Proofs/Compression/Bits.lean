import Mathlib.Algebra.Ring.Nat
import Parley.Compression.Bits
/-!
What is written as bits is read again: numbers of a given width, and bits that were packed into
bytes, which may be followed by zeros.
-/

namespace Parley.Compression

theorem lowFirst_zero (width : Nat) : lowFirst width 0 = List.replicate width false := by
  induction width with
  | zero => rfl
  | succ width ih => exact congrArg (false :: ·) ih

theorem toNat_lowest (n : Nat) : (decide (n % 2 = 1)).toNat = n % 2 := by
  rcases Nat.mod_two_eq_zero_or_one n with even | odd
  · rw [even]
    rfl
  · rw [odd]
    rfl

theorem takeNumber?_lowFirst (width n : Nat) (rest : List Bool) :
    takeNumber? width (lowFirst width n ++ rest) = some (n % 2 ^ width, rest) := by
  induction width generalizing n with
  | zero => rw [Nat.pow_zero, Nat.mod_one, lowFirst, List.nil_append, takeNumber?]
  | succ width ih =>
    have split : n % 2 ^ (width + 1) = n % 2 + 2 * (n / 2 % 2 ^ width) := by
      rw [Nat.pow_succ, Nat.mul_comm, Nat.mod_mul]
    rw [lowFirst, List.cons_append, takeNumber?, ih, Option.map_some, toNat_lowest, split]

theorem numberOf_lt (bits : List Bool) : numberOf bits < 2 ^ bits.length := by
  induction bits with
  | nil => decide
  | cons bit rest ih =>
    have bound := Bool.toNat_le bit
    rw [numberOf, List.length_cons, Nat.pow_succ]
    omega

theorem lowFirst_numberOf (bits : List Bool) (spare : Nat) :
    lowFirst (bits.length + spare) (numberOf bits) = bits ++ List.replicate spare false := by
  induction bits with
  | nil => rw [List.length_nil, Nat.zero_add, numberOf, lowFirst_zero, List.nil_append]
  | cons bit rest ih =>
    have width : (bit :: rest).length + spare = (rest.length + spare) + 1 := by
      rw [List.length_cons]
      omega
    have lowest : decide ((bit.toNat + 2 * numberOf rest) % 2 = 1) = bit := by
      rw [Nat.add_mul_mod_self_left]
      cases bit <;> rfl
    have higher : (bit.toNat + 2 * numberOf rest) / 2 = numberOf rest := by
      have bound := Bool.toNat_lt bit
      omega
    rw [width, lowFirst, numberOf, lowest, higher, ih, List.cons_append]

theorem lowFirst_byte {bits : List Bool} (short : bits.length ≤ 8) :
    lowFirst 8 (UInt8.ofNat (numberOf bits)).toNat =
      bits ++ List.replicate (8 - bits.length) false := by
  have small : numberOf bits < 2 ^ 8 :=
    Nat.lt_of_lt_of_le (numberOf_lt bits) (Nat.pow_le_pow_right (by decide) short)
  have held : (UInt8.ofNat (numberOf bits)).toNat = numberOf bits :=
    UInt8.toNat_ofNat_of_lt' small
  have width : 8 = bits.length + (8 - bits.length) := by omega
  calc
    lowFirst 8 (UInt8.ofNat (numberOf bits)).toNat =
        lowFirst (bits.length + (8 - bits.length)) (numberOf bits) := by rw [held, ← width]
    _ = _ := lowFirst_numberOf bits _

theorem bitsOf_cons (byte : UInt8) (bytes : List UInt8) :
    bitsOf (byte :: bytes) = lowFirst 8 byte.toNat ++ bitsOf bytes := List.flatMap_cons

theorem bitsOf_packed (bits : List Bool) :
    ∃ padding, bitsOf (packed bits) = bits ++ List.replicate padding false := by
  fun_induction packed bits with
  | case1 b0 b1 b2 b3 b4 b5 b6 b7 rest ih =>
    obtain ⟨padding, later⟩ := ih
    apply Exists.intro padding
    have whole : [b0, b1, b2, b3, b4, b5, b6, b7].length ≤ 8 := Nat.le_refl 8
    rw [bitsOf_cons, later, lowFirst_byte whole]
    rfl
  | case2 => exact ⟨0, rfl⟩
  | case3 bits notLong notEmpty =>
    have short : bits.length ≤ 8 := by
      apply Nat.le_of_not_lt
      intro long
      match bits, long with
      | b0 :: b1 :: b2 :: b3 :: b4 :: b5 :: b6 :: b7 :: rest, _ =>
        exact notLong b0 b1 b2 b3 b4 b5 b6 b7 rest rfl
    apply Exists.intro (8 - bits.length)
    rw [bitsOf_cons, lowFirst_byte short]
    exact List.append_nil _

end Parley.Compression
