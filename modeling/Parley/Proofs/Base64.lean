import Parley.Base64
/-!
Reading undoes writing, for every alphabet.

Three bytes are four digits; one or two bytes at the end are two or three, and the bits these
have to spare are zeros.
-/

namespace Parley.Base64

theorem Alphabet.value?_digit (alphabet : Alphabet) (n : Nat) :
    alphabet.value? (alphabet.digit n) = some (n % 64) := by
  have inside : n % 64 < alphabet.digits.length := by
    rw [alphabet.complete]
    omega
  rw [Alphabet.value?, List.idxOf?_eq_some_iff]
  apply Exists.intro inside
  constructor
  · rfl
  · intro place before same
    have distinct := alphabet.distinct
    rw [List.nodup_iff_pairwise_ne, List.pairwise_iff_getElem] at distinct
    exact distinct place (n % 64) (by omega) inside before same

theorem Alphabet.digit_mem (alphabet : Alphabet) (n : Nat) :
    alphabet.digit n ∈ alphabet.digits := List.get_mem _ _

theorem mem_digits_of_mem_encode (alphabet : Alphabet) (bytes : List UInt8) :
    ∀ c ∈ encode alphabet bytes, c ∈ alphabet.digits := by
  fun_induction encode alphabet bytes with
  | case1 a b c rest n ih =>
    intro digit held
    simp only [List.mem_cons] at held
    rcases held with rfl | rfl | rfl | rfl | later
    · exact alphabet.digit_mem _
    · exact alphabet.digit_mem _
    · exact alphabet.digit_mem _
    · exact alphabet.digit_mem _
    · exact ih digit later
  | case2 a b n => simp [alphabet.digit_mem]
  | case3 a n => simp [alphabet.digit_mem]
  | case4 => simp

theorem length_encode (alphabet : Alphabet) (bytes : List UInt8) :
    (encode alphabet bytes).length = (4 * bytes.length + 2) / 3 := by
  fun_induction encode alphabet bytes with
  | case1 a b c rest n ih =>
    simp only [List.length_cons, ih]
    omega
  | case2 a b n => simp only [List.length_cons, List.length_nil]
  | case3 a n => simp only [List.length_cons, List.length_nil]
  | case4 => rfl

theorem ofNat_eq_of_mod {n : Nat} {byte : UInt8} (same : n % 256 = byte.toNat) :
    UInt8.ofNat n = byte := by
  apply UInt8.toNat.inj
  rw [UInt8.toNat_ofNat', same]

theorem decode?_encode (alphabet : Alphabet) (bytes : List UInt8) :
    decode? alphabet (encode alphabet bytes) = some bytes := by
  fun_induction encode alphabet bytes with
  | case1 a b c rest n ih =>
    have aBound := a.toNat_lt
    have bBound := b.toNat_lt
    have cBound := c.toNat_lt
    have whole : n / 262144 % 64 * 262144 + n / 4096 % 64 * 4096 + n / 64 % 64 * 64 + n % 64 =
        n := by omega
    simp only [decode?, Alphabet.value?_digit, ih, Option.bind_eq_bind, Option.bind_some, whole]
    congr 1
    rw [ofNat_eq_of_mod (show n / 65536 % 256 = a.toNat by omega),
      ofNat_eq_of_mod (show n / 256 % 256 = b.toNat by omega),
      ofNat_eq_of_mod (show n % 256 = c.toNat by omega)]
  | case2 a b n =>
    have aBound := a.toNat_lt
    have bBound := b.toNat_lt
    have whole : n / 4096 % 64 * 4096 + n / 64 % 64 * 64 + n % 64 = n := by omega
    have spare : n % 4 = 0 := by omega
    simp only [decode?, Alphabet.value?_digit, Option.bind_eq_bind, Option.bind_some, whole,
      spare, if_true]
    rw [ofNat_eq_of_mod (show n / 1024 % 256 = a.toNat by omega),
      ofNat_eq_of_mod (show n / 4 % 256 = b.toNat by omega)]
  | case3 a n =>
    have aBound := a.toNat_lt
    have whole : n / 64 % 64 * 64 + n % 64 = n := by omega
    have spare : n % 16 = 0 := by omega
    simp only [decode?, Alphabet.value?_digit, Option.bind_eq_bind, Option.bind_some, whole,
      spare, if_true]
    rw [ofNat_eq_of_mod (show n / 16 % 256 = a.toNat by omega)]
  | case4 => rfl

end Parley.Base64
