/-!
Base64 without padding, over a given alphabet.
-/

namespace Parley.Base64

structure Alphabet where
  digits : List Char
  complete : digits.length = 64
  distinct : digits.Nodup

def Alphabet.digit (alphabet : Alphabet) (n : Nat) : Char :=
  alphabet.digits.get ⟨n % 64, by rw [alphabet.complete]; exact Nat.mod_lt _ (by decide)⟩

def Alphabet.value? (alphabet : Alphabet) (c : Char) : Option Nat := alphabet.digits.idxOf? c

def encode (alphabet : Alphabet) : List UInt8 → List Char
  | a :: b :: c :: rest =>
    let n := a.toNat * 65536 + b.toNat * 256 + c.toNat
    alphabet.digit (n / 262144) :: alphabet.digit (n / 4096) :: alphabet.digit (n / 64) ::
      alphabet.digit n :: encode alphabet rest
  | [a, b] =>
    let n := a.toNat * 1024 + b.toNat * 4
    [alphabet.digit (n / 4096), alphabet.digit (n / 64), alphabet.digit n]
  | [a] =>
    let n := a.toNat * 16
    [alphabet.digit (n / 64), alphabet.digit n]
  | [] => []

/-- The bytes a text stands for. Bits that are left over must be zeros. -/
def decode? (alphabet : Alphabet) : List Char → Option (List UInt8)
  | a :: b :: c :: d :: rest => do
    let n := (← alphabet.value? a) * 262144 + (← alphabet.value? b) * 4096 +
      (← alphabet.value? c) * 64 + (← alphabet.value? d)
    let others ← decode? alphabet rest
    some (UInt8.ofNat (n / 65536) :: UInt8.ofNat (n / 256) :: UInt8.ofNat n :: others)
  | [a, b, c] => do
    let n := (← alphabet.value? a) * 4096 + (← alphabet.value? b) * 64 + (← alphabet.value? c)
    if n % 4 = 0 then some [UInt8.ofNat (n / 1024), UInt8.ofNat (n / 4)] else none
  | [a, b] => do
    let n := (← alphabet.value? a) * 64 + (← alphabet.value? b)
    if n % 16 = 0 then some [UInt8.ofNat (n / 16)] else none
  | [_] => none
  | [] => some []

end Parley.Base64
