/-!
Bytes as bits, the lowest bit of a byte first.
-/

namespace Parley.Compression

def lowFirst : Nat → Nat → List Bool
  | 0, _ => []
  | width + 1, n => (n % 2 = 1) :: lowFirst width (n / 2)

def highFirst (width n : Nat) : List Bool := (lowFirst width n).reverse

def numberOf : List Bool → Nat
  | [] => 0
  | bit :: rest => bit.toNat + 2 * numberOf rest

def bitsOf (bytes : List UInt8) : List Bool := bytes.flatMap fun byte => lowFirst 8 byte.toNat

/-- Bits as bytes; the last byte is filled up with zeros. -/
def packed : List Bool → List UInt8
  | b0 :: b1 :: b2 :: b3 :: b4 :: b5 :: b6 :: b7 :: rest =>
    UInt8.ofNat (numberOf [b0, b1, b2, b3, b4, b5, b6, b7]) :: packed rest
  | [] => []
  | fewer => [UInt8.ofNat (numberOf fewer)]

def takeNumber? : Nat → List Bool → Option (Nat × List Bool)
  | 0, bits => some (0, bits)
  | _ + 1, [] => none
  | width + 1, bit :: rest =>
    (takeNumber? width rest).map fun (n, left) => (bit.toNat + 2 * n, left)

end Parley.Compression
