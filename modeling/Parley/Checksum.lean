/-!
The checksum CRC-32C (Castagnoli) over bytes, lowest bit first.
-/

namespace Parley.Checksum

def polynomial : UInt32 := 0x82F63B78

def shiftBit (state : UInt32) : UInt32 :=
  if state &&& 1 = 1 then (state >>> 1) ^^^ polynomial else state >>> 1

def takeByte (state : UInt32) (byte : UInt8) : UInt32 :=
  Nat.repeat shiftBit 8 (state ^^^ byte.toUInt32)

def crc32c (bytes : List UInt8) : UInt32 :=
  bytes.foldl takeByte 0xFFFFFFFF ^^^ 0xFFFFFFFF

def hex (sum : UInt32) : String :=
  let digits := Nat.toDigits 16 sum.toNat
  String.ofList (List.replicate (8 - digits.length) '0' ++ digits)

def ofText (text : String) : String := hex (crc32c text.toUTF8.toList)

end Parley.Checksum
