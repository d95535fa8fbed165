/-!
PINs of six digits, drawn one after the other.
-/

namespace Parley

def PinStream : Type := Nat → Fin 1000000

namespace PinStream

def head (pins : PinStream) : Fin 1000000 := pins 0

def tail (pins : PinStream) : PinStream := fun n => pins (n + 1)

def constant (pin : Fin 1000000) : PinStream := fun _ => pin

end PinStream

def pinText (pin : Fin 1000000) : String :=
  let digits := Nat.toDigits 10 pin.val
  String.ofList (List.replicate (6 - digits.length) '0' ++ digits)

end Parley
