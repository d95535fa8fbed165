import Parley.Text.LetterCase.Table
/-!
Capital and small letters of all scripts.

`lower` writes a capital sigma at the end of a word as the final small sigma; every other
character maps by itself, some of them to more than one.
-/

namespace Parley.Text
namespace LetterCase

def Shift.covers (shift : Shift) (n : Nat) : Bool :=
  shift.first ≤ n && n ≤ shift.last && (n - shift.first) % shift.stride == 0

def shifted (shifts : Array Shift) (n : Nat) : Nat :=
  match shifts.find? (·.covers n) with
  | some shift => (n + shift.distance).toNat
  | none => n

def within (ranges : Array (Nat × Nat)) (n : Nat) : Bool :=
  ranges.any fun range => range.1 ≤ n && n ≤ range.2

def mapped (long : List (Nat × List Nat)) (shifts : Array Shift) (c : Char) : List Char :=
  match long.lookup c.toNat with
  | some image => image.map Char.ofNat
  | none => [Char.ofNat (shifted shifts c.toNat)]

def facesCased (neighbours : List Char) : Bool :=
  match neighbours.dropWhile (fun c => within ignorableRanges c.toNat) with
  | c :: _ => within casedRanges c.toNat
  | [] => false

end LetterCase

open LetterCase

def lowerChar (c : Char) : List Char :=
  if c.toNat < 0x80 then [c.toLower] else mapped longLowerings loweringShifts c

def upperChar (c : Char) : List Char :=
  if c.toNat < 0x80 then [c.toUpper] else mapped longRaisings raisingShifts c

/-- The first argument is what was read so far, last character first. -/
def lowerFrom : List Char → List Char → List Char
  | _, [] => []
  | before, c :: rest =>
    let image :=
      if c = 'Σ' then
        if facesCased before && !facesCased rest then ['ς'] else ['σ']
      else lowerChar c
    image ++ lowerFrom (c :: before) rest

def lower (text : String) : String := String.ofList (lowerFrom [] text.toList)

def upper (text : String) : String := String.ofList (text.toList.flatMap upperChar)

end Parley.Text
