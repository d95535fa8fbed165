/-!
White space as Unicode's property `White_Space` has it, and texts cut along it.
-/

namespace Parley.Text

/-- The twenty-five characters with the property `White_Space`. -/
def isBlank (c : Char) : Bool :=
  let n := c.toNat
  (0x9 ≤ n && n ≤ 0xD) || n = 0x20 || n = 0x85 || n = 0xA0 || n = 0x1680 ||
    (0x2000 ≤ n && n ≤ 0x200A) || n = 0x2028 || n = 0x2029 || n = 0x202F || n = 0x205F || n = 0x3000

def trimmed (text : List Char) : List Char :=
  ((text.dropWhile isBlank).reverse.dropWhile isBlank).reverse

def trim (text : String) : String := String.ofList (trimmed text.toList)

def isBlankText (text : String) : Bool := text.toList.all isBlank

/-- Splits at the blanks. The first argument is the word being read, last character first. -/
def wordsFrom : List Char → List Char → List (List Char)
  | [], [] => []
  | current, [] => [current.reverse]
  | current, c :: rest =>
    if isBlank c then
      match current with
      | [] => wordsFrom [] rest
      | word => word.reverse :: wordsFrom [] rest
    else wordsFrom (c :: current) rest

def words (text : String) : List String := (wordsFrom [] text.toList).map String.ofList

theorem dropWhile_of_all_blank {text : List Char} (blank : text.all isBlank = true) :
    text.dropWhile isBlank = [] := by
  induction text with
  | nil => rfl
  | cons c rest ih =>
    simp only [List.all_cons, Bool.and_eq_true] at blank
    simp [blank.1, ih blank.2]

theorem trimmed_of_all_blank {text : List Char} (blank : text.all isBlank = true) :
    trimmed text = [] := by
  simp [trimmed, dropWhile_of_all_blank blank]

end Parley.Text
