/-!
A place in a YAML text: what lies ahead, and the line, column and offset it is at.

Behind the end every look ahead gives the character NUL, which no YAML text may hold.
-/

namespace Parley.Yaml

structure Cursor where
  ahead : List Char
  line : Nat
  column : Nat
  offset : Nat

/-- The characters a text may hold. The byte order mark is let through at the very start only. -/
def isAllowed (c : Char) : Bool :=
  let n := c.toNat
  n = 0x9 || n = 0xA || n = 0xD || (0x20 ≤ n && n ≤ 0x7E) || n = 0x85 ||
    (0xA0 ≤ n && n ≤ 0xD7FF) || (0xE000 ≤ n && n ≤ 0xFFFD && n ≠ 0xFEFF) || 0x10000 ≤ n

def isBreak (c : Char) : Bool :=
  c = '\r' || c = '\n' || c = '\x85' || c = '\u2028' || c = '\u2029'

def isBreakOrEnd (c : Char) : Bool := isBreak c || c = '\x00'

def isBlank (c : Char) : Bool := c = ' ' || c = '\t'

def isGap (c : Char) : Bool := isBlank c || isBreakOrEnd c

def isWord (c : Char) : Bool :=
  ('0' ≤ c && c ≤ '9') || ('a' ≤ c && c ≤ 'z') || ('A' ≤ c && c ≤ 'Z') || c = '_' || c = '-'

namespace Cursor

def start (text : List Char) : Cursor := ⟨text, 0, 0, 0⟩

def peek (cursor : Cursor) : Char :=
  match cursor.ahead with
  | c :: _ => c
  | [] => '\x00'

def peekAt (cursor : Cursor) (distance : Nat) : Char := (cursor.ahead.drop distance).headD '\x00'

def atEnd (cursor : Cursor) : Bool := cursor.ahead.isEmpty

def skip (cursor : Cursor) : Cursor :=
  match cursor.ahead with
  | _ :: rest => ⟨rest, cursor.line, cursor.column + 1, cursor.offset + 1⟩
  | [] => cursor

def skipMany (cursor : Cursor) : Nat → Cursor
  | 0 => cursor
  | n + 1 => cursor.skip.skipMany n

def skipBreak (cursor : Cursor) : Cursor :=
  match cursor.ahead with
  | '\r' :: '\n' :: rest => ⟨rest, cursor.line + 1, 0, cursor.offset + 2⟩
  | c :: rest =>
    if isBreak c then ⟨rest, cursor.line + 1, 0, cursor.offset + 1⟩ else cursor
  | [] => cursor

/-- A line break as it counts in a scalar: the two of Unicode stay, all others are line feeds. -/
def breakText (cursor : Cursor) : List Char :=
  match cursor.ahead with
  | c :: _ => if c = '\u2028' || c = '\u2029' then [c] else if isBreak c then ['\n'] else []
  | [] => []

def skipWhile (cursor : Cursor) (such : Char → Bool) : Cursor :=
  let passed := (cursor.ahead.takeWhile such).length
  ⟨cursor.ahead.drop passed, cursor.line, cursor.column + passed, cursor.offset + passed⟩

def takeWhile (cursor : Cursor) (such : Char → Bool) : List Char := cursor.ahead.takeWhile such

/-- A document marker stands here: three dashes or dots at the start of a line, and a gap. -/
def atMarker (cursor : Cursor) (mark : Char) : Bool :=
  cursor.column = 0 && cursor.peek = mark && cursor.peekAt 1 = mark && cursor.peekAt 2 = mark &&
    isGap (cursor.peekAt 3)

def atAnyMarker (cursor : Cursor) : Bool := cursor.atMarker '-' || cursor.atMarker '.'

end Cursor
end Parley.Yaml
