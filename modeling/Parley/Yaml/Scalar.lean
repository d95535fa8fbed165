import Parley.Yaml.Cursor
/-!
The four forms of a scalar: plain, in single quotes, in double quotes, and as a block.

Blanks and breaks between two pieces of a scalar are held back until it is known whether more
follows: a lone line break folds to a space, further ones stay.
-/

namespace Parley.Yaml

structure Gap where
  /-- A line break was among them. -/
  broken : Bool
  /-- Blanks on the line of the last character, last first. -/
  blanks : List Char
  /-- The first line break. -/
  first : List Char
  /-- The line breaks after it, last first. -/
  further : List Char

namespace Gap

def none : Gap := ⟨false, [], [], []⟩

/-- What the gap leaves in the scalar, last character first. -/
def folded (gap : Gap) : List Char :=
  if gap.broken then
    if gap.first = ['\n'] then
      if gap.further.isEmpty then [' '] else gap.further
    else gap.further ++ gap.first.reverse
  else gap.blanks

def crossed (gap : Gap) (lineBreak : List Char) : Gap :=
  if gap.broken then { gap with further := lineBreak.reverse ++ gap.further }
  else ⟨true, [], lineBreak, gap.further⟩

end Gap

/-- Reads blanks and breaks. A tab before column `indent` of a later line is not allowed. -/
def readGap (indent : Nat) : Nat → Cursor → Gap → Option (Cursor × Gap)
  | 0, _, _ => none
  | fuel + 1, cursor, gap =>
    let c := cursor.peek
    if isBlank c then
      if gap.broken && cursor.column < indent && c = '\t' then none
      else if gap.broken then readGap indent fuel cursor.skip gap
      else readGap indent fuel cursor.skip { gap with blanks := c :: gap.blanks }
    else if isBreak c then readGap indent fuel cursor.skipBreak (gap.crossed cursor.breakText)
    else some (cursor, gap)

/-- A scalar that was read: its text, where it ends, and whether the last gap held a break. -/
structure Scanned where
  text : String
  cursor : Cursor
  broken : Bool

def isFlowBracket (c : Char) : Bool := c = ',' || c = '[' || c = ']' || c = '\x7b' || c = '\x7d'

/-- The characters of a plain scalar up to a blank, a break or an indicator, last first. Inside
brackets a colon may not touch the next indicator. -/
def plainRun (inFlow : Bool) : Nat → Cursor → List Char → Option (Cursor × List Char)
  | 0, _, _ => none
  | fuel + 1, cursor, held =>
    let c := cursor.peek
    if isGap c then some (cursor, held)
    else if inFlow && c = ':' && (isFlowBracket (cursor.peekAt 1) || cursor.peekAt 1 = '?') then
      none
    else if (c = ':' && isGap (cursor.peekAt 1)) || (inFlow && isFlowBracket c) then
      some (cursor, held)
    else plainRun inFlow fuel cursor.skip (c :: held)

/-- A plain scalar goes on over lines that are indented at least to column `indent`. -/
def scanPlainFrom (inFlow : Bool) (indent : Nat) :
    Nat → Cursor → Gap → List Char → Option Scanned
  | 0, _, _, _ => none
  | fuel + 1, cursor, gap, held =>
    let finished (cursor : Cursor) (gap : Gap) (held : List Char) : Scanned :=
      ⟨String.ofList held.reverse, cursor, gap.broken⟩
    if cursor.atAnyMarker || cursor.peek = '#' then some (finished cursor gap held)
    else
      match plainRun inFlow (fuel + 1) cursor [] with
      | none => none
      | some (after, run) =>
        let held := if run.isEmpty then held else run ++ gap.folded ++ held
        let gap := if run.isEmpty then gap else Gap.none
        if isBlank after.peek || isBreak after.peek then
          match readGap indent (fuel + 1) after gap with
          | none => none
          | some (next, gap) =>
            if !inFlow && next.column < indent then some (finished next gap held)
            else scanPlainFrom inFlow indent fuel next gap held
        else some (finished after gap held)

def hexValue? (c : Char) : Option Nat :=
  if '0' ≤ c && c ≤ '9' then some (c.toNat - 48)
  else if 'a' ≤ c && c ≤ 'f' then some (c.toNat - 87)
  else if 'A' ≤ c && c ≤ 'F' then some (c.toNat - 55)
  else none

def namedChar? (digits : List Char) (count : Nat) : Option Char := do
  if digits.length ≠ count then none
  let value ← digits.foldlM (fun value c => (hexValue? c).map (16 * value + ·)) 0
  if (0xD800 ≤ value && value ≤ 0xDFFF) || 0x10FFFF < value then none
  some (Char.ofNat value)

def shortEscape? : Char → Option Char
  | '0' => some '\x00'
  | 'a' => some '\x07'
  | 'b' => some '\x08'
  | 't' => some '\t'
  | '\t' => some '\t'
  | 'n' => some '\n'
  | 'v' => some '\x0b'
  | 'f' => some '\x0c'
  | 'r' => some '\r'
  | 'e' => some '\x1b'
  | ' ' => some ' '
  | '"' => some '"'
  | '/' => some '/'
  | '\\' => some '\\'
  | 'N' => some '\x85'
  | '_' => some '\xa0'
  | 'L' => some '\u2028'
  | 'P' => some '\u2029'
  | _ => none

def escape? (cursor : Cursor) : Option (Char × Nat) :=
  let wide (count : Nat) : Option (Char × Nat) :=
    (namedChar? ((cursor.ahead.drop 2).take count) count).map fun c => (c, count + 2)
  match cursor.peekAt 1 with
  | 'x' => wide 2
  | 'u' => wide 4
  | 'U' => wide 8
  | c => (shortEscape? c).map fun c => (c, 2)

/-- The characters of a quoted scalar up to a blank, a break or the closing quote, last first, and
whether they end with an escaped line break. -/
def quotedRun (single : Bool) : Nat → Cursor → List Char → Option (Cursor × List Char × Bool)
  | 0, _, _ => none
  | fuel + 1, cursor, held =>
    let c := cursor.peek
    if isGap c then some (cursor, held, false)
    else if single && c = '\'' && cursor.peekAt 1 = '\'' then
      quotedRun single fuel (cursor.skipMany 2) ('\'' :: held)
    else if c = (if single then '\'' else '"') then some (cursor, held, false)
    else if !single && c = '\\' then
      if isBreak (cursor.peekAt 1) then some (cursor.skip.skipBreak, held, true)
      else
        match escape? cursor with
        | some (meant, count) => quotedRun single fuel (cursor.skipMany count) (meant :: held)
        | none => none
    else quotedRun single fuel cursor.skip (c :: held)

def scanQuotedFrom (single : Bool) : Nat → Cursor → List Char → Option Scanned
  | 0, _, _ => none
  | fuel + 1, cursor, held =>
    if cursor.atAnyMarker || cursor.atEnd then none
    else
      match quotedRun single (fuel + 1) cursor [] with
      | none => none
      | some (after, run, escapedBreak) =>
        let held := run ++ held
        if after.peek = (if single then '\'' else '"') then
          some ⟨String.ofList held.reverse, after.skip, false⟩
        else
          match readGap 0 (fuel + 1) after { Gap.none with broken := escapedBreak } with
          | none => none
          | some (next, gap) => scanQuotedFrom single fuel next (gap.folded ++ held)

inductive Chomping where
  | strip | clip | keep
  deriving DecidableEq

def blockHeader? (cursor : Cursor) : Option (Cursor × Chomping × Option Nat) :=
  let chomping? (c : Char) : Option Chomping :=
    if c = '+' then some .keep else if c = '-' then some .strip else none
  let isIncrement (c : Char) : Bool := '0' ≤ c && c ≤ '9'
  match chomping? cursor.peek with
  | some chomping =>
    let cursor := cursor.skip
    if isIncrement cursor.peek then
      if cursor.peek = '0' then none
      else some (cursor.skip, chomping, some (cursor.peek.toNat - 48))
    else some (cursor, chomping, none)
  | none =>
    if isIncrement cursor.peek then
      if cursor.peek = '0' then none
      else
        let increment := some (cursor.peek.toNat - 48)
        let cursor := cursor.skip
        match chomping? cursor.peek with
        | some chomping => some (cursor.skip, chomping, increment)
        | none => some (cursor, .clip, increment)
    else some (cursor, .clip, none)

/-- Reads indentation and empty lines. Without an indentation so far, the deepest column counts;
a tab in place of indentation is not allowed. -/
def blockBreaks (indent : Option Nat) :
    Nat → Cursor → Nat → List Char → Option (Cursor × Nat × List Char)
  | 0, _, _, _ => none
  | fuel + 1, cursor, deepest, breaks =>
    let short (cursor : Cursor) : Bool := match indent with
      | some indent => cursor.column < indent
      | none => true
    let spaces := (cursor.takeWhile (· = ' ')).length
    let cursor := cursor.skipMany <| match indent with
      | some indent => min spaces (indent - cursor.column)
      | none => spaces
    let deepest := max deepest cursor.column
    if short cursor && cursor.peek = '\t' then none
    else if isBreak cursor.peek then
      blockBreaks indent fuel cursor.skipBreak deepest (cursor.breakText.reverse ++ breaks)
    else some (cursor, deepest, breaks)

structure BlockLines where
  held : List Char
  lastBreak : List Char
  breaks : List Char
  afterBlank : Bool

/-- The lines of a block at the column `indent`. A folded block joins two lines neither of which
starts with a blank. -/
def blockLines (literal : Bool) (indent : Nat) :
    Nat → Cursor → BlockLines → Option (Cursor × BlockLines)
  | 0, _, _ => none
  | fuel + 1, cursor, lines =>
    if cursor.column = indent && !cursor.atEnd then
      let onBlank := isBlank cursor.peek
      let joint :=
        if !literal && lines.lastBreak = ['\n'] && !lines.afterBlank && !onBlank then
          if lines.breaks.isEmpty then [' '] else []
        else lines.lastBreak.reverse
      let line := (cursor.takeWhile fun c => !isBreakOrEnd c).reverse
      let after := cursor.skipWhile fun c => !isBreakOrEnd c
      match blockBreaks (some indent) (fuel + 1) after.skipBreak 0 [] with
      | none => none
      | some (next, _, breaks) =>
        blockLines literal indent fuel next
          ⟨line ++ lines.breaks ++ joint ++ lines.held, after.breakText, breaks, onBlank⟩
    else some (cursor, lines)

/-- A block after its indicator; `parent` is the column of the collection around it, if any. -/
def scanBlock (literal : Bool) (parent : Option Nat) (fuel : Nat) (cursor : Cursor) :
    Option Scanned := do
  let (cursor, chomping, increment) ← blockHeader? cursor
  let cursor := cursor.skipWhile isBlank
  let cursor := if cursor.peek = '#' then cursor.skipWhile (fun c => !isBreakOrEnd c) else cursor
  if !isBreakOrEnd cursor.peek then none
  let given := increment.map (parent.getD 0 + ·)
  let (cursor, deepest, breaks) ← blockBreaks given fuel cursor.skipBreak 0 []
  let floor := match parent with
    | some column => column + 1
    | none => 1
  let indent := given.getD (max deepest floor)
  let (cursor, lines) ← blockLines literal indent fuel cursor ⟨[], [], breaks, false⟩
  let ending := match chomping with
    | .strip => []
    | .clip => lines.lastBreak.reverse
    | .keep => lines.breaks ++ lines.lastBreak.reverse
  some ⟨String.ofList (ending ++ lines.held).reverse, cursor, true⟩

end Parley.Yaml
