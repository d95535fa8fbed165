import Parley.Yaml.Scalar
/-!
The tokens of a YAML text.

Indentation is made explicit: a collection in block style opens and closes with a token of its own.
A key that is not marked is known only at its colon, so the place of every token that may start one
is kept until then; it has to stand on one line and within `keyLimit` characters.
-/

namespace Parley.Yaml

inductive Token where
  | streamEnd
  | directive
  | documentStart
  | documentEnd
  | blockSequenceStart
  | blockMappingStart
  | blockEnd
  | flowSequenceStart
  | flowSequenceEnd
  | flowMappingStart
  | flowMappingEnd
  | blockEntry
  | flowEntry
  | key
  | value
  | alias (name : String)
  | anchor (name : String)
  | tag
  | scalar (text : String) (plain : Bool)
  deriving DecidableEq, Inhabited

/-- A token that may turn out to start a key. -/
structure KeyPlace where
  /-- Its number among the tokens. -/
  index : Nat
  /-- Nothing but a key can stand there. -/
  required : Bool
  line : Nat
  column : Nat
  offset : Nat

structure Scanner where
  cursor : Cursor
  tokens : Array Token
  /-- The columns of the open block collections, innermost first. -/
  indents : List Nat
  /-- The places for a key, one for each open bracket and one outside. -/
  places : List (Option KeyPlace)
  keyAllowed : Bool
  /-- Bounds every walk over the text. -/
  fuel : Nat

def keyLimit : Nat := 1024

namespace Scanner

def start (text : List Char) : Scanner :=
  ⟨Cursor.start text, #[], [], [none], true, text.length + 2⟩

def inFlow (scanner : Scanner) : Bool := 1 < scanner.places.length

def push (scanner : Scanner) (token : Token) : Scanner :=
  { scanner with tokens := scanner.tokens.push token }

def insertAt (scanner : Scanner) (index : Nat) (token : Token) : Scanner :=
  { scanner with tokens := scanner.tokens.insertIdxIfInBounds index token }

def dropPlace (scanner : Scanner) : Option Scanner :=
  match scanner.places with
  | some place :: rest =>
    if place.required then none else some { scanner with places := none :: rest }
  | _ => some scanner

def savePlace (scanner : Scanner) : Option Scanner :=
  if scanner.keyAllowed then
    let cursor := scanner.cursor
    let required := !scanner.inFlow && scanner.indents.head? = some cursor.column
    match scanner.dropPlace with
    | none => none
    | some scanner =>
      let place : KeyPlace :=
        ⟨scanner.tokens.size, required, cursor.line, cursor.column, cursor.offset⟩
      some { scanner with places := some place :: scanner.places.tail }
  else some scanner

def isStale (cursor : Cursor) (place : KeyPlace) : Bool :=
  place.line < cursor.line || place.offset + keyLimit < cursor.offset

def dropStale (scanner : Scanner) : Option Scanner :=
  let stale : Option KeyPlace → Bool
    | some place => isStale scanner.cursor place
    | none => false
  let needed : Option KeyPlace → Bool
    | some place => isStale scanner.cursor place && place.required
    | none => false
  if scanner.places.any needed then none
  else some { scanner with places := scanner.places.map fun p => if stale p then none else p }

/-- Opens a block collection at a deeper column, before the token `index`. -/
def indentTo (scanner : Scanner) (column index : Nat) (token : Token) : Scanner :=
  let deeper : Bool := match scanner.indents with
    | indent :: _ => indent < column
    | [] => true
  if !scanner.inFlow && deeper then
    let scanner := if index < scanner.tokens.size then scanner.insertAt index token
      else scanner.push token
    { scanner with indents := column :: scanner.indents }
  else scanner

def closeBlocks (scanner : Scanner) (stays : Nat → Bool) : Scanner :=
  if scanner.inFlow then scanner
  else
    let closed := (scanner.indents.takeWhile (!stays ·)).length
    { scanner with
      indents := scanner.indents.drop closed
      tokens := scanner.tokens ++ (List.replicate closed Token.blockEnd).toArray }

/-- Over blanks, comments and line breaks. Tabs count as blanks where no key may start. -/
def skipToToken : Nat → Scanner → Scanner
  | 0, scanner => scanner
  | fuel + 1, scanner =>
    let tabs := scanner.inFlow || !scanner.keyAllowed
    let cursor := scanner.cursor.skipWhile fun c => c = ' ' || (tabs && c = '\t')
    let cursor := if cursor.peek = '#' then cursor.skipWhile (fun c => !isBreakOrEnd c) else cursor
    if isBreak cursor.peek then
      skipToToken fuel
        { scanner with
          cursor := cursor.skipBreak
          keyAllowed := scanner.keyAllowed || !scanner.inFlow }
    else { scanner with cursor := cursor }

def advance (scanner : Scanner) (count : Nat) : Scanner :=
  { scanner with cursor := scanner.cursor.skipMany count }

def allowKey (scanner : Scanner) (allowed : Bool) : Scanner :=
  { scanner with keyAllowed := allowed }

/-- A marker between documents closes every block. -/
def marker (scanner : Scanner) (token : Token) : Option Scanner := do
  let scanner ← (scanner.closeBlocks fun _ => false).dropPlace
  some (((scanner.allowKey false).advance 3).push token)

/-- Only the version and the tag directive are known; neither has a meaning here. -/
def directive (scanner : Scanner) : Option Scanner := do
  let scanner ← (scanner.closeBlocks fun _ => false).dropPlace
  let name := scanner.cursor.skip.takeWhile isWord
  if name ≠ "YAML".toList && name ≠ "TAG".toList then none
  let cursor := scanner.cursor.skipWhile fun c => !isBreakOrEnd c
  some (({ scanner with cursor := cursor }.allowKey false).push .directive)

def openFlow (scanner : Scanner) (token : Token) : Option Scanner := do
  let scanner ← scanner.savePlace
  some ((({ scanner with places := none :: scanner.places }.allowKey true).advance 1).push token)

def closeFlow (scanner : Scanner) (token : Token) : Option Scanner := do
  let scanner ← scanner.dropPlace
  let places := if scanner.inFlow then scanner.places.tail else scanner.places
  some ((({ scanner with places := places }.allowKey false).advance 1).push token)

def flowEntry (scanner : Scanner) : Option Scanner := do
  let scanner ← scanner.dropPlace
  some (((scanner.allowKey true).advance 1).push .flowEntry)

def blockEntry (scanner : Scanner) : Option Scanner := do
  if !scanner.inFlow && !scanner.keyAllowed then none
  let scanner := scanner.indentTo scanner.cursor.column scanner.tokens.size .blockSequenceStart
  let scanner ← scanner.dropPlace
  some (((scanner.allowKey true).advance 1).push .blockEntry)

def markedKey (scanner : Scanner) : Option Scanner := do
  if !scanner.inFlow && !scanner.keyAllowed then none
  let scanner := scanner.indentTo scanner.cursor.column scanner.tokens.size .blockMappingStart
  let scanner ← scanner.dropPlace
  some (((scanner.allowKey (!scanner.inFlow)).advance 1).push .key)

/-- A colon makes a key of what stands at the saved place. -/
def colon (scanner : Scanner) : Option Scanner :=
  match scanner.places with
  | some place :: rest =>
    let scanner := { scanner with places := none :: rest }
    let scanner := scanner.insertAt place.index .key
    let scanner := scanner.indentTo place.column place.index .blockMappingStart
    some (((scanner.allowKey false).advance 1).push .value)
  | _ =>
    if !scanner.inFlow && !scanner.keyAllowed then none
    else
      let scanner := scanner.indentTo scanner.cursor.column scanner.tokens.size .blockMappingStart
      some (((scanner.allowKey (!scanner.inFlow)).advance 1).push .value)

/-- The name of an anchor has to end at a gap or an indicator. -/
def anchorOrAlias (scanner : Scanner) (token : String → Token) : Option Scanner := do
  let scanner ← scanner.savePlace
  let cursor := scanner.cursor.skip
  let name := cursor.takeWhile isWord
  let cursor := cursor.skipMany name.length
  let c := cursor.peek
  let ends := isGap c || c = '?' || c = ':' || c = ',' || c = ']' || c = '\x7d' || c = '%' ||
    c = '@' || c = '\x60'
  if name.isEmpty || !ends then none
  some (({ scanner with cursor := cursor }.allowKey false).push (token (String.ofList name)))

/-- A tag is passed over: the form of a scalar alone says how it reads. -/
def tag (scanner : Scanner) : Option Scanner := do
  let scanner ← scanner.savePlace
  let cursor := scanner.cursor.skipWhile fun c => !isGap c && !(scanner.inFlow && isFlowBracket c)
  if !isGap cursor.peek && cursor.peek ≠ ',' then none
  some (({ scanner with cursor := cursor }.allowKey false).push .tag)

def block (scanner : Scanner) (literal : Bool) : Option Scanner := do
  let scanner ← scanner.dropPlace
  let read ← scanBlock literal scanner.indents.head? scanner.fuel scanner.cursor.skip
  some (({ scanner with cursor := read.cursor }.allowKey true).push (.scalar read.text false))

def quoted (scanner : Scanner) (single : Bool) : Option Scanner := do
  let scanner ← scanner.savePlace
  let read ← scanQuotedFrom single scanner.fuel scanner.cursor.skip []
  some (({ scanner with cursor := read.cursor }.allowKey false).push (.scalar read.text false))

def plain (scanner : Scanner) : Option Scanner := do
  let scanner ← scanner.savePlace
  let indent := match scanner.indents with
    | column :: _ => column + 1
    | [] => 0
  let read ← scanPlainFrom scanner.inFlow indent scanner.fuel scanner.cursor Gap.none []
  some (({ scanner with cursor := read.cursor }.allowKey read.broken).push (.scalar read.text true))

/-- A character that is no indicator, or is none where it stands. -/
def startsPlain (scanner : Scanner) : Bool :=
  let c := scanner.cursor.peek
  let next := scanner.cursor.peekAt 1
  let indicator := isGap c || c = '-' || c = '?' || c = ':' || c = ',' || c = '[' || c = ']' ||
    c = '\x7b' || c = '\x7d' || c = '#' || c = '&' || c = '*' || c = '!' || c = '|' || c = '>' ||
    c = '\'' || c = '"' || c = '%' || c = '@' || c = '\x60'
  !indicator || (c = '-' && !isBlank next) ||
    (!scanner.inFlow && (c = '?' || c = ':') && !isGap next)

def readToken (scanner : Scanner) : Option Scanner :=
  let cursor := scanner.cursor
  let c := cursor.peek
  let gapNext := isGap (cursor.peekAt 1)
  if cursor.column = 0 && c = '%' then scanner.directive
  else if cursor.atMarker '-' then scanner.marker .documentStart
  else if cursor.atMarker '.' then scanner.marker .documentEnd
  else if c = '[' then scanner.openFlow .flowSequenceStart
  else if c = '\x7b' then scanner.openFlow .flowMappingStart
  else if c = ']' then scanner.closeFlow .flowSequenceEnd
  else if c = '\x7d' then scanner.closeFlow .flowMappingEnd
  else if c = ',' then scanner.flowEntry
  else if c = '-' && gapNext then scanner.blockEntry
  else if c = '?' && (scanner.inFlow || gapNext) then scanner.markedKey
  else if c = ':' && (scanner.inFlow || gapNext) then scanner.colon
  else if c = '*' then scanner.anchorOrAlias .alias
  else if c = '&' then scanner.anchorOrAlias .anchor
  else if c = '!' then scanner.tag
  else if c = '|' && !scanner.inFlow then scanner.block true
  else if c = '>' && !scanner.inFlow then scanner.block false
  else if c = '\'' then scanner.quoted true
  else if c = '"' then scanner.quoted false
  else if scanner.startsPlain then scanner.plain
  else none

def run : Nat → Scanner → Option Scanner
  | 0, _ => none
  | fuel + 1, scanner =>
    match (skipToToken scanner.fuel scanner).dropStale with
    | none => none
    | some scanner =>
      let scanner := scanner.closeBlocks (· ≤ scanner.cursor.column)
      if scanner.cursor.atEnd then
        ((scanner.closeBlocks fun _ => false).dropPlace).map (·.push .streamEnd)
      else
        match scanner.readToken with
        | some scanner => run fuel scanner
        | none => none

end Scanner

def tokens? (text : String) : Option (List Token) :=
  let chars := match text.toList with
    | '\uFEFF' :: rest => rest
    | other => other
  if chars.all isAllowed then
    let scanner := Scanner.start chars
    (scanner.run scanner.fuel).map (·.tokens.toList)
  else none

end Parley.Yaml
