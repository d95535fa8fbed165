import Parley.Json.Basic
import Parley.Json.Number
/-!
Reading JSON.

`parse` takes any word of the grammar. `parseStrict` takes it as a value that is kept whole: nothing
ill-formed in it, and nested no deeper than `depthLimit`.
-/

namespace Parley.Json

def isSpace (c : Char) : Bool := c = ' ' || c = '\t' || c = '\n' || c = '\r'

def skipSpaces (text : List Char) : List Char := text.dropWhile isSpace

def hexValue? (c : Char) : Option Nat :=
  if '0' ≤ c && c ≤ '9' then some (c.toNat - 48)
  else if 'a' ≤ c && c ≤ 'f' then some (c.toNat - 87)
  else if 'A' ≤ c && c ≤ 'F' then some (c.toNat - 55)
  else none

def unit? (a b c d : Char) : Option Nat := do
  some (4096 * (← hexValue? a) + 256 * (← hexValue? b) + 16 * (← hexValue? c) + (← hexValue? d))

def isHighSurrogate (u : Nat) : Bool := 0xD800 ≤ u && u ≤ 0xDBFF

def isLowSurrogate (u : Nat) : Bool := 0xDC00 ≤ u && u ≤ 0xDFFF

def shortEscape? : Char → Option Char
  | '"' => some '"'
  | '\\' => some '\\'
  | '/' => some '/'
  | 'b' => some '\x08'
  | 'f' => some '\x0c'
  | 'n' => some '\n'
  | 'r' => some '\r'
  | 't' => some '\t'
  | _ => none

inductive Piece where
  | char (c : Char)
  | unit (u : Nat)

def pieces : List Char → Option (List Piece × List Char)
  | [] => none
  | '"' :: rest => some ([], rest)
  | '\\' :: 'u' :: a :: b :: c :: d :: rest =>
    match unit? a b c d, pieces rest with
    | some u, some (more, left) => some (.unit u :: more, left)
    | _, _ => none
  | '\\' :: e :: rest =>
    match shortEscape? e, pieces rest with
    | some c, some (more, left) => some (.char c :: more, left)
    | _, _ => none
  | c :: rest =>
    if c = '\\' || c.toNat < 0x20 then none
    else
      match pieces rest with
      | some (more, left) => some (.char c :: more, left)
      | none => none

/-- The characters of the pieces: two units of a surrogate pair are one, half a pair is none. -/
def content : List Piece → Option (List Char)
  | [] => some []
  | .char c :: rest => (content rest).map (c :: ·)
  | [.unit u] => if isHighSurrogate u || isLowSurrogate u then none else some [Char.ofNat u]
  | .unit u :: .unit v :: rest =>
    if isHighSurrogate u then
      if isLowSurrogate v then
        (content rest).map (Char.ofNat (0x10000 + 0x400 * (u - 0xD800) + (v - 0xDC00)) :: ·)
      else none
    else if isLowSurrogate u then none
    else (content (.unit v :: rest)).map (Char.ofNat u :: ·)
  | .unit u :: .char c :: rest =>
    if isHighSurrogate u || isLowSurrogate u then none
    else (content (.char c :: rest)).map (Char.ofNat u :: ·)

def stringTail (text : List Char) : Option (Option String × List Char) :=
  match pieces text with
  | some (read, left) => some ((content read).map String.ofList, left)
  | none => none

def numberValue? (text : List Char) : Option (Json × List Char) :=
  match numberParts? text with
  | none => none
  | some (parts, left) =>
    let literal := String.ofList (text.take (text.length - left.length))
    some (if parts.inRange then number literal else illFormed, left)

def objectOf (members : Option (List (String × Json))) : Json :=
  match members with
  | some members => object members
  | none => illFormed

mutual

def parseValue : Nat → List Char → Option (Json × List Char)
  | 0, _ => none
  | fuel + 1, text =>
    match skipSpaces text with
    | 'n' :: 'u' :: 'l' :: 'l' :: rest => some (null, rest)
    | 't' :: 'r' :: 'u' :: 'e' :: rest => some (bool true, rest)
    | 'f' :: 'a' :: 'l' :: 's' :: 'e' :: rest => some (bool false, rest)
    | '"' :: rest =>
      match stringTail rest with
      | none => none
      | some (some content, left) => some (string content, left)
      | some (none, left) => some (illFormed, left)
    | '[' :: rest =>
      match skipSpaces rest with
      | ']' :: left => some (array [], left)
      | _ =>
        match parseItems fuel rest with
        | none => none
        | some (items, left) => some (array items, left)
    | '\x7b' :: rest =>
      match skipSpaces rest with
      | '\x7d' :: left => some (object [], left)
      | _ =>
        match parseMembers fuel rest with
        | none => none
        | some (members, left) => some (objectOf members, left)
    | other => numberValue? other

def parseItems : Nat → List Char → Option (List Json × List Char)
  | 0, _ => none
  | fuel + 1, text =>
    match parseValue fuel text with
    | none => none
    | some (item, afterItem) =>
      match skipSpaces afterItem with
      | ',' :: rest =>
        match parseItems fuel rest with
        | none => none
        | some (items, left) => some (item :: items, left)
      | ']' :: left => some ([item], left)
      | _ => none

def parseMembers : Nat → List Char → Option (Option (List (String × Json)) × List Char)
  | 0, _ => none
  | fuel + 1, text =>
    match skipSpaces text with
    | '"' :: rest =>
      match stringTail rest with
      | none => none
      | some (name, afterName) =>
        match skipSpaces afterName with
        | ':' :: afterColon =>
          match parseValue fuel afterColon with
          | none => none
          | some (value, afterValue) =>
            let entry := name.map fun name => (name, value)
            match skipSpaces afterValue with
            | ',' :: more =>
              match parseMembers fuel more with
              | none => none
              | some (members, left) =>
                some (entry.bind fun entry => members.map (entry :: ·), left)
            | '\x7d' :: left => some (entry.map ([·]), left)
            | _ => none
        | _ => none
    | _ => none

end

/-- Each of the three parsers takes a character at least every second call. -/
def fuelFor (text : List Char) : Nat := 2 * text.length + 2

def parse (text : String) : Option Json :=
  match parseValue (fuelFor text.toList) text.toList with
  | some (value, left) => if (skipSpaces left).isEmpty then some value else none
  | none => none

def depthLimit : Nat := 127

def parseStrict (text : String) : Option Json :=
  match parse text with
  | some value => if value.isWellFormed && value.depth ≤ depthLimit then some value else none
  | none => none

end Parley.Json
