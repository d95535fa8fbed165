import Parley.Lua.Number
/-!
The words of a Lua program.
-/

namespace Parley.Lua

inductive Token where
  | name (name : String)
  | keyword (word : String)
  | string (bytes : List UInt8)
  | number (value : Number)
  | symbol (symbol : String)

def keywords : List String :=
  ["and", "break", "do", "else", "elseif", "end", "false", "for", "function", "goto", "if", "in",
    "local", "nil", "not", "or", "repeat", "return", "then", "true", "until", "while"]

def isNameStart (c : Char) : Bool :=
  ('a' ≤ c && c ≤ 'z') || ('A' ≤ c && c ≤ 'Z') || c = '_'

def isNameChar (c : Char) : Bool := isNameStart c || isDigit c

def longOpening? (text : List Char) : Option (Nat × List Char) :=
  let level := (text.takeWhile (· = '=')).length
  match text.drop level with
  | '[' :: rest => some (level, rest)
  | _ => none

def skipLineBreak : List Char → List Char
  | '\r' :: '\n' :: rest => rest
  | '\n' :: '\r' :: rest => rest
  | '\r' :: rest => rest
  | '\n' :: rest => rest
  | text => text

def longContent? (closing : List Char) : Nat → List Char → Option (List Char × List Char)
  | 0, _ => none
  | _ + 1, [] => none
  | fuel + 1, c :: rest =>
    if closing.isPrefixOf (c :: rest) then some ([], (c :: rest).drop closing.length)
    else if c = '\r' || c = '\n' then
      (longContent? closing fuel (skipLineBreak (c :: rest))).map fun (text, left) =>
        ('\n' :: text, left)
    else (longContent? closing fuel rest).map fun (text, left) => (c :: text, left)

def longBracket? (level : Nat) (text : List Char) : Option (List Char × List Char) :=
  longContent? (']' :: (List.replicate level '=' ++ [']'])) (text.length + 1) (skipLineBreak text)

def decimalEscape? (text : List Char) : Option (UInt8 × List Char) :=
  let digits := (text.take 3).takeWhile isDigit
  let n := valueIn 10 digits
  if n < 256 then some (UInt8.ofNat n, text.drop digits.length) else none

/-- The bytes of a code of up to 31 bits. The first argument is the room in the first byte. -/
def longBytes : Nat → Nat → Nat → List UInt8 → List UInt8
  | 0, _, _, done => done
  | fuel + 1, room, n, done =>
    if n ≤ room then UInt8.ofNat ((255 - 2 * room - 1) + n) :: done
    else longBytes fuel (room / 2) (n / 64) (UInt8.ofNat (128 + n % 64) :: done)

/-- The bytes of a character's number, also of one that is no character. -/
def codeBytes (n : Nat) : List UInt8 := if n < 128 then [UInt8.ofNat n] else longBytes 8 63 n []

def codeEscape? : List Char → Option (List UInt8 × List Char)
  | '\x7b' :: rest =>
    let digits := rest.takeWhile isHex
    match rest.drop digits.length with
    | '\x7d' :: left =>
      let n := valueIn 16 digits
      if digits.isEmpty || Nat.pow 2 31 ≤ n then none else some (codeBytes n, left)
    | _ => none
  | _ => none

def simpleEscape? : Char → Option UInt8
  | 'a' => some 7
  | 'b' => some 8
  | 'f' => some 12
  | 'n' => some 10
  | 'r' => some 13
  | 't' => some 9
  | 'v' => some 11
  | '\\' => some 92
  | '"' => some 34
  | '\'' => some 39
  | _ => none

def escape? : List Char → Option (List UInt8 × List Char)
  | [] => none
  | 'x' :: a :: b :: rest => do
    some ([UInt8.ofNat ((← hexValue? a) * 16 + (← hexValue? b))], rest)
  | 'u' :: rest => codeEscape? rest
  | 'z' :: rest => some ([], rest.dropWhile isBlank)
  | c :: rest =>
    if c = '\r' || c = '\n' then some ([10], skipLineBreak (c :: rest))
    else if isDigit c then (decimalEscape? (c :: rest)).map fun (byte, left) => ([byte], left)
    else (simpleEscape? c).map fun byte => ([byte], rest)

def stringTail? (quote : Char) : Nat → List Char → Option (List UInt8 × List Char)
  | 0, _ => none
  | _ + 1, [] => none
  | fuel + 1, c :: rest =>
    if c = quote then some ([], rest)
    else if c = '\\' then do
      let (bytes, left) ← escape? rest
      let (more, left) ← stringTail? quote fuel left
      some (bytes ++ more, left)
    else if c = '\n' || c = '\r' then none
    else
      (stringTail? quote fuel rest).map fun (more, left) => (String.utf8EncodeChar c ++ more, left)

def takeNumeral (exponents : List Char) : List Char → List Char × List Char
  | c :: sign :: rest =>
    if exponents.contains c && (sign = '+' || sign = '-') then
      let (more, left) := takeNumeral exponents rest
      (c :: sign :: more, left)
    else if isHex c || isNameChar c || c = '.' then
      let (more, left) := takeNumeral exponents (sign :: rest)
      (c :: more, left)
    else ([], c :: sign :: rest)
  | [c] => if isNameChar c || c = '.' then ([c], []) else ([], [c])
  | [] => ([], [])

def number? (text : List Char) : Option (Token × List Char) :=
  let exponents := match text with
    | '0' :: x :: _ => if x = 'x' || x = 'X' then ['p', 'P'] else ['e', 'E']
    | _ => ['e', 'E']
  let (numeral, left) := takeNumeral exponents text
  (unsigned? numeral).map fun value => (.number value, left)

def symbols : List String :=
  ["...", "==", "~=", "<=", ">=", "//", "::", "<<", ">>", "..", "+", "-", "*", "/", "%", "^", "#",
    "&", "~", "|", "<", ">", "=", "(", ")", "\x7b", "\x7d", "[", "]", ";", ":", ",", "."]

def symbol? (text : List Char) : Option (Token × List Char) :=
  (symbols.find? fun symbol => symbol.toList.isPrefixOf text).map fun symbol =>
    (.symbol symbol, text.drop symbol.length)

def word (name : String) : Token := if name ∈ keywords then .keyword name else .name name

def token? (text : List Char) : Option (Token × List Char) :=
  match text with
  | [] => none
  | c :: rest =>
    if isNameStart c then
      some (word (String.ofList (text.takeWhile isNameChar)), text.dropWhile isNameChar)
    else if isDigit c then number? text
    else if c = '.' && (rest.head?.any isDigit) then number? text
    else if c = '"' || c = '\'' then
      (stringTail? c (rest.length + 1) rest).map fun (bytes, left) => (.string bytes, left)
    else if c = '[' then
      match longOpening? rest with
      | some (level, inner) =>
        (longBracket? level inner).map fun (content, left) =>
          (.string (content.flatMap String.utf8EncodeChar), left)
      | none => symbol? text
    else symbol? text

/-- The text after a comment, whose dashes are gone. -/
def skipComment? (text : List Char) : Option (List Char) :=
  let line := some (text.dropWhile fun c => c ≠ '\n' && c ≠ '\r')
  match text with
  | '[' :: rest =>
    match longOpening? rest with
    | some (level, inner) => (longBracket? level inner).map (·.2)
    | none => line
  | _ => line

def tokensFrom? : Nat → List Char → Option (List Token)
  | 0, _ => none
  | fuel + 1, text =>
    match text.dropWhile isBlank with
    | [] => some []
    | '-' :: '-' :: rest => (skipComment? rest).bind (tokensFrom? fuel)
    | here =>
      match token? here with
      | some (token, left) => (tokensFrom? fuel left).map (token :: ·)
      | none => none

def tokens? (source : String) : Option (List Token) :=
  tokensFrom? (source.length + 1) source.toList

end Parley.Lua
