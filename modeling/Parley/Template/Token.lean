import Parley.Template.Reference
import Parley.Text.Decimal
/-!
Cutting a template into texts and tags, and the tags into tokens.
-/

namespace Parley.Template

inductive Token where
  | name (name : String)
  | text (value : String)
  | int (value : Nat)
  | float (value : Float)
  /-- An operator, a bracket or a separator. -/
  | mark (symbol : String)

inductive Piece where
  | text (content : List Char)
  /-- An expression between double braces. -/
  | output (tokens : List Token)
  /-- A statement between a brace and a percent sign. -/
  | block (tokens : List Token)

def isSpace (c : Char) : Bool := c = ' ' || c = '\t' || c = '\n' || c = '\r' || c = '\x0c'

def isDigit (c : Char) : Bool := '0' ≤ c && c ≤ '9'

def isNameChar (c : Char) : Bool := isNameStart c || isDigit c

def trimMark : List Char → Bool × List Char
  | '-' :: rest => (true, rest)
  | '+' :: rest => (false, rest)
  | text => (false, text)

def tagEnd? (closing : Char) (text : List Char) : Option (Bool × List Char) :=
  match trimMark text with
  | (trims, c :: '\x7d' :: rest) => if c = closing then some (trims, rest) else none
  | _ => none

def hexDigit? (c : Char) : Option Nat :=
  if isDigit c then some (c.toNat - 48)
  else if 'a' ≤ c && c ≤ 'f' then some (c.toNat - 87)
  else if 'A' ≤ c && c ≤ 'F' then some (c.toNat - 55)
  else none

def unicodeEscape? (a b c d : Char) : Option Char := do
  let n := (← hexDigit? a) * 4096 + (← hexDigit? b) * 256 + (← hexDigit? c) * 16 + (← hexDigit? d)
  if n.isValidChar then some (Char.ofNat n) else none

def escape? : Char → Option Char
  | '"' => some '"'
  | '\'' => some '\''
  | '\\' => some '\\'
  | '/' => some '/'
  | 'b' => some '\x08'
  | 'f' => some '\x0c'
  | 'n' => some '\n'
  | 'r' => some '\r'
  | 't' => some '\t'
  | _ => none

def stringTail? (quote : Char) : List Char → Option (List Char × List Char)
  | [] => none
  | '\\' :: 'u' :: a :: b :: c :: d :: rest => do
    let escaped ← unicodeEscape? a b c d
    let (text, left) ← stringTail? quote rest
    some (escaped :: text, left)
  | '\\' :: c :: rest => do
    let escaped ← escape? c
    let (text, left) ← stringTail? quote rest
    some (escaped :: text, left)
  | c :: rest =>
    if c = quote then some ([], rest)
    else (stringTail? quote rest).map fun (text, left) => (c :: text, left)

def digitsValue (digits : List Char) : Nat :=
  digits.foldl (fun n c => 10 * n + (c.toNat - 48)) 0

def exponent? : List Char → Option (Int × List Char)
  | e :: rest =>
    if e = 'e' || e = 'E' then
      let (negative, unsigned) := match rest with
        | '-' :: more => (true, more)
        | '+' :: more => (false, more)
        | more => (false, more)
      let digits := unsigned.takeWhile isDigit
      if digits.isEmpty then none
      else
        let size : Int := digitsValue digits
        some (if negative then -size else size, unsigned.dropWhile isDigit)
    else some (0, e :: rest)
  | [] => some (0, [])

def number? (text : List Char) : Option (Token × List Char) := do
  let isPart (c : Char) : Bool := isDigit c || c = '_'
  let whole := text.takeWhile isPart
  let afterWhole := text.dropWhile isPart
  let (fraction, afterFraction) := match afterWhole with
    | '.' :: rest => (rest.takeWhile isPart, rest.dropWhile isPart)
    | rest => ([], rest)
  let (power, left) ← exponent? afterFraction
  if (whole ++ fraction).getLast? = some '_' then none
  else
    let digits (part : List Char) : List Char := part.filter isDigit
    if afterWhole.length = left.length then some (.int (digitsValue (digits whole)), left)
    else
      let value := Decimal.ofDigits (digitsValue (digits (whole ++ fraction)))
        (power - (digits fraction).length)
      some (.float value, left)

def pair? (a b : Char) : Option String :=
  match a, b with
  | '/', '/' => some "//"
  | '*', '*' => some "**"
  | '=', '=' => some "=="
  | '!', '=' => some "!="
  | '>', '=' => some ">="
  | '<', '=' => some "<="
  | _, _ => none

def isMark (c : Char) : Bool :=
  c = '+' || c = '-' || c = '*' || c = '/' || c = '%' || c = '.' || c = ',' || c = ':' ||
    c = '~' || c = '|' || c = '=' || c = '>' || c = '<' || c = '(' || c = ')' || c = '[' ||
    c = ']' || c = '\x7b' || c = '\x7d'

def single? (c : Char) (rest : List Char) : Option (Token × List Char) :=
  if isNameStart c then
    some (.name (String.ofList (c :: rest.takeWhile isNameChar)), rest.dropWhile isNameChar)
  else if isDigit c then number? (c :: rest)
  else if c = '"' || c = '\'' then
    (stringTail? c rest).map fun (value, left) => (.text (String.ofList value), left)
  else if isMark c then some (.mark (String.singleton c), rest)
  else none

def token? : List Char → Option (Token × List Char)
  | [] => none
  | [c] => single? c []
  | c :: d :: rest =>
    match pair? c d with
    | some symbol => some (.mark symbol, rest)
    | none => single? c (d :: rest)

def openAfter (opened : Nat) : Token → Nat
  | .mark "(" | .mark "[" | .mark "\x7b" => opened + 1
  | .mark ")" | .mark "]" | .mark "\x7d" => opened - 1
  | _ => opened

/-- The tokens of a tag up to its end outside of brackets, whether the end trims, and what comes
after it. -/
def tagTokens? (closing : Char) : Nat → Nat → List Char → Option (List Token × Bool × List Char)
  | 0, _, _ => none
  | fuel + 1, opened, text =>
    let here := text.dropWhile isSpace
    match if opened = 0 then tagEnd? closing here else none with
    | some (trims, rest) => some ([], trims, rest)
    | none =>
      match token? here with
      | some (token, rest) =>
        (tagTokens? closing fuel (openAfter opened token) rest).map fun (tokens, left) =>
          (token :: tokens, left)
      | none => none

def opensTag : List Char → Bool
  | '\x7b' :: c :: _ => c = '\x7b' || c = '%' || c = '#'
  | _ => false

def takeText : List Char → List Char × List Char
  | [] => ([], [])
  | c :: rest =>
    if opensTag (c :: rest) then ([], c :: rest)
    else
      let (text, left) := takeText rest
      (c :: text, left)

def skipComment? : List Char → Option (Bool × List Char)
  | '-' :: '#' :: '\x7d' :: rest => some (true, rest)
  | '#' :: '\x7d' :: rest => some (false, rest)
  | _ :: rest => skipComment? rest
  | [] => none

def wordTag? (word : String) (text : List Char) : Option (Bool × List Char) :=
  let here := text.dropWhile isSpace
  if word.toList.isPrefixOf here then
    tagEnd? '%' ((here.drop word.length).dropWhile isSpace)
  else none

/-- The text up to the end of a raw part, whether that end trims before and after it, and what comes
after it. -/
def rawText? : List Char → Option (List Char × Bool × Bool × List Char)
  | [] => none
  | c :: rest =>
    let ending := match c :: rest with
      | '\x7b' :: '%' :: inner =>
        let (before, inner) := trimMark inner
        (wordTag? "endraw" inner).map fun (after, left) => (before, after, left)
      | _ => none
    match ending with
    | some (before, after, left) => some ([], before, after, left)
    | none => (rawText? rest).map fun (text, left) => (c :: text, left)

def trimFrontIf (trims : Bool) (text : List Char) : List Char :=
  if trims then text.dropWhile Text.isBlank else text

def trimBackIf (trims : Bool) (text : List Char) : List Char :=
  if trims then (text.reverse.dropWhile Text.isBlank).reverse else text

/-- The pieces of a template. The flag tells that the tag before trims the text here. -/
def pieces? : Nat → Bool → List Char → Option (List Piece)
  | 0, _, _ => none
  | fuel + 1, trims, source =>
    let (untrimmed, rest) := takeText source
    let text := trimFrontIf trims untrimmed
    match rest with
    | '\x7b' :: kind :: marked =>
      let (before, inner) := trimMark marked
      let lead := Piece.text (trimBackIf before text)
      if kind = '#' then do
        let (after, left) ← skipComment? inner
        return lead :: (← pieces? fuel after left)
      else if kind = '%' then
        match wordTag? "raw" inner with
        | some (start, content) => do
          let (raw, stop, after, left) ← rawText? content
          return lead :: .text (trimBackIf stop (trimFrontIf start raw)) ::
            (← pieces? fuel after left)
        | none => do
          let (tokens, after, left) ← tagTokens? '%' fuel 0 inner
          return lead :: .block tokens :: (← pieces? fuel after left)
      else do
        let (tokens, after, left) ← tagTokens? '\x7d' fuel 0 inner
        return lead :: .output tokens :: (← pieces? fuel after left)
    | _ => some [.text text]

def pieces (source : List Char) : Option (List Piece) := pieces? (source.length + 1) false source

end Parley.Template
