import Parley.Json.Basic
/-!
The compact text of a JSON value: no blanks, members in their order, every character of a string
as itself but for the quote, the backslash and the control characters.
-/

namespace Parley.Json

def hexDigit (n : Nat) : Char := if n < 10 then Char.ofNat (48 + n) else Char.ofNat (87 + n)

def escaped (c : Char) : List Char :=
  if c = '"' then ['\\', '"']
  else if c = '\\' then ['\\', '\\']
  else if c = '\n' then ['\\', 'n']
  else if c = '\r' then ['\\', 'r']
  else if c = '\t' then ['\\', 't']
  else if c = '\x08' then ['\\', 'b']
  else if c = '\x0c' then ['\\', 'f']
  else if c.toNat < 0x20 then
    ['\\', 'u', '0', '0', hexDigit (c.toNat / 16), hexDigit (c.toNat % 16)]
  else [c]

def quotedTail : List Char → List Char
  | [] => ['"']
  | c :: rest => escaped c ++ quotedTail rest

def quoted (text : String) : List Char := '"' :: quotedTail text.toList

mutual

def render : Json → List Char
  | null => ['n', 'u', 'l', 'l']
  | bool true => ['t', 'r', 'u', 'e']
  | bool false => ['f', 'a', 'l', 's', 'e']
  | number literal => literal.toList
  | string text => quoted text
  | array [] => ['[', ']']
  | array (item :: rest) => '[' :: (item.render ++ renderItems rest)
  | object [] => ['\x7b', '\x7d']
  | object ((name, value) :: rest) =>
    '\x7b' :: (quoted name ++ ':' :: (value.render ++ renderMembers rest))
  | illFormed => ['n', 'u', 'l', 'l']

def renderItems : List Json → List Char
  | [] => [']']
  | item :: rest => ',' :: (item.render ++ renderItems rest)

def renderMembers : List (String × Json) → List Char
  | [] => ['\x7d']
  | (name, value) :: rest =>
    ',' :: (quoted name ++ ':' :: (value.render ++ renderMembers rest))

end

def print (value : Json) : String := String.ofList value.render

end Parley.Json
