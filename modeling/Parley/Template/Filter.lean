import Parley.Template.Value
import Parley.Text.Blank
import Parley.Text.LetterCase
/-!
The filters and tests that templates may apply.
-/

namespace Parley.Template

/-- Replaces a text that is not empty from left to right. So many characters at the front belong to
what has been replaced already. -/
def replaceFrom (old new : List Char) : Nat → List Char → List Char
  | _, [] => []
  | gone + 1, _ :: rest => replaceFrom old new gone rest
  | 0, c :: rest =>
    if old.isPrefixOf (c :: rest) then new ++ replaceFrom old new (old.length - 1) rest
    else c :: replaceFrom old new 0 rest

/-- The empty text stands before and after every character. -/
def replaced (old new text : List Char) : List Char :=
  if old.isEmpty then new ++ text.flatMap fun c => c :: new else replaceFrom old new 0 text

def isWithin (part : List Char) : List Char → Bool
  | [] => part.isEmpty
  | c :: rest => part.isPrefixOf (c :: rest) || isWithin part rest

def isPunctuation (c : Char) : Bool :=
  ('!' ≤ c && c ≤ '/') || (':' ≤ c && c ≤ '@') || ('[' ≤ c && c ≤ '\x60') ||
    ('\x7b' ≤ c && c ≤ '~')

def titled : Bool → List Char → List Char
  | _, [] => []
  | first, c :: rest =>
    if isPunctuation c || Text.isBlank c then c :: titled true rest
    else (if first then Text.upperChar c else Text.lowerChar c) ++ titled false rest

def capitalized : List Char → List Char
  | [] => []
  | c :: rest => Text.upperChar c ++ (Text.lower (String.ofList rest)).toList

def Value.length? : Value → Option Nat
  | .text value => some value.length
  | .list items => some items.length
  | .record fields => some fields.length
  | _ => none

def mapText (change : List Char → List Char) (value : Value) : Value :=
  .text (String.ofList (change value.print.toList))

def trimBoth (trims : Char → Bool) (text : List Char) : List Char :=
  ((text.dropWhile trims).reverse.dropWhile trims).reverse

/-- A value after a filter. There is none for a filter that does not exist or does not fit. -/
def applyFilter? (name : String) (value : Value) (arguments : List Value) : Option Value :=
  match name, arguments with
  | "upper", [] => some (.text (Text.upper value.print))
  | "lower", [] => some (.text (Text.lower value.print))
  | "title", [] => some (mapText (titled true) value)
  | "capitalize", [] => some (mapText capitalized value)
  | "trim", [] => some (.text (Text.trim value.print))
  | "trim", [characters] =>
    some (mapText (trimBoth fun c => characters.print.toList.contains c) value)
  | "replace", [old, new] => some (mapText (replaced old.print.toList new.print.toList) value)
  | "length", [] | "count", [] => value.length?.map fun length => .int length
  | "default", [] | "d", [] => some (match value with
    | .undefined => .text ""
    | other => other)
  | "default", [other] | "d", [other] => some (match value with
    | .undefined => other
    | held => held)
  | "default", [other, lax] | "d", [other, lax] => some (match value with
    | .undefined => other
    | held => if lax.isTrue && !held.isTrue then other else held)
  | "string", [] => some (.text value.print)
  | "safe", [] => some value
  | "list", [] => value.items?.map .list
  | "first", [] => value.items?.map fun items => items.head?.getD .undefined
  | "last", [] => value.items?.map fun items => items.getLast?.getD .undefined
  | "reverse", [] =>
    match value with
    | .text text => some (.text (String.ofList text.toList.reverse))
    | other => other.items?.map fun items => .list items.reverse
  | "join", [] => value.items?.map fun items => .text (String.join (items.map Value.print))
  | "join", [between] =>
    value.items?.map fun items => .text (between.print.intercalate (items.map Value.print))
  | _, _ => none

def applyTest? (name : String) (value : Value) : Option Bool :=
  match name, value with
  | "defined", .undefined => some false
  | "defined", _ => some true
  | "undefined", .undefined => some true
  | "undefined", _ => some false
  | "none", .null => some true
  | "none", _ => some false
  | "string", .text _ => some true
  | "string", _ => some false
  | "number", .int _ | "number", .float _ => some true
  | "number", _ => some false
  | "boolean", .bool _ => some true
  | "boolean", _ => some false
  | "odd", .int n => some (n % 2 ≠ 0)
  | "odd", _ => some false
  | "even", .int n => some (n % 2 = 0)
  | "even", _ => some false
  | "true", .bool flag => some flag
  | "true", _ => some false
  | "false", .bool flag => some !flag
  | "false", _ => some false
  | _, _ => none

end Parley.Template
