import Parley.Lua.Number
/-!
Lua programs as trees.
-/

namespace Parley.Lua

inductive Binary where
  | or
  | and
  | equal
  | notEqual
  | less
  | lessOrEqual
  | more
  | moreOrEqual
  | bitOr
  | bitXor
  | bitAnd
  | shiftLeft
  | shiftRight
  | concat
  | add
  | subtract
  | multiply
  | divide
  | floorDivide
  | modulo
  | power

inductive Unary where
  | negate
  | not
  | length
  | bitNot

mutual

inductive Expression where
  | nil
  | bool (value : Bool)
  | number (value : Number)
  | string (bytes : List UInt8)
  /-- The arguments of the function beyond its parameters. -/
  | extra
  | function (parameters : List String) (isVariadic : Bool) (body : List Statement)
  | name (name : String)
  | index (owner key : Expression)
  | call (function : Expression) (arguments : List Expression)
  | method (owner : Expression) (name : String) (arguments : List Expression)
  | unary (operator : Unary) (operand : Expression)
  | binary (operator : Binary) (left right : Expression)
  /-- Exactly one value. -/
  | single (inner : Expression)
  | table (fields : List Field)

inductive Field where
  | item (value : Expression)
  | entry (key value : Expression)

inductive Statement where
  | declare (names : List String) (values : List Expression)
  | declareFunction (name : String) (function : Expression)
  | assign (targets values : List Expression)
  | call (call : Expression)
  | block (body : List Statement)
  | branch (condition : Expression) (yes no : List Statement)
  | while (condition : Expression) (body : List Statement)
  | repeat (body : List Statement) (condition : Expression)
  | count (name : String) (first last step : Expression) (body : List Statement)
  | each (names : List String) (sources : List Expression) (body : List Statement)
  | return (values : List Expression)
  | break

end

end Parley.Lua
