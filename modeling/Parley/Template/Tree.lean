import Parley.Template.Value
/-!
Templates as trees.
-/

namespace Parley.Template

inductive Operator where
  | either
  | both
  | equal
  | notEqual
  | less
  | lessOrEqual
  | more
  | moreOrEqual
  | among
  | notAmong
  | add
  | subtract
  | join
  | multiply
  | divide
  | quotient
  | remainder
  | power

inductive Expression where
  | literal (value : Value)
  | name (name : String)
  | list (items : List Expression)
  | not (operand : Expression)
  | negate (operand : Expression)
  | binary (operator : Operator) (left right : Expression)
  | choice (condition yes no : Expression)
  | attribute (owner : Expression) (name : String)
  | filter (name : String) (operand : Expression) (arguments : List Expression)
  | test (name : String) (operand : Expression)

inductive Node where
  | text (content : List Char)
  | output (value : Expression)
  | assign (name : String) (value : Expression)
  /-- What the body writes becomes the value of the name. -/
  | capture (name : String) (body : List Node)
  | branch (condition : Expression) (yes no : List Node)
  /-- The second body is for a source without items. -/
  | loop (name : String) (source condition : Expression) (body empty : List Node)

end Parley.Template
