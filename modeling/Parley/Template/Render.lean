import Parley.Registers
import Parley.Template.Filter
import Parley.Template.Parser
/-!
Rendering a template against the memory of a machine.

A register that is not set renders as nothing. There is no result if the template is not one, or if
it asks a value for something that the value does not have.
-/

namespace Parley.Template

/-- The values of names: those a template gave, in the innermost place first, then the registers. -/
structure Scope where
  frames : List (TextMap Value)
  registers : Registers

namespace Scope

def inFrames (name : String) : List (TextMap Value) → Option Value
  | [] => none
  | frame :: rest => frame.get? name <|> inFrames name rest

def find (scope : Scope) (name : String) : Value :=
  match inFrames name scope.frames with
  | some value => value
  | none => (scope.registers.get? name).elim .undefined .text

def assign (scope : Scope) (name : String) (value : Value) : Scope :=
  match scope.frames with
  | [] => { scope with frames := [TextMap.empty.insert name value] }
  | frame :: rest => { scope with frames := frame.insert name value :: rest }

def enter (scope : Scope) : Scope := { scope with frames := .empty :: scope.frames }

def leave (scope : Scope) : Scope := { scope with frames := scope.frames.drop 1 }

end Scope

/-- The remainder that is not below zero, and the quotient that goes with it. -/
def floatQuotient (a b : Float) : Float :=
  let truncated := a / b
  let quotient := if truncated < 0 then truncated.ceil else truncated.floor
  let rest := a - b * quotient
  if rest < 0 then (if b < 0 then quotient + 1 else quotient - 1) else quotient

def calculate? (operator : Operator) (a b : Value) : Option Value :=
  match operator, Value.numbers? a b with
  | .add, some (.int m, .int n) => Value.whole? (m + n)
  | .add, some (m, n) => some (.float (m.toFloat + n.toFloat))
  | .subtract, some (.int m, .int n) => Value.whole? (m - n)
  | .subtract, some (m, n) => some (.float (m.toFloat - n.toFloat))
  | .multiply, some (.int m, .int n) => Value.whole? (m * n)
  | .multiply, some (m, n) => some (.float (m.toFloat * n.toFloat))
  | .divide, some (m, n) => some (.float (m.toFloat / n.toFloat))
  | .quotient, some (.int m, .int n) => if n = 0 then none else Value.whole? (m / n)
  | .quotient, some (m, n) => some (.float (floatQuotient m.toFloat n.toFloat))
  | .remainder, some (.int m, .int n) => if n = 0 then none else Value.whole? (m % n)
  | .remainder, some (m, n) =>
    some (.float (m.toFloat - n.toFloat * floatQuotient m.toFloat n.toFloat))
  | .power, some (.int m, .int n) => if n < 0 || 128 < n then none else Value.whole? (m.pow n.toNat)
  | .power, some (m, n) => some (.float (m.toFloat ^ n.toFloat))
  | _, _ => none

def isAmong? (value container : Value) : Option Bool :=
  match container with
  | .undefined => some false
  | .text text => some (isWithin value.print.toList text.toList)
  | .list items => some (items.any (Value.same value))
  | .record fields => some (fields.any fun field => Value.same value (.text field.1))
  | _ => none

def operate? (operator : Operator) (a b : Value) : Option Value :=
  match operator with
  | .equal => some (.bool (Value.same a b))
  | .notEqual => some (.bool !(Value.same a b))
  | .less => some (.bool (Value.less a b))
  | .lessOrEqual => some (.bool !(Value.less b a))
  | .more => some (.bool (Value.less b a))
  | .moreOrEqual => some (.bool !(Value.less a b))
  | .among => (isAmong? a b).map .bool
  | .notAmong => (isAmong? a b).map fun found => .bool !found
  | .join => some (.text (a.print ++ b.print))
  | .add =>
    match a, b with
    | .text m, .text n => some (.text (m ++ n))
    | .list m, .list n => some (.list (m ++ n))
    | _, _ => calculate? .add a b
  | other => calculate? other a b

/-- What is not there has no attributes, and other values lack most of them. -/
def attribute? (name : String) : Value → Option Value
  | .undefined => none
  | .record fields => some ((TextMap.findIn name fields).getD .undefined)
  | _ => some .undefined

def negated? : Value → Option Value
  | .int n => Value.whole? (-n)
  | .float x => some (.float (-x))
  | _ => none

mutual

def evaluate? (scope : Scope) : Expression → Option Value
  | .literal value => some value
  | .name name => some (scope.find name)
  | .list items => (evaluateAll? scope items).map .list
  | .not operand => (evaluate? scope operand).map fun value => .bool !value.isTrue
  | .negate operand => (evaluate? scope operand).bind negated?
  | .binary .both left right =>
    match evaluate? scope left with
    | some value => if value.isTrue then evaluate? scope right else some value
    | none => none
  | .binary .either left right =>
    match evaluate? scope left with
    | some value => if value.isTrue then some value else evaluate? scope right
    | none => none
  | .binary operator left right =>
    match evaluate? scope left, evaluate? scope right with
    | some a, some b => operate? operator a b
    | _, _ => none
  | .choice condition yes no =>
    match evaluate? scope condition with
    | some value => if value.isTrue then evaluate? scope yes else evaluate? scope no
    | none => none
  | .attribute owner name => (evaluate? scope owner).bind (attribute? name)
  | .filter name operand arguments =>
    match evaluate? scope operand, evaluateAll? scope arguments with
    | some value, some values => applyFilter? name value values
    | _, _ => none
  | .test name operand =>
    match evaluate? scope operand with
    | some value => (applyTest? name value).map .bool
    | none => none

def evaluateAll? (scope : Scope) : List Expression → Option (List Value)
  | [] => some []
  | expression :: rest =>
    match evaluate? scope expression, evaluateAll? scope rest with
    | some value, some values => some (value :: values)
    | _, _ => none

end

def turn (index total depth : Nat) : Value :=
  .record
    [("index", .int (index + 1)), ("index0", .int index), ("revindex", .int (total - index)),
      ("revindex0", .int (total - index - 1)), ("length", .int total),
      ("first", .bool (index = 0)), ("last", .bool (index + 1 = total)),
      ("depth", .int (depth + 1)), ("depth0", .int depth)]

def chosen? (scope : Scope) (name : String) (condition : Expression) :
    List Value → Option (List Value)
  | [] => some []
  | item :: rest =>
    match evaluate? (scope.enter.assign name item) condition, chosen? scope name condition rest with
    | some value, some items => some (if value.isTrue then item :: items else items)
    | _, _ => none

mutual

def renderNode? (scope : Scope) : Node → Option (String × Scope)
  | .text content => some (String.ofList content, scope)
  | .output value => (evaluate? scope value).map fun value => (value.print, scope)
  | .assign name value => (evaluate? scope value).map fun value => ("", scope.assign name value)
  | .capture name body =>
    match renderNodes? scope body with
    | some (text, scope) => some ("", scope.assign name (.text text))
    | none => none
  | .branch condition yes no =>
    match evaluate? scope condition with
    | some value => if value.isTrue then renderNodes? scope yes else renderNodes? scope no
    | none => none
  | .loop name source condition body empty =>
    match (evaluate? scope source).bind Value.items? with
    | none => none
    | some all =>
      match chosen? scope name condition all with
      | none => none
      | some [] => renderNodes? scope empty
      | some items =>
        let step (state : String × Scope) (entry : Value × Nat) : Option (String × Scope) :=
          let (text, scope) := state
          let inside := (scope.assign name entry.1).assign "loop"
            (turn entry.2 items.length (scope.frames.length - 2))
          (renderNodes? inside body).map fun (more, scope) => (text ++ more, scope)
        (items.zipIdx.foldlM step ("", scope.enter)).map fun (text, scope) => (text, scope.leave)

def renderNodes? (scope : Scope) : List Node → Option (String × Scope)
  | [] => some ("", scope)
  | node :: rest =>
    match renderNode? scope node with
    | some (text, scope) => (renderNodes? scope rest).map fun (more, scope) => (text ++ more, scope)
    | none => none

end

def render? (source : String) (registers : Registers) : Option String :=
  match parse? (withoutDots 0 source.toList) with
  | some nodes => (renderNodes? ⟨[.empty], registers⟩ nodes).map (·.1)
  | none => none

end Parley.Template
