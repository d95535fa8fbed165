import Parley.Template.Token
import Parley.Template.Tree
/-!
Reading the tokens of tags as expressions, and the pieces of a template as a tree.

The fuel of an expression is enough for every level of operators at each of its tokens.
-/

namespace Parley.Template

/-- A kind of expression that binds tighter the further down the list it is. -/
inductive Level where
  | either
  | both
  | not
  | comparison
  | sum
  | join
  | product
  | power
  | unary

def Level.tighter : Level → Level
  | either => both
  | both => not
  | not => comparison
  | comparison => sum
  | sum => join
  | join => product
  | product => power
  | power | unary => unary

def operator? (level : Level) (tokens : List Token) : Option (Operator × List Token) :=
  match level, tokens with
  | .either, .name "or" :: rest => some (.either, rest)
  | .both, .name "and" :: rest => some (.both, rest)
  | .comparison, .mark "==" :: rest => some (.equal, rest)
  | .comparison, .mark "!=" :: rest => some (.notEqual, rest)
  | .comparison, .mark "<" :: rest => some (.less, rest)
  | .comparison, .mark "<=" :: rest => some (.lessOrEqual, rest)
  | .comparison, .mark ">" :: rest => some (.more, rest)
  | .comparison, .mark ">=" :: rest => some (.moreOrEqual, rest)
  | .comparison, .name "in" :: rest => some (.among, rest)
  | .comparison, .name "not" :: .name "in" :: rest => some (.notAmong, rest)
  | .sum, .mark "+" :: rest => some (.add, rest)
  | .sum, .mark "-" :: rest => some (.subtract, rest)
  | .join, .mark "~" :: rest => some (.join, rest)
  | .product, .mark "*" :: rest => some (.multiply, rest)
  | .product, .mark "/" :: rest => some (.divide, rest)
  | .product, .mark "//" :: rest => some (.quotient, rest)
  | .product, .mark "%" :: rest => some (.remainder, rest)
  | .power, .mark "**" :: rest => some (.power, rest)
  | _, _ => none

/-- A name on its own: three literals are written as names, in two ways each. -/
def namedExpression : String → Expression
  | "true" | "True" => .literal (.bool true)
  | "false" | "False" => .literal (.bool false)
  | "none" | "None" => .literal .null
  | name => .name name

mutual

def readExpression? : Nat → List Token → Option (Expression × List Token)
  | 0, _ => none
  | fuel + 1, tokens => do
    let (value, rest) ← readLevel? fuel .either tokens
    readChoice? fuel value rest

/-- Conditions after a value. Without an `else` the other value is undefined. -/
def readChoice? : Nat → Expression → List Token → Option (Expression × List Token)
  | 0, _, _ => none
  | fuel + 1, value, .name "if" :: tokens => do
    let (condition, rest) ← readLevel? fuel .either tokens
    match rest with
    | .name "else" :: others => do
      let (other, rest) ← readExpression? fuel others
      readChoice? fuel (.choice condition value other) rest
    | _ => readChoice? fuel (.choice condition value (.literal .undefined)) rest
  | _ + 1, value, tokens => some (value, tokens)

def readLevel? : Nat → Level → List Token → Option (Expression × List Token)
  | 0, _, _ => none
  | fuel + 1, .unary, tokens => readUnary? fuel tokens
  | fuel + 1, .not, .name "not" :: tokens => do
    let (operand, rest) ← readLevel? fuel .not tokens
    some (.not operand, rest)
  | fuel + 1, level, tokens => do
    let (left, rest) ← readLevel? fuel level.tighter tokens
    readOperands? fuel level left rest

def readOperands? : Nat → Level → Expression → List Token → Option (Expression × List Token)
  | 0, _, _, _ => none
  | fuel + 1, level, left, tokens =>
    match operator? level tokens with
    | some (operator, others) => do
      let (right, rest) ← readLevel? fuel level.tighter others
      readOperands? fuel level (.binary operator left right) rest
    | none => some (left, tokens)

/-- Attributes and filters bind to a number with its sign. -/
def readUnary? : Nat → List Token → Option (Expression × List Token)
  | 0, _ => none
  | fuel + 1, tokens => do
    let (value, rest) ← readSigned? fuel tokens
    readSuffixes? fuel value rest

def readSigned? : Nat → List Token → Option (Expression × List Token)
  | 0, _ => none
  | fuel + 1, .mark "-" :: tokens => do
    let (operand, rest) ← readSigned? fuel tokens
    some (.negate operand, rest)
  | fuel + 1, tokens => readPrimary? fuel tokens

def readPrimary? : Nat → List Token → Option (Expression × List Token)
  | 0, _ => none
  | fuel + 1, tokens =>
    match tokens with
    | .name name :: rest => some (namedExpression name, rest)
    | .text value :: rest => some (.literal (.text value), rest)
    | .int value :: rest => (Value.whole? value).map fun value => (.literal value, rest)
    | .float value :: rest => some (.literal (.float value), rest)
    | .mark "(" :: rest => do
      let (value, rest) ← readExpression? fuel rest
      match rest with
      | .mark ")" :: rest => some (value, rest)
      | _ => none
    | .mark "[" :: rest => do
      let (items, rest) ← readItems? fuel "]" rest
      some (.list items, rest)
    | _ => none

def readItems? : Nat → String → List Token → Option (List Expression × List Token)
  | 0, _, _ => none
  | fuel + 1, closing, tokens =>
    match tokens with
    | .mark symbol :: rest =>
      if symbol = closing then some ([], rest) else readMore? fuel closing tokens
    | _ => readMore? fuel closing tokens

def readMore? : Nat → String → List Token → Option (List Expression × List Token)
  | 0, _, _ => none
  | fuel + 1, closing, tokens => do
    let (item, rest) ← readExpression? fuel tokens
    match rest with
    | .mark "," :: rest => do
      let (items, rest) ← readItems? fuel closing rest
      some (item :: items, rest)
    | .mark symbol :: rest => if symbol = closing then some ([item], rest) else none
    | _ => none

def readSuffixes? : Nat → Expression → List Token → Option (Expression × List Token)
  | 0, _, _ => none
  | fuel + 1, value, tokens =>
    match tokens with
    | .mark "." :: .name name :: rest => readSuffixes? fuel (.attribute value name) rest
    | .mark "." :: _ => none
    | .mark "|" :: .name name :: .mark "(" :: rest => do
      let (arguments, rest) ← readItems? fuel ")" rest
      readSuffixes? fuel (.filter name value arguments) rest
    | .mark "|" :: .name name :: rest => readSuffixes? fuel (.filter name value []) rest
    | .name "is" :: .name "not" :: .name name :: rest =>
      readSuffixes? fuel (.not (.test name value)) rest
    | .name "is" :: .name name :: rest => readSuffixes? fuel (.test name value) rest
    | _ => some (value, tokens)

end

def expressionFuel (tokens : List Token) : Nat := 16 * tokens.length + 16

def leading? (tokens : List Token) : Option (Expression × List Token) :=
  readExpression? (expressionFuel tokens) tokens

def expression? (tokens : List Token) : Option Expression :=
  match leading? tokens with
  | some (value, []) => some value
  | _ => none

def isFreeName (name : String) : Bool :=
  name ∉ ["true", "True", "false", "False", "none", "None", "loop", "self"]

def loopHead? : List Token → Option (String × Expression × Expression)
  | .name name :: .name "in" :: tokens =>
    if isFreeName name then do
      let (source, rest) ← readLevel? (expressionFuel tokens) .either tokens
      match rest with
      | [] => some (name, source, .literal (.bool true))
      | .name "if" :: condition => some (name, source, ← expression? condition)
      | _ => none
    else none
  | _ => none

/-- Nodes up to a statement that is none of its own: an `else`, an end, or nothing. -/
structure Body where
  nodes : List Node
  stop : List Token
  rest : List Piece

def Body.cons (node : Node) (body : Body) : Body := { body with nodes := node :: body.nodes }

mutual

def readBody? : Nat → List Piece → Option Body
  | 0, _ => none
  | _ + 1, [] => some ⟨[], [], []⟩
  | fuel + 1, .text content :: rest => (readBody? fuel rest).map (Body.cons (.text content))
  | fuel + 1, .output tokens :: rest => do
    let value ← expression? tokens
    (readBody? fuel rest).map (Body.cons (.output value))
  | fuel + 1, .block tokens :: rest =>
    match tokens with
    | .name "if" :: condition => do
      let (node, rest) ← readBranch? fuel condition rest
      (readBody? fuel rest).map (Body.cons node)
    | .name "for" :: head => do
      let (name, source, condition) ← loopHead? head
      let body ← readBody? fuel rest
      match body.stop with
      | [.name "endfor"] =>
        (readBody? fuel body.rest).map (Body.cons (.loop name source condition body.nodes []))
      | [.name "else"] => do
        let empty ← readBody? fuel body.rest
        match empty.stop with
        | [.name "endfor"] =>
          (readBody? fuel empty.rest).map
            (Body.cons (.loop name source condition body.nodes empty.nodes))
        | _ => none
      | _ => none
    | [.name "set", .name name] =>
      if isFreeName name then do
        let body ← readBody? fuel rest
        match body.stop with
        | [.name "endset"] => (readBody? fuel body.rest).map (Body.cons (.capture name body.nodes))
        | _ => none
      else none
    | .name "set" :: .name name :: .mark "=" :: tokens =>
      if isFreeName name then do
        let value ← expression? tokens
        (readBody? fuel rest).map (Body.cons (.assign name value))
      else none
    | .name "else" :: _ | .name "elif" :: _ | .name "endif" :: _ | .name "endfor" :: _
    | .name "endset" :: _ => some ⟨[], tokens, rest⟩
    | _ => none

def readBranch? : Nat → List Token → List Piece → Option (Node × List Piece)
  | 0, _, _ => none
  | fuel + 1, condition, pieces => do
    let condition ← expression? condition
    let yes ← readBody? fuel pieces
    match yes.stop with
    | [.name "endif"] => some (.branch condition yes.nodes [], yes.rest)
    | [.name "else"] => do
      let no ← readBody? fuel yes.rest
      match no.stop with
      | [.name "endif"] => some (.branch condition yes.nodes no.nodes, no.rest)
      | _ => none
    | .name "elif" :: other => do
      let (no, rest) ← readBranch? fuel other yes.rest
      some (.branch condition yes.nodes [no], rest)
    | _ => none

end

def parse? (source : List Char) : Option (List Node) := do
  let pieces ← pieces source
  let body ← readBody? (2 * pieces.length + 2) pieces
  if body.stop.isEmpty then some body.nodes else none

end Parley.Template
