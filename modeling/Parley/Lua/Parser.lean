import Parley.Lua.Token
import Parley.Lua.Tree
/-!
Reading the words of a Lua program as its tree.

The fuel is enough for every function to be entered at each of the words.
-/

namespace Parley.Lua

structure Binding where
  operator : Binary
  left : Nat
  right : Nat

def binding? : Token → Option Binding
  | .keyword "or" => some ⟨.or, 1, 1⟩
  | .keyword "and" => some ⟨.and, 2, 2⟩
  | .symbol "==" => some ⟨.equal, 3, 3⟩
  | .symbol "~=" => some ⟨.notEqual, 3, 3⟩
  | .symbol "<" => some ⟨.less, 3, 3⟩
  | .symbol "<=" => some ⟨.lessOrEqual, 3, 3⟩
  | .symbol ">" => some ⟨.more, 3, 3⟩
  | .symbol ">=" => some ⟨.moreOrEqual, 3, 3⟩
  | .symbol "|" => some ⟨.bitOr, 4, 4⟩
  | .symbol "~" => some ⟨.bitXor, 5, 5⟩
  | .symbol "&" => some ⟨.bitAnd, 6, 6⟩
  | .symbol "<<" => some ⟨.shiftLeft, 7, 7⟩
  | .symbol ">>" => some ⟨.shiftRight, 7, 7⟩
  | .symbol ".." => some ⟨.concat, 9, 8⟩
  | .symbol "+" => some ⟨.add, 10, 10⟩
  | .symbol "-" => some ⟨.subtract, 10, 10⟩
  | .symbol "*" => some ⟨.multiply, 11, 11⟩
  | .symbol "/" => some ⟨.divide, 11, 11⟩
  | .symbol "//" => some ⟨.floorDivide, 11, 11⟩
  | .symbol "%" => some ⟨.modulo, 11, 11⟩
  | .symbol "^" => some ⟨.power, 14, 13⟩
  | _ => none

def unary? : Token → Option Unary
  | .keyword "not" => some .not
  | .symbol "-" => some .negate
  | .symbol "#" => some .length
  | .symbol "~" => some .bitNot
  | _ => none

def unaryBinding : Nat := 12

def expectSymbol? (symbol : String) : List Token → Option (List Token)
  | .symbol found :: rest => if found = symbol then some rest else none
  | _ => none

def expectKeyword? (word : String) : List Token → Option (List Token)
  | .keyword found :: rest => if found = word then some rest else none
  | _ => none

def readNames? : List Token → Option (List String × List Token)
  | .name name :: .symbol "," :: rest =>
    (readNames? rest).map fun (names, left) => (name :: names, left)
  | .name name :: rest => some ([name], rest)
  | _ => none

/-- A name to declare, and the word in angle brackets after it. -/
def readDeclared? : List Token → Option (String × List Token)
  | .name name :: .symbol "<" :: .name mark :: .symbol ">" :: rest =>
    if mark = "const" || mark = "close" then some (name, rest) else none
  | .name name :: rest => some (name, rest)
  | _ => none

def readDeclaredNames? : Nat → List Token → Option (List String × List Token)
  | 0, _ => none
  | fuel + 1, tokens => do
    let (name, rest) ← readDeclared? tokens
    match rest with
    | .symbol "," :: rest => do
      let (names, rest) ← readDeclaredNames? fuel rest
      some (name :: names, rest)
    | _ => some ([name], rest)

/-- The parameters of a function up to their bracket; three dots take the arguments beyond them. -/
def readParameters? : List Token → Option (List String × Bool × List Token)
  | .symbol ")" :: rest => some ([], false, rest)
  | .symbol "..." :: .symbol ")" :: rest => some ([], true, rest)
  | .name name :: .symbol ")" :: rest => some ([name], false, rest)
  | .name name :: .symbol "," :: .symbol "..." :: .symbol ")" :: rest => some ([name], true, rest)
  | .name name :: .symbol "," :: .name next :: rest =>
    (readParameters? (.name next :: rest)).map fun (names, isVariadic, left) =>
      (name :: names, isVariadic, left)
  | _ => none

structure Surroundings where
  inLoop : Bool
  isVariadic : Bool

def isTarget : Expression → Bool
  | .name _ | .index _ _ => true
  | _ => false

def isCall : Expression → Bool
  | .call _ _ | .method _ _ _ => true
  | _ => false

def endsBlock : List Token → Bool
  | [] | .keyword "end" :: _ | .keyword "else" :: _ | .keyword "elseif" :: _
  | .keyword "until" :: _ => true
  | _ => false

mutual

def readExpression? (around : Surroundings) :
    Nat → Nat → List Token → Option (Expression × List Token)
  | 0, _, _ => none
  | fuel + 1, loosest, tokens =>
    match tokens.head?.bind unary? with
    | some operator => do
      let (operand, rest) ← readExpression? around fuel unaryBinding (tokens.drop 1)
      readOperators? around fuel loosest (.unary operator operand) rest
    | none => do
      let (left, rest) ← readSimple? around fuel tokens
      readOperators? around fuel loosest left rest

/-- The operators after an operand that bind tighter than the one before it. -/
def readOperators? (around : Surroundings) :
    Nat → Nat → Expression → List Token → Option (Expression × List Token)
  | 0, _, _, _ => none
  | fuel + 1, loosest, left, tokens =>
    match tokens.head?.bind binding? with
    | some found =>
      if loosest < found.left then do
        let (right, rest) ← readExpression? around fuel found.right (tokens.drop 1)
        readOperators? around fuel loosest (.binary found.operator left right) rest
      else some (left, tokens)
    | none => some (left, tokens)

def readSimple? (around : Surroundings) : Nat → List Token → Option (Expression × List Token)
  | 0, _ => none
  | fuel + 1, tokens =>
    match tokens with
    | .number value :: rest => some (.number value, rest)
    | .string bytes :: rest => some (.string bytes, rest)
    | .keyword "nil" :: rest => some (.nil, rest)
    | .keyword "true" :: rest => some (.bool true, rest)
    | .keyword "false" :: rest => some (.bool false, rest)
    | .symbol "..." :: rest => if around.isVariadic then some (.extra, rest) else none
    | .symbol "\x7b" :: rest => do
      let (fields, rest) ← readFields? around fuel rest
      some (.table fields, rest)
    | .keyword "function" :: rest => readFunction? fuel [] rest
    | _ => readSuffixed? around fuel tokens

def readFunction? : Nat → List String → List Token → Option (Expression × List Token)
  | 0, _, _ => none
  | fuel + 1, given, tokens => do
    let (names, isVariadic, rest) ← readParameters? (← expectSymbol? "(" tokens)
    let (body, rest) ← readBlock? { inLoop := false, isVariadic } fuel rest
    some (.function (given ++ names) isVariadic body, ← expectKeyword? "end" rest)

def readSuffixed? (around : Surroundings) : Nat → List Token → Option (Expression × List Token)
  | 0, _ => none
  | fuel + 1, tokens =>
    match tokens with
    | .name name :: rest => readSuffixes? around fuel (.name name) rest
    | .symbol "(" :: rest => do
      let (inner, rest) ← readExpression? around fuel 0 rest
      readSuffixes? around fuel (.single inner) (← expectSymbol? ")" rest)
    | _ => none

def readSuffixes? (around : Surroundings) :
    Nat → Expression → List Token → Option (Expression × List Token)
  | 0, _, _ => none
  | fuel + 1, owner, tokens =>
    match tokens with
    | .symbol "." :: .name name :: rest =>
      readSuffixes? around fuel (.index owner (.string name.toUTF8.toList)) rest
    | .symbol "." :: _ => none
    | .symbol "[" :: rest => do
      let (key, rest) ← readExpression? around fuel 0 rest
      readSuffixes? around fuel (.index owner key) (← expectSymbol? "]" rest)
    | .symbol ":" :: .name name :: rest => do
      let (arguments, rest) ← readArguments? around fuel rest
      readSuffixes? around fuel (.method owner name arguments) rest
    | .symbol ":" :: _ => none
    | .symbol "(" :: _ | .string _ :: _ | .symbol "\x7b" :: _ => do
      let (arguments, rest) ← readArguments? around fuel tokens
      readSuffixes? around fuel (.call owner arguments) rest
    | _ => some (owner, tokens)

def readArguments? (around : Surroundings) :
    Nat → List Token → Option (List Expression × List Token)
  | 0, _ => none
  | fuel + 1, tokens =>
    match tokens with
    | .symbol "(" :: .symbol ")" :: rest => some ([], rest)
    | .symbol "(" :: rest => do
      let (values, rest) ← readExpressions? around fuel rest
      some (values, ← expectSymbol? ")" rest)
    | .string bytes :: rest => some ([.string bytes], rest)
    | .symbol "\x7b" :: rest => do
      let (fields, rest) ← readFields? around fuel rest
      some ([.table fields], rest)
    | _ => none

def readExpressions? (around : Surroundings) :
    Nat → List Token → Option (List Expression × List Token)
  | 0, _ => none
  | fuel + 1, tokens => do
    let (value, rest) ← readExpression? around fuel 0 tokens
    match rest with
    | .symbol "," :: rest => do
      let (values, rest) ← readExpressions? around fuel rest
      some (value :: values, rest)
    | _ => some ([value], rest)

def readFields? (around : Surroundings) : Nat → List Token → Option (List Field × List Token)
  | 0, _ => none
  | fuel + 1, tokens =>
    match tokens with
    | .symbol "\x7d" :: rest => some ([], rest)
    | _ => do
      let (field, rest) ← readField? around fuel tokens
      match rest with
      | .symbol "\x7d" :: rest => some ([field], rest)
      | .symbol "," :: rest | .symbol ";" :: rest => do
        let (fields, rest) ← readFields? around fuel rest
        some (field :: fields, rest)
      | _ => none

def readField? (around : Surroundings) : Nat → List Token → Option (Field × List Token)
  | 0, _ => none
  | fuel + 1, tokens =>
    match tokens with
    | .name name :: .symbol "=" :: rest => do
      let (value, rest) ← readExpression? around fuel 0 rest
      some (.entry (.string name.toUTF8.toList) value, rest)
    | .symbol "[" :: rest => do
      let (key, rest) ← readExpression? around fuel 0 rest
      let rest ← expectSymbol? "=" (← expectSymbol? "]" rest)
      let (value, rest) ← readExpression? around fuel 0 rest
      some (.entry key value, rest)
    | _ => do
      let (value, rest) ← readExpression? around fuel 0 tokens
      some (.item value, rest)

def readBlock? (around : Surroundings) : Nat → List Token → Option (List Statement × List Token)
  | 0, _ => none
  | fuel + 1, tokens =>
    if endsBlock tokens then some ([], tokens)
    else
      match tokens with
      | .symbol ";" :: rest => readBlock? around fuel rest
      | .keyword "return" :: rest => readReturn? around fuel rest
      | _ => do
        let (statement, rest) ← readStatement? around fuel tokens
        let (statements, rest) ← readBlock? around fuel rest
        some (statement :: statements, rest)

/-- Nothing comes after a return in its block. -/
def readReturn? (around : Surroundings) : Nat → List Token → Option (List Statement × List Token)
  | 0, _ => none
  | fuel + 1, tokens => do
    let (values, rest) ←
      if endsBlock tokens || (expectSymbol? ";" tokens).isSome then some ([], tokens)
      else readExpressions? around fuel tokens
    let rest := (expectSymbol? ";" rest).getD rest
    if endsBlock rest then some ([.return values], rest) else none

def readStatement? (around : Surroundings) : Nat → List Token → Option (Statement × List Token)
  | 0, _ => none
  | fuel + 1, tokens =>
    match tokens with
    | .keyword "local" :: .keyword "function" :: .name name :: rest => do
      let (function, rest) ← readFunction? fuel [] rest
      some (.declareFunction name function, rest)
    | .keyword "local" :: rest => do
      let (names, rest) ← readDeclaredNames? fuel rest
      match rest with
      | .symbol "=" :: rest => do
        let (values, rest) ← readExpressions? around fuel rest
        some (.declare names values, rest)
      | _ => some (.declare names [], rest)
    | .keyword "function" :: .name name :: rest => readNamedFunction? fuel (.name name) rest
    | .keyword "if" :: rest => readBranch? around fuel rest
    | .keyword "while" :: rest => do
      let (condition, rest) ← readExpression? around fuel 0 rest
      let (body, rest) ←
        readBlock? { around with inLoop := true } fuel (← expectKeyword? "do" rest)
      some (.while condition body, ← expectKeyword? "end" rest)
    | .keyword "repeat" :: rest => do
      let (body, rest) ← readBlock? { around with inLoop := true } fuel rest
      let (condition, rest) ← readExpression? around fuel 0 (← expectKeyword? "until" rest)
      some (.repeat body condition, rest)
    | .keyword "for" :: rest => readLoop? around fuel rest
    | .keyword "do" :: rest => do
      let (body, rest) ← readBlock? around fuel rest
      some (.block body, ← expectKeyword? "end" rest)
    | .keyword "break" :: rest => if around.inLoop then some (.break, rest) else none
    | _ => do
      let (first, rest) ← readSuffixed? around fuel tokens
      match rest with
      | .symbol "=" :: _ | .symbol "," :: _ => readAssignment? around fuel [first] rest
      | _ => if isCall first then some (.call first, rest) else none

/-- More targets of an assignment, then its values. The targets so far come last first. -/
def readAssignment? (around : Surroundings) :
    Nat → List Expression → List Token → Option (Statement × List Token)
  | 0, _, _ => none
  | fuel + 1, targets, tokens =>
    if !targets.all isTarget then none
    else
      match tokens with
      | .symbol "," :: rest => do
        let (target, rest) ← readSuffixed? around fuel rest
        readAssignment? around fuel (target :: targets) rest
      | .symbol "=" :: rest => do
        let (values, rest) ← readExpressions? around fuel rest
        some (.assign targets.reverse values, rest)
      | _ => none

/-- A function whose name may be a path. After a colon it has an owner as its first parameter. -/
def readNamedFunction? : Nat → Expression → List Token → Option (Statement × List Token)
  | 0, _, _ => none
  | fuel + 1, owner, tokens =>
    match tokens with
    | .symbol "." :: .name name :: rest =>
      readNamedFunction? fuel (.index owner (.string name.toUTF8.toList)) rest
    | .symbol ":" :: .name name :: rest => do
      let (function, rest) ← readFunction? fuel ["self"] rest
      some (.assign [.index owner (.string name.toUTF8.toList)] [function], rest)
    | _ => do
      let (function, rest) ← readFunction? fuel [] tokens
      some (.assign [owner] [function], rest)

def readBranch? (around : Surroundings) : Nat → List Token → Option (Statement × List Token)
  | 0, _ => none
  | fuel + 1, tokens => do
    let (condition, rest) ← readExpression? around fuel 0 tokens
    let (yes, rest) ← readBlock? around fuel (← expectKeyword? "then" rest)
    match rest with
    | .keyword "elseif" :: rest => do
      let (no, rest) ← readBranch? around fuel rest
      some (.branch condition yes [no], rest)
    | .keyword "else" :: rest => do
      let (no, rest) ← readBlock? around fuel rest
      some (.branch condition yes no, ← expectKeyword? "end" rest)
    | _ => some (.branch condition yes [], ← expectKeyword? "end" rest)

def readLoop? (around : Surroundings) : Nat → List Token → Option (Statement × List Token)
  | 0, _ => none
  | fuel + 1, tokens => do
    let inside := { around with inLoop := true }
    match tokens with
    | .name name :: .symbol "=" :: rest => do
      let (bounds, rest) ← readExpressions? around fuel rest
      let (first, last, step) ← match bounds with
        | [first, last] => some (first, last, .number (.int 1))
        | [first, last, step] => some (first, last, step)
        | _ => none
      let (body, rest) ← readBlock? inside fuel (← expectKeyword? "do" rest)
      some (.count name first last step body, ← expectKeyword? "end" rest)
    | _ => do
      let (names, rest) ← readNames? tokens
      let (sources, rest) ← readExpressions? around fuel (← expectKeyword? "in" rest)
      let (body, rest) ← readBlock? inside fuel (← expectKeyword? "do" rest)
      some (.each names sources body, ← expectKeyword? "end" rest)

end

def parse? (source : String) : Option (List Statement) := do
  let tokens ← tokens? source
  let (statements, rest) ←
    readBlock? { inLoop := false, isVariadic := true } (8 * tokens.length + 8) tokens
  if rest.isEmpty then some statements else none

end Parley.Lua
