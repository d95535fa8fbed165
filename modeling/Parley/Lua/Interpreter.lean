import Parley.Lua.Library
/-!
Running Lua programs.

The fuel bounds how deep calls, blocks and the turns of loops are nested, so every run comes to an
end. The depth of calls alone has a bound of its own, which a program may notice.
-/

namespace Parley.Lua

inductive Flow where
  | next
  | break
  | return (values : List Value)

structure Context where
  scope : Scope
  /-- The arguments beyond the parameters. -/
  extra : List Value
  /-- How many calls this one is inside of. -/
  depth : Nat

def callLimit : Nat := 2000

inductive Place where
  | name (name : String)
  | field (owner key : Value)

inductive Count where
  | ints (next last step : Int)
  | floats (next last step : Float)

/-- The last number for a loop over whole numbers, if it has a turn at all. -/
def lastInt (step : Int) (last : Number) : Int :=
  match last with
  | .int n => n.toInt
  | .float x =>
    if x.isNaN then (if step < 0 then Int64.maxValue.toInt + 1 else Int64.minValue.toInt - 1)
    else if Number.limit ≤ x then Int64.maxValue.toInt
    else if x < -Number.limit then Int64.minValue.toInt
    else if step < 0 then x.ceil.toInt64.toInt
    else x.floor.toInt64.toInt

def countOf (first last step : Value) : Run Count :=
  match first, last, step with
  | .number (.int n), .number last, .number (.int step) =>
    if step = 0 then fail "'for' step is zero"
    else return .ints n.toInt (lastInt step.toInt last) step.toInt
  | .number first, .number last, .number step =>
    if step.toFloat == 0 then fail "'for' step is zero"
    else return .floats first.toFloat last.toFloat step.toFloat
  | .number _, .number _, _ => fail "'for' step must be a number"
  | .number _, _, _ => fail "'for' limit must be a number"
  | _, _, _ => fail "'for' initial value must be a number"

def Count.turn? : Count → Option (Value × Count)
  | ints next last step =>
    if (if 0 < step then next ≤ last else last ≤ next) then
      some (ofInt next, ints (next + step) last step)
    else none
  | floats next last step =>
    if (if 0 < step then next ≤ last else last ≤ next) then
      some (.number (.float next), floats (next + step) last step)
    else none

def numberItems : Nat → List Value → Table → Table
  | _, [], table => table
  | n, value :: rest, table => numberItems (n + 1) rest (table.set (ofInt n) value)

def Flow.values : Flow → List Value
  | .return values => values
  | _ => []

mutual

def evaluate : Nat → Context → Expression → Run Value
  | 0, _, _ => throw .exhausted
  | fuel + 1, context, expression =>
    match expression with
    | .nil => return .nil
    | .bool value => return .bool value
    | .number value => return .number value
    | .string bytes => return .string bytes
    | .function parameters isVariadic body =>
      newClosure { parameters, isVariadic, body, scope := context.scope }
    | .name name => readName fuel context name
    | .index owner key => do
      let owner ← evaluate fuel context owner
      readIndex fuel context.depth owner (← evaluate fuel context key)
    | .unary operator operand => do
      let operand ← evaluate fuel context operand
      answer fuel context.depth (← applyUnary operator operand)
    | .binary .and left right => do
      let value ← evaluate fuel context left
      if value.isTrue then evaluate fuel context right else return value
    | .binary .or left right => do
      let value ← evaluate fuel context left
      if value.isTrue then return value else evaluate fuel context right
    | .binary operator left right => do
      let left ← evaluate fuel context left
      let right ← evaluate fuel context right
      answer fuel context.depth (← applyBinary operator left right)
    | .single inner => evaluate fuel context inner
    | .table fields => do newTable (← evaluateFields fuel context 1 fields [])
    | .extra | .call _ _ | .method _ _ _ => do
      return (← evaluateMany fuel context expression).head?.getD .nil

def evaluateMany : Nat → Context → Expression → Run (List Value)
  | 0, _, _ => throw .exhausted
  | fuel + 1, context, expression =>
    match expression with
    | .extra => return context.extra
    | .call function arguments => do
      let function ← evaluate fuel context function
      call fuel context.depth function (← evaluateAll fuel context arguments)
    | .method owner name arguments => do
      let owner ← evaluate fuel context owner
      let function ← readIndex fuel context.depth owner (ofText name)
      let arguments ← evaluateAll fuel context arguments
      call fuel context.depth function (owner :: arguments)
    | single => return [← evaluate fuel context single]

def evaluateAll : Nat → Context → List Expression → Run (List Value)
  | 0, _, _ => throw .exhausted
  | fuel + 1, context, expressions =>
    match expressions with
    | [] => return []
    | [last] => evaluateMany fuel context last
    | expression :: rest => do
      let value ← evaluate fuel context expression
      return value :: (← evaluateAll fuel context rest)

def evaluateFields : Nat → Context → Nat → List Field → Table → Run Table
  | 0, _, _, _, _ => throw .exhausted
  | fuel + 1, context, count, fields, table =>
    match fields with
    | [] => return table
    | [.item last] => do return numberItems count (← evaluateMany fuel context last) table
    | .item value :: rest => do
      let value ← evaluate fuel context value
      evaluateFields fuel context (count + 1) rest (table.set (ofInt count) value)
    | .entry key value :: rest => do
      let key ← keyOf (← evaluate fuel context key)
      let value ← evaluate fuel context value
      evaluateFields fuel context count rest (table.set key value)

def answer : Nat → Nat → Answer → Run Value
  | 0, _, _ => throw .exhausted
  | _ + 1, _, .value value => return value
  | fuel + 1, depth, .ask function arguments finish => do
    return finish ((← call fuel depth function arguments).head?.getD .nil)

def readIndex : Nat → Nat → Value → Value → Run Value
  | 0, _, _, _ => throw .exhausted
  | fuel + 1, depth, owner, key => do
    answer fuel depth (← lookUp key chainLimit owner)

def writeIndex : Nat → Nat → Value → Value → Value → Run Unit
  | 0, _, _, _, _ => throw .exhausted
  | fuel + 1, depth, owner, key, value => do
    let _ ← answer fuel depth (← assign key value chainLimit owner)
    return ()

/-- A name that is not local is a field of the table of global names. -/
def readName : Nat → Context → String → Run Value
  | 0, _, _ => throw .exhausted
  | fuel + 1, context, name => do
    match context.scope.lookup name with
    | some cell => return (← get).cells.getD cell .nil
    | none => readIndex fuel context.depth (.table globalsAddress) (ofText name)

def writePlace : Nat → Context → Value → Place → Run Unit
  | 0, _, _, _ => throw .exhausted
  | fuel + 1, context, value, place => do
    match place with
    | .field owner key => writeIndex fuel context.depth owner key value
    | .name name =>
      match context.scope.lookup name with
      | some cell => writeCell cell value
      | none =>
        writeIndex fuel context.depth (.table globalsAddress) (ofText name) value

/-- Assigns the last value first. -/
def assignAll : Nat → Context → List Place → List Value → Run Unit
  | 0, _, _, _ => throw .exhausted
  | fuel + 1, context, places, values =>
    match places with
    | [] => return ()
    | place :: places => do
      assignAll fuel context places (values.drop 1)
      writePlace fuel context (values.head?.getD .nil) place

def describe : Nat → Nat → Value → Run Value
  | 0, _, _ => throw .exhausted
  | fuel + 1, depth, value => do
    match ← handlerOf "__tostring" value with
    | .nil => return .string (value.print (← handlerOf "__name" value))
    | handler =>
      match (argument (← call fuel depth handler [value]) 0).toBytes? with
      | some bytes => return .string bytes
      | none => fail "'__tostring' must return a string"

def describeAll : Nat → Nat → List Value → Run Unit
  | 0, _, _ => throw .exhausted
  | fuel + 1, depth, values =>
    match values with
    | [] => return ()
    | value :: rest => do
      let _ ← describe fuel depth value
      describeAll fuel depth rest

/-- A function with its arguments. What is printed goes nowhere. -/
def callBuiltin : Nat → Nat → Builtin → List Value → Run (List Value)
  | 0, _, _, _ => throw .exhausted
  | fuel + 1, depth, function, arguments => do
    match function with
    | .pcall =>
      match arguments with
      | [] => fail "bad argument #1 (value expected)"
      | inner :: rest =>
        tryCatch (do return .bool true :: (← call fuel (depth + 1) inner rest)) fun
          | .thrown value => return [.bool false, value]
          | .exhausted => throw .exhausted
    | .toString => return [← describe fuel depth (← someArgument arguments)]
    | .print =>
      describeAll fuel depth arguments
      return []
    | .pairs =>
      let owner ← someArgument arguments
      match ← handlerOf "__pairs" owner with
      | .nil => return [.builtin .next, owner, .nil]
      | handler =>
        let values ← call fuel depth handler [owner]
        return [argument values 0, argument values 1, argument values 2]
    | .nextIndex =>
      let n := (← intArgument arguments 1) + 1
      match ← readIndex fuel depth (argument arguments 0) (ofInt n) with
      | .nil => return [.nil]
      | value => return [ofInt n, value]
    | known => applyBuiltin known arguments

def call : Nat → Nat → Value → List Value → Run (List Value)
  | 0, _, _, _ => throw .exhausted
  | fuel + 1, depth, function, arguments =>
    if callLimit ≤ depth then fail "stack overflow"
    else
      match function with
      | .builtin known => callBuiltin fuel depth known arguments
      | .function address => do
        match (← get).closures[address]? with
        | none => fail "attempt to call a lost function"
        | some closure => do
          let scope ← declare closure.scope closure.parameters arguments
          let extra :=
            if closure.isVariadic then arguments.drop closure.parameters.length else []
          let (flow, _) ← execute fuel { scope, extra, depth := depth + 1 } closure.body
          return flow.values
      | other => do
        match ← handlerOf "__call" other with
        | .nil => fail ("attempt to call a " ++ other.typeName ++ " value")
        | handler => call fuel depth handler (other :: arguments)

/-- Runs statements. At the end their names are in the scope too. -/
def execute : Nat → Context → List Statement → Run (Flow × Scope)
  | 0, _, _ => throw .exhausted
  | fuel + 1, context, statements =>
    match statements with
    | [] => return (.next, context.scope)
    | .declare names values :: rest => do
      let values ← evaluateAll fuel context values
      let scope ← declare context.scope names values
      execute fuel { context with scope } rest
    | .declareFunction name function :: rest => do
      let scope ← declare context.scope [name] []
      let value ← evaluate fuel { context with scope } function
      writePlace fuel { context with scope } value (.name name)
      execute fuel { context with scope } rest
    | statement :: rest => do
      match ← perform fuel context statement with
      | .next => execute fuel context rest
      | flow => return (flow, context.scope)

def perform : Nat → Context → Statement → Run Flow
  | 0, _, _ => throw .exhausted
  | fuel + 1, context, statement =>
    match statement with
    | .declare _ _ | .declareFunction _ _ => return .next
    | .assign targets values => do
      let places ← evaluatePlaces fuel context targets
      let values ← evaluateAll fuel context values
      assignAll fuel context places values
      return .next
    | .call expression => do
      let _ ← evaluateMany fuel context expression
      return .next
    | .block body => do return (← execute fuel context body).1
    | .branch condition yes no => do
      if (← evaluate fuel context condition).isTrue then return (← execute fuel context yes).1
      else return (← execute fuel context no).1
    | .while condition body => performWhile fuel context condition body
    | .repeat body condition => performRepeat fuel context body condition
    | .count name first last step body => do
      let first ← evaluate fuel context first
      let last ← evaluate fuel context last
      let step ← evaluate fuel context step
      performCount fuel context name (← countOf first last step) body
    | .each names sources body => do
      let sources ← evaluateAll fuel context sources
      performEach fuel context names (argument sources 0) (argument sources 1)
        (argument sources 2) body
    | .return values => do return .return (← evaluateAll fuel context values)
    | .break => return .break

def evaluatePlaces : Nat → Context → List Expression → Run (List Place)
  | 0, _, _ => throw .exhausted
  | fuel + 1, context, targets =>
    match targets with
    | [] => return []
    | .index owner key :: rest => do
      let owner ← evaluate fuel context owner
      let key ← evaluate fuel context key
      return .field owner key :: (← evaluatePlaces fuel context rest)
    | .name name :: rest => do return .name name :: (← evaluatePlaces fuel context rest)
    | _ :: _ => fail "cannot assign"

def performWhile : Nat → Context → Expression → List Statement → Run Flow
  | 0, _, _, _ => throw .exhausted
  | fuel + 1, context, condition, body => do
    if (← evaluate fuel context condition).isTrue then
      match (← execute fuel context body).1 with
      | .next => performWhile fuel context condition body
      | .break => return .next
      | flow => return flow
    else return .next

/-- The condition knows the names of the body. -/
def performRepeat : Nat → Context → List Statement → Expression → Run Flow
  | 0, _, _, _ => throw .exhausted
  | fuel + 1, context, body, condition => do
    let (flow, scope) ← execute fuel context body
    match flow with
    | .next =>
      if (← evaluate fuel { context with scope } condition).isTrue then return .next
      else performRepeat fuel context body condition
    | .break => return .next
    | flow => return flow

def performCount : Nat → Context → String → Count → List Statement → Run Flow
  | 0, _, _, _, _ => throw .exhausted
  | fuel + 1, context, name, count, body => do
    match count.turn? with
    | none => return .next
    | some (value, count) => do
      let scope ← declare context.scope [name] [value]
      match (← execute fuel { context with scope } body).1 with
      | .next => performCount fuel context name count body
      | .break => return .next
      | flow => return flow

def performEach : Nat → Context → List String → Value → Value → Value → List Statement → Run Flow
  | 0, _, _, _, _, _, _ => throw .exhausted
  | fuel + 1, context, names, step, source, control, body => do
    let values ← call fuel context.depth step [source, control]
    match argument values 0 with
    | .nil => return .next
    | control => do
      let scope ← declare context.scope names values
      match (← execute fuel { context with scope } body).1 with
      | .next => performEach fuel context names step source control body
      | .break => return .next
      | flow => return flow

end

end Parley.Lua
