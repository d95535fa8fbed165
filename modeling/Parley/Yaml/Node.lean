import Parley.Yaml.Token
/-!
The node a YAML text describes.

An alias stands for the node that its anchor named last. An alias inside the very node it names has
no finite reading; it becomes `endless`.
-/

namespace Parley.Yaml

inductive Node where
  | scalar (text : String) (plain : Bool)
  | sequence (items : List Node)
  | mapping (entries : List (Node × Node))
  | endless

def Node.blank : Node := .scalar "" true

/-- What an anchor names; nothing yet while its node is being read. -/
abbrev Anchors := List (String × Option Node)

structure Source where
  tokens : List Token
  anchors : Anchors

namespace Source

def peek (source : Source) : Token := source.tokens.headD .streamEnd

def skip (source : Source) : Source := { source with tokens := source.tokens.tail }

def name (source : Source) (anchor : Option String) (node : Option Node) : Source :=
  match anchor with
  | some anchor => { source with anchors := (anchor, node) :: source.anchors }
  | none => source

end Source

def properties (source : Source) : Option String × Bool × Source :=
  match source.peek with
  | .anchor name =>
    match source.skip.peek with
    | .tag => (some name, true, source.skip.skip)
    | _ => (some name, true, source.skip)
  | .tag =>
    match source.skip.peek with
    | .anchor name => (some name, true, source.skip.skip)
    | _ => (none, true, source.skip)
  | _ => (none, false, source)

mutual

/-- A node. `block` admits collections in block style, `indentless` a sequence at the column of the
mapping around it. -/
def readNode (block indentless : Bool) : Nat → Source → Option (Node × Source)
  | 0, _ => none
  | fuel + 1, source =>
    match source.peek with
    | .alias name =>
      match source.anchors.lookup name with
      | some (some node) => some (node, source.skip)
      | some none => some (.endless, source.skip)
      | none => none
    | _ =>
      let (anchor, marked, source) := properties source
      let source := source.name anchor none
      let read : Option (Node × Source) :=
        match source.peek with
        | .blockEntry =>
          if indentless then
            (readIndentless fuel source).map fun (items, left) => (.sequence items, left)
          else if marked then some (.blank, source)
          else none
        | .scalar text plain => some (.scalar text plain, source.skip)
        | .flowSequenceStart =>
          (readFlowItems true fuel source.skip).map fun (items, left) => (.sequence items, left)
        | .flowMappingStart =>
          (readFlowEntries true fuel source.skip).map fun (entries, left) =>
            (.mapping entries, left)
        | .blockSequenceStart =>
          if block then
            (readBlockItems fuel source.skip).map fun (items, left) => (.sequence items, left)
          else if marked then some (.blank, source)
          else none
        | .blockMappingStart =>
          if block then
            (readBlockEntries fuel source.skip).map fun (entries, left) => (.mapping entries, left)
          else if marked then some (.blank, source)
          else none
        | _ => if marked then some (.blank, source) else none
      read.map fun (node, left) => (node, left.name anchor (some node))

def readBlockItems : Nat → Source → Option (List Node × Source)
  | 0, _ => none
  | fuel + 1, source =>
    match source.peek with
    | .blockEntry =>
      let source := source.skip
      let item := match source.peek with
        | .blockEntry | .blockEnd => some (.blank, source)
        | _ => readNode true false fuel source
      match item with
      | none => none
      | some (item, source) =>
        (readBlockItems fuel source).map fun (items, left) => (item :: items, left)
    | .blockEnd => some ([], source.skip)
    | _ => none

def readIndentless : Nat → Source → Option (List Node × Source)
  | 0, _ => none
  | fuel + 1, source =>
    match source.peek with
    | .blockEntry =>
      let source := source.skip
      let item := match source.peek with
        | .blockEntry | .key | .value | .blockEnd => some (.blank, source)
        | _ => readNode true false fuel source
      match item with
      | none => none
      | some (item, source) =>
        (readIndentless fuel source).map fun (items, left) => (item :: items, left)
    | _ => some ([], source)

def readBlockPart : Nat → Source → Option (Node × Source)
  | 0, _ => none
  | fuel + 1, source =>
    match source.peek with
    | .key | .value | .blockEnd => some (.blank, source)
    | _ => readNode true true fuel source

def readBlockEntries : Nat → Source → Option (List (Node × Node) × Source)
  | 0, _ => none
  | fuel + 1, source =>
    match source.peek with
    | .blockEnd => some ([], source.skip)
    | .key =>
      match readBlockPart fuel source.skip with
      | none => none
      | some (key, source) =>
        let value := match source.peek with
          | .value => readBlockPart fuel source.skip
          | _ => some (.blank, source)
        match value with
        | none => none
        | some (value, source) =>
          (readBlockEntries fuel source).map fun (entries, left) => ((key, value) :: entries, left)
    | _ => none

def readFlowValue : Nat → Source → Option (Node × Source)
  | 0, _ => none
  | fuel + 1, source =>
    match source.peek with
    | .value =>
      let source := source.skip
      match source.peek with
      | .flowEntry | .flowMappingEnd | .flowSequenceEnd => some (.blank, source)
      | _ => readNode false false fuel source
    | _ => some (.blank, source)

def readFlowPair : Nat → Source → Option (Node × Source)
  | 0, _ => none
  | fuel + 1, source =>
    let key := match source.peek with
      | .value | .flowEntry | .flowSequenceEnd => some (.blank, source)
      | _ => readNode false false fuel source
    match key with
    | none => none
    | some (key, source) =>
      (readFlowValue fuel source).map fun (value, left) => (.mapping [(key, value)], left)

def readFlowItems (first : Bool) : Nat → Source → Option (List Node × Source)
  | 0, _ => none
  | fuel + 1, source =>
    let more (source : Source) : Option (List Node × Source) :=
      let item := match source.peek with
        | .flowSequenceEnd => none
        | .key => readFlowPair fuel source.skip
        | _ => readNode false false fuel source
      match source.peek, item with
      | .flowSequenceEnd, _ => some ([], source.skip)
      | _, none => none
      | _, some (item, source) =>
        (readFlowItems false fuel source).map fun (items, left) => (item :: items, left)
    match source.peek with
    | .flowSequenceEnd => some ([], source.skip)
    | .flowEntry => if first then none else more source.skip
    | _ => if first then more source else none

def readFlowEntries (first : Bool) : Nat → Source → Option (List (Node × Node) × Source)
  | 0, _ => none
  | fuel + 1, source =>
    let more (source : Source) : Option (List (Node × Node) × Source) :=
      match source.peek with
      | .flowMappingEnd => some ([], source.skip)
      | .key =>
        let source := source.skip
        let key := match source.peek with
          | .value | .flowEntry | .flowMappingEnd => some (.blank, source)
          | _ => readNode false false fuel source
        match key with
        | none => none
        | some (key, source) =>
          match readFlowValue fuel source with
          | none => none
          | some (value, source) =>
            (readFlowEntries false fuel source).map fun (entries, left) =>
              ((key, value) :: entries, left)
      | _ =>
        match readNode false false fuel source with
        | none => none
        | some (key, source) =>
          (readFlowEntries false fuel source).map fun (entries, left) =>
            ((key, .blank) :: entries, left)
    match source.peek with
    | .flowMappingEnd => some ([], source.skip)
    | .flowEntry => if first then none else more source.skip
    | _ => if first then more source else none

end

/-- A reading step takes a token at least every third call. -/
def fuelFor (tokens : List Token) : Nat := 3 * tokens.length + 8

def isDirective : Token → Bool
  | .directive => true
  | _ => false

/-- The only document of a text: nothing for a text without one, a failure for two. -/
def read? (text : String) : Option (Option Node) := do
  let tokens ← tokens? text
  let (directives, content) := (tokens.takeWhile isDirective, tokens.dropWhile isDirective)
  let body ← match content with
    | .documentStart :: rest => some rest
    | [.streamEnd] => if directives.isEmpty then return none else none
    | other => if directives.isEmpty then some other else none
  let (node, left) ← match body with
    | .directive :: _ | .documentStart :: _ | .documentEnd :: _ | .streamEnd :: _ =>
      some (Node.blank, body)
    | _ =>
      (readNode true false (fuelFor body) ⟨body, []⟩).map fun (node, left) => (node, left.tokens)
  match left.dropWhile (· = .documentEnd) with
  | [.streamEnd] => some (some node)
  | _ => none

end Parley.Yaml
