import Parley.Definition.Check
import Parley.Definition.Decode
import Parley.Document.OfJson
import Parley.Document.OfYaml
import Parley.Json.Parser
/-!
Loading a machine from a text or a file.
-/

namespace Parley

inductive Format where
  | yaml
  | json
  /-- JSON read as a value first: names of states are sorted, and of states with one name only the
  last is left. -/
  | value
  deriving DecidableEq

namespace Draft

/-- A text without a document reads like an empty mapping. -/
def document? (format : Format) (text : String) : Option Document :=
  match format with
  | .yaml => (Yaml.read? text).map fun node => Document.ofYaml (node.getD .blank)
  | .json => (Json.parse text).map Document.ofJson
  | .value => (Json.parseStrict text).map fun value => Document.ofJson value.collapsed

def read? (format : Format) (text : String) : Option Draft :=
  (document? format text).bind ofDocument?

/-- The name of a file up to its last dot, and what comes after that dot. A dot at the front
belongs to the name. -/
def splitFileName (file : String) : String × Option String :=
  let backward := file.toList.reverse
  let (extension, front) := (backward.takeWhile (· ≠ '.'), backward.dropWhile (· ≠ '.'))
  match front with
  | [] | [_] => (file, none)
  | _ :: stem =>
    if file = ".." then (file, none)
    else (String.ofList stem.reverse, some (String.ofList extension.reverse))

def formatOfFile (file : String) : Format :=
  match (splitFileName file).2 with
  | some extension => if extension.toLower = "json" then .json else .yaml
  | none => .yaml

/-- A machine in a file is named after it unless it has a name. -/
def readFile? (file text : String) : Option Draft :=
  (read? (formatOfFile file) text).map fun draft =>
    if draft.name.isEmpty then { draft with name := (splitFileName file).1 } else draft

end Draft

namespace Definition

def load (format : Format) (text : String) : Except Fault Definition :=
  match Draft.read? format text with
  | some draft => draft.check
  | none => .error .unreadable

def loadFile (file : String) : Option String → Except Fault Definition
  | none => .error .missingFile
  | some text =>
    match Draft.readFile? file text with
    | some draft => draft.check
    | none => .error .unreadable

end Definition
end Parley
