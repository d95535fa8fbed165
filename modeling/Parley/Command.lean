import Parley.Console.Paint
import Parley.Definition.Load
import Parley.Diagram
/-!
Commands on the file of a machine.
-/

namespace Parley

inductive Command where
  /-- Loads the machine and says what it is. -/
  | check
  /-- Draws the machine. -/
  | diagram
  /-- Gives the address of a drawing of the machine. -/
  | address
  deriving DecidableEq

namespace Command

structure Report where
  printed : String
  fault : Option Fault
  deriving DecidableEq

def kindTitle : MachineKind → String
  | .conversation => "Conversation"
  | .backend => "Backend"

def summary (definition : Definition) : String :=
  "  name:       " ++ definition.name ++ "\n" ++
  "  kind:       " ++ kindTitle definition.kind ++ "\n" ++
  "  initial:    " ++ definition.initial.target ++ "\n" ++
  "  states:     " ++ Nat.repr definition.states.length ++ "\n" ++
  "  scripts:    " ++ (if definition.needsEvaluator then "true" else "false") ++ "\n" ++
  "  checksum:   " ++ definition.checksum ++ "\n"

def report (command : Command) (isColored : Bool) (path : String) :
    Except Fault Definition → Report
  | .ok definition =>
    match command with
    | check =>
      ⟨Console.paint isColored .boldGreen "OK" ++ " " ++ path ++ "\n" ++ summary definition, none⟩
    | diagram => ⟨Diagram.ofDefinition definition, none⟩
    | address => ⟨Diagram.url definition ++ "\n", none⟩
  | .error fault =>
    match command with
    | check => ⟨Console.paint isColored .red fault.code ++ " " ++ path ++ "\n", some fault⟩
    | diagram | address => ⟨"", some fault⟩

def fileName (path : String) : String :=
  String.ofList (path.toList.reverse.takeWhile (· ≠ '/')).reverse

def run (command : Command) (isColored : Bool) (path : String) (content : Option String) : Report :=
  command.report isColored path (Definition.loadFile (fileName path) content)

end Command
end Parley
