import Parley.Lua.Interpreter
import Parley.Lua.Parser
/-!
Lua programs as scripts.

Global names live on to later scripts. The host sets and reads them as programs do, so that a
metatable of the table of global names has its say.
-/

namespace Parley.Lua

/-- Gives up on programs that run too long. -/
def fuelLimit : Nat := 10000000

def readGlobal (name : String) : Run Value :=
  readIndex fuelLimit 0 (.table globalsAddress) (ofText name)

def writeGlobal (name : String) (value : Value) : Run Unit :=
  writeIndex fuelLimit 0 (.table globalsAddress) (ofText name) value

def runProgram (program : List Statement) : Run Unit := do
  let _ ← execute fuelLimit { scope := [], extra := [], depth := 0 } program
  return ()

def runScript (script : String) : Run Unit :=
  match parse? script with
  | some program => runProgram program
  | none => fail "the script cannot be read"

namespace Value

def ofText? : Option String → Value
  | none => nil
  | some text => ofText text

def toGlobal : Value → Script.Global
  | nil => .nil
  | string bytes => .string bytes
  | number value => .number value.print
  | _ => .other

end Value

/-- A run as the host sees it: without a result if it does not come to its end. -/
def toSession {α : Type} (run : Run α) : Script.Session State α := fun state => do
  match ← run state with
  | (.ok value, state) => return (some value, state)
  | (.error _, state) => return (none, state)

instance : Script.Interpreter State where
  setGlobal name value := toSession (writeGlobal name (.ofText? value))
  getGlobal name := toSession do return (← readGlobal name).toGlobal
  execute script := toSession (runScript script)

end Parley.Lua
