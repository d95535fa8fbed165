import Parley.Script.Evaluator
/-!
The host of an interpreter.

A script gets at registers through two functions of the host, `getRegValue` and `setRegValue`, as
often as it likes. They find the registers in banks, which are opened when an evaluation begins and
gone when its script is over. What the memory keeps is the bank of the memory, with the global names
that the script has answered in.

The interpreter is a parameter. All that the host asks of it is to set and to read global names and
to run scripts, and whatever it does meanwhile is a dialogue with the host. Which language it
understands, and how, is left to it.
-/

namespace Parley.Script

def memoryBank : String := "1"

structure Banks where
  memory : Registers
  scratch : TextMap Registers

namespace Banks

def opened (registers : Registers) : Banks := ⟨registers, .empty⟩

def get? (banks : Banks) (bank key : String) : Option String :=
  if bank = memoryBank then banks.memory.get? key
  else (banks.scratch.get? bank).bind (·.get? key)

def set (banks : Banks) (bank key value : String) : Banks :=
  if bank = memoryBank then { banks with memory := banks.memory.insert key value }
  else
    let others := (banks.scratch.get? bank).getD .empty
    { banks with scratch := banks.scratch.insert bank (others.insert key value) }

end Banks

/-- The function `getRegValue`. An error is thrown into the script that has called it. -/
def getRegister : Option Banks → String → String → Except String String
  | none, _, _ => .error "registers are not bound"
  | some banks, bank, key =>
    match banks.get? bank key with
    | some value => .ok value
    | none => .error ("register '" ++ key ++ "' not set in bank " ++ bank)

/-- The function `setRegValue`, with the banks after it. -/
def setRegister : Option Banks → String → String → String → Except String Unit × Option Banks
  | none, _, _, _ => (.error "registers are not bound", none)
  | some banks, bank, key, value => (.ok (), some (banks.set bank key value))

/-- A computation that calls the functions of the host, and goes on with what they give or throw. -/
inductive Dialogue (α : Type) where
  | done (result : α)
  | get (bank key : String) (next : Except String String → Dialogue α)
  | set (bank key value : String) (next : Except String Unit → Dialogue α)

namespace Dialogue

variable {α β : Type}

def bind : Dialogue α → (α → Dialogue β) → Dialogue β
  | done result, rest => rest result
  | get bank key next, rest => get bank key fun answer => (next answer).bind rest
  | set bank key value next, rest => set bank key value fun answer => (next answer).bind rest

instance : Monad Dialogue where
  pure := done
  bind := bind

/-- What comes of a dialogue with a host that has these banks, and the banks after it. -/
def play : Dialogue α → Option Banks → α × Option Banks
  | done result, banks => (result, banks)
  | get bank key next, banks => (next (getRegister banks bank key)).play banks
  | set bank key value next, banks =>
    let (answer, banks) := setRegister banks bank key value
    (next answer).play banks

end Dialogue

/-- What the host makes of the value of a global name. -/
inductive Global where
  | nil
  | string (bytes : List UInt8)
  | number (text : String)
  /-- Neither nil nor a string nor a number. -/
  | other

namespace Global

def ofText? : Option String → Global
  | none => nil
  | some text => string text.toUTF8.toList

/-- The value as a text that may be missing. Nothing else will do. -/
def toText? : Global → Option (Option String)
  | nil => some none
  | string bytes => (String.fromUTF8? ⟨bytes.toArray⟩).map some
  | number text => some (some text)
  | other => none

end Global

/-- What an interpreter does in one go. Without a result it has come to an error. -/
abbrev Session (σ : Type) := OptionT (StateT σ Dialogue)

/-- An interpreter for scripts. All that it keeps from one script to the next is in its state, and
so is what its language leaves open. Setting or reading a global name may run any part of any earlier
script, as metatables and finalizers do. -/
class Interpreter (σ : Type) where
  setGlobal : String → Option String → Session σ Unit
  getGlobal : String → Session σ Global
  execute : String → Session σ Unit

open Interpreter (setGlobal getGlobal)

variable {σ : Type} [Interpreter σ]

def prepareGlobals (input : String) : Session σ Unit := do
  setGlobal Register.input (some input)
  setGlobal Register.output none
  setGlobal Register.target none
  setGlobal Register.error none

/-- An evaluation as long as its banks are there. -/
def untilEnd (script input : String) : Session σ Unit := do
  prepareGlobals input
  Interpreter.execute script

def collectGlobals : List String → Registers → Session σ Registers
  | [], registers => return registers
  | name :: rest, registers => do
    match (← getGlobal name).toText? with
    | some (some text) => collectGlobals rest (registers.insert name text)
    | some none => collectGlobals rest registers
    | none => failure

/-- The registers as the script leaves them, if it comes to its end and answers in texts. -/
def evaluate (interpreter : σ) (script : String) (registers : Registers) :
    Except Failure Registers × σ :=
  let input := registers.read Register.input
  match (untilEnd script input interpreter).play (some (.opened registers)) with
  | ((_, interpreter), none) => (.error .registersLost, interpreter)
  | ((none, interpreter), some _) => (.error .broken, interpreter)
  | ((some (), interpreter), some banks) =>
    let names := [Register.output, Register.target, Register.error]
    match (collectGlobals names banks.memory interpreter).play none with
    | ((some registers, interpreter), _) => (.ok registers, interpreter)
    | ((none, interpreter), _) => (.error .broken, interpreter)

instance : Evaluator σ where
  run := evaluate

end Parley.Script
