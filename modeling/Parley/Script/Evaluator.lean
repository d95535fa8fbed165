import Parley.Registers
/-!
Running a script against the memory of a machine.

Host and script talk through registers only. What the script is to work on stands in `INPUT`, what
it has to say stands in `OUTPUT`, `TARGET` and `ERROR` afterwards and is taken out again. A run that
fails leaves the memory alone.
-/

namespace Parley

namespace Script

inductive Failure where
  /-- The script does not run to its end. -/
  | broken
  | missingOutput (message : Option String)
  /-- The evaluator has no registers to give back. -/
  | registersLost
  deriving DecidableEq

namespace Failure

def code : Failure → String
  | broken => "LUA"
  | missingOutput _ => "MISSING_OUTPUT"
  | registersLost => "REGISTERS_LOST"

def message : Failure → String
  | broken => "lua error"
  | missingOutput message => "script did not set OUTPUT: " ++ message.getD "no diagnostic"
  | registersLost => "register bank lost during evaluation"

end Failure
end Script

/-- A way to run scripts. Its state lives from one run to the next. -/
class Evaluator (σ : Type) where
  /-- The registers as the script leaves them. -/
  run : σ → String → Registers → Except Script.Failure Registers × σ

namespace Script

inductive Sentinel where
  | value (expected : String)
  | any
  deriving DecidableEq

def Sentinel.accepts : Sentinel → String → Bool
  | value expected, output => expected = output
  | any, _ => true

def Sentinel.usual : Sentinel := value "OK"

structure Outcome where
  output : String
  /-- The state that the script asks for. -/
  target : Option String
  ok : Bool
  deriving DecidableEq

def withoutAnswers (memory : Registers) : Registers :=
  ((memory.erase Register.output).erase Register.target).erase Register.error

def prepared (memory : Registers) (input : String) : Registers :=
  withoutAnswers (memory.insert Register.input input)

def outcome (sentinel : Sentinel) (registers : Registers) : Except Failure Outcome :=
  match registers.get? Register.output with
  | some output =>
    .ok
      { output
        target := registers.get? Register.target
        ok := sentinel.accepts output }
  | none => .error (.missingOutput (registers.get? Register.error))

def run {σ : Type} [Evaluator σ] (scripts : σ) (memory : Registers) (script input : String)
    (sentinel : Sentinel) : Except Failure Outcome × Registers × σ :=
  match Evaluator.run scripts script (prepared memory input) with
  | (.ok registers, scripts) => (outcome sentinel registers, withoutAnswers registers, scripts)
  | (.error failure, scripts) => (.error failure, memory, scripts)

end Script
end Parley
