import Parley.Command
/-!
The command line.
-/

namespace Parley.Main

def usage : String :=
  "usage: parley check <file>\n       parley diagram <file> [--url]\n"

def content (path : String) : IO (Option String) := do
  try
    return some (← IO.FS.readFile path)
  catch _ => return none

def isColored : IO Bool := do return (← IO.getEnv "NO_COLOR").isNone

def perform (command : Command) (path : String) : IO UInt32 := do
  let colored ← isColored
  let report := command.run colored path (← content path)
  match report.fault with
  | none =>
    IO.print report.printed
    return 0
  | some fault =>
    IO.eprint report.printed
    IO.eprintln (Console.paint colored .boldRed "Error" ++ ": " ++ fault.message)
    return 1

end Parley.Main

def main (arguments : List String) : IO UInt32 :=
  match arguments with
  | ["check", path] => Parley.Main.perform .check path
  | ["diagram", path] => Parley.Main.perform .diagram path
  | ["diagram", path, "--url"] | ["diagram", "--url", path] => Parley.Main.perform .address path
  | _ => do
    IO.eprint Parley.Main.usage
    return 2
