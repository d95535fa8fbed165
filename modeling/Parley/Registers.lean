import Parley.TextMap
/-!
The memory of a machine: registers by name, each with a text.
-/

namespace Parley

abbrev Registers := TextMap String

namespace TextMap

/-- A register that is not set reads as the empty text. -/
def read (memory : TextMap String) (name : String) : String := (memory.get? name).getD ""

end TextMap

namespace Register

def input : String := "INPUT"

def output : String := "OUTPUT"

def target : String := "TARGET"

def error : String := "ERROR"

def pin : String := "PIN"

end Register
end Parley
