/-!
The positional format: one slot for the input.

The first `%s` or `%v` is the slot, `%%` stands for one `%` everywhere, and any other `%` for
itself. What is filled in is not read again.
-/

namespace Parley.Template

/-- Fills the input into the text, in which the slot may still be to come. -/
def fillFrom (input : List Char) : Bool → List Char → List Char
  | slotAhead, '%' :: '%' :: rest => '%' :: fillFrom input slotAhead rest
  | slotAhead, '%' :: c :: rest =>
    if slotAhead && (c = 's' || c = 'v') then input ++ fillFrom input false rest
    else '%' :: fillFrom input slotAhead (c :: rest)
  | slotAhead, c :: rest => c :: fillFrom input slotAhead rest
  | _, [] => []

def fill (format input : String) : String :=
  String.ofList (fillFrom input.toList true format.toList)

end Parley.Template
