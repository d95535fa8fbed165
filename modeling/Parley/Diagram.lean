import Parley.Base64
import Parley.Compression.Deflate
import Parley.Compression.Inflate
import Parley.Definition.Basic
/-!
A machine as a PlantUML state diagram, and the address at which a service draws it.
-/

namespace Parley.Diagram

def label (trigger : Event) : String :=
  match trigger.rule with
  | .inputEqual => trigger.protocol.name ++ " = " ++ trigger.data
  | .inputSave => trigger.protocol.name ++ " -> " ++ trigger.data
  | .input => trigger.protocol.name
  | rule => trigger.protocol.name ++ " " ++ rule.name

def arrow (source target : String) : String := source ++ " --> " ++ target

def outside : String := "[*]"

def stateLines (state : State) : List String :=
  state.transitions.map (fun transition =>
      arrow state.name transition.target ++ " : " ++ label transition.trigger) ++
    if state.terminal then [arrow state.name outside] else []

def titleLines (name : String) : List String := if name.isEmpty then [] else ["title " ++ name]

/-- One entry for each line. A name with a line break in it makes more of one. -/
def lines (definition : Definition) : List String :=
  "@startuml" :: titleLines definition.name ++
    arrow outside definition.initial.target :: definition.states.flatMap stateLines ++
    ["@enduml"]

def ofDefinition (definition : Definition) : String :=
  (lines definition).foldr (fun line rest => line ++ "\n" ++ rest) ""

def alphabet : Base64.Alphabet where
  digits := "0123456789ABCDEFGHIJKLMNOPQRSTUVWXYZabcdefghijklmnopqrstuvwxyz-_".toList
  complete := by decide
  distinct := by decide

def service : String := "https://www.plantuml.com/plantuml/svg/~1"

/-- A diagram as the last part of an address, for any way to compress. -/
def encodedWith (compress : List UInt8 → List UInt8) (diagram : String) : String :=
  String.ofList (Base64.encode alphabet (compress diagram.toUTF8.toList))

def urlWith (compress : List UInt8 → List UInt8) (definition : Definition) : String :=
  service ++ encodedWith compress (ofDefinition definition)

def encoded (diagram : String) : String := encodedWith Compression.deflate diagram

def url (definition : Definition) : String := urlWith Compression.deflate definition

def decoded? (text : String) : Option String := do
  let bytes ← Base64.decode? alphabet text.toList
  let content ← Compression.inflate? bytes
  String.fromUTF8? (ByteArray.mk content.toArray)

end Parley.Diagram
