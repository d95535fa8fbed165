import Parley.Document.OfYaml
import Parley.Json.Printer
import Parley.Text.LetterCase
/-!
Settings of a run: usual values, a file that may change them, and an environment that may change
them once more.

A value of the environment that cannot be read is passed over, and so is one that is empty, except
for the leave to run scripts, which anything but a yes withdraws.
-/

namespace Parley

structure Config where
  /-- How many items each channel of a conversation holds. -/
  conversationBuffer : Nat
  /-- How many items the stream holds that all conversations are fed from. -/
  inboundBuffer : Nat
  /-- The machine to run where no other one is named. -/
  machine : Option String
  /-- Machines may run scripts. -/
  scripts : Bool
  /-- The connection of a conversation on the console. -/
  connection : String
  history : Option String
  deriving DecidableEq

namespace Config

inductive Problem where
  | noConversationBuffer
  | noInboundBuffer
  | noConnection
  deriving DecidableEq

def Problem.message : Problem → String
  | noConversationBuffer => "multiplexer.conversation_buffer must be at least 1"
  | noInboundBuffer => "multiplexer.inbound_buffer must be at least 1"
  | noConnection => "console.conn_id must not be empty"

inductive Failure where
  | missing (file reason : String)
  | malformed (file : String)
  | invalid (problem : Problem)
  deriving DecidableEq

def Failure.message : Failure → String
  | missing file reason => "failed to read config file '" ++ file ++ "': " ++ reason
  | malformed file => "failed to parse config file '" ++ file ++ "': not a configuration"
  | invalid problem => "configuration validation failed: " ++ problem.message

def usual : Config where
  conversationBuffer := 16
  inboundBuffer := 64
  machine := none
  scripts := true
  connection := "console"
  history := none

def toJson (config : Config) : Json :=
  let path (file : Option String) : Json := match file with
    | some file => .string file
    | none => .null
  .object
    [("multiplexer", .object
        [("conversation_buffer", .ofNat config.conversationBuffer),
          ("inbound_buffer", .ofNat config.inboundBuffer)]),
      ("machine", .object [("path", path config.machine), ("scripts", .bool config.scripts)]),
      ("console", .object
        [("conn_id", .string config.connection), ("history_file", path config.history)])]

/-- A section that is left out leaves everything as it is. -/
def withSection (names : List String)
    (read : List (Option Document) → Config → Option Config) (config : Config) :
    Option Document → Option Config
  | none => some config
  | some document => (document.fields? names).bind fun fields => read fields config

def readMultiplexer? (fields : List (Option Document)) (config : Config) : Option Config :=
  match fields with
  | [conversation, inbound] => do
    let conversationBuffer ←
      Document.defaulted Document.count? config.conversationBuffer conversation
    let inboundBuffer ← Document.defaulted Document.count? config.inboundBuffer inbound
    some { config with conversationBuffer, inboundBuffer }
  | _ => none

def readMachine? (fields : List (Option Document)) (config : Config) : Option Config :=
  match fields with
  | [path, scripts] => do
    let machine ← Document.optional Document.text? path
    let scripts ← Document.defaulted Document.truth? config.scripts scripts
    some { config with machine, scripts }
  | _ => none

def readConsole? (fields : List (Option Document)) (config : Config) : Option Config :=
  match fields with
  | [connection, file] => do
    let connection ← Document.defaulted Document.text? config.connection connection
    let history ← Document.optional Document.text? file
    some { config with connection, history }
  | _ => none

def ofDocument? (document : Document) : Option Config := do
  match ← document.fields? ["multiplexer", "machine", "console"] with
  | [multiplexer, machine, console] => do
    let config ←
      withSection ["conversation_buffer", "inbound_buffer"] readMultiplexer? usual multiplexer
    let config ← withSection ["path", "scripts"] readMachine? config machine
    withSection ["conn_id", "history_file"] readConsole? config console
  | _ => none

/-- A text without a document has nothing to say. -/
def parse? (text : String) : Option Config :=
  (Yaml.read? text).bind fun node => ofDocument? (Document.ofYaml (node.getD .blank))

def count? (text : String) : Option Nat :=
  match text.toList with
  | '+' :: digits => Document.numberIn? 10 digits
  | digits => Document.numberIn? 10 digits

def given? (environment : TextMap String) (name : String) : Option String :=
  (environment.get? name).filter (· ≠ "")

def override (environment : TextMap String) (config : Config) : Config where
  conversationBuffer :=
    ((environment.get? "DIDBOT_CONVERSATION_BUFFER").bind count?).getD config.conversationBuffer
  inboundBuffer :=
    ((environment.get? "DIDBOT_INBOUND_BUFFER").bind count?).getD config.inboundBuffer
  machine := (given? environment "DIDBOT_MACHINE").or config.machine
  scripts :=
    match environment.get? "DIDBOT_SCRIPTS" with
    | some text => text = "1" || Text.lower text = "true"
    | none => config.scripts
  connection := (given? environment "DIDBOT_CONN_ID").getD config.connection
  history := config.history

def problem? (config : Config) : Option Problem :=
  if config.conversationBuffer = 0 then some .noConversationBuffer
  else if config.inboundBuffer = 0 then some .noInboundBuffer
  else if config.connection = "" then some .noConnection
  else none

/-- The settings before the environment has changed them. -/
def written (environment : TextMap String) (contents : String → Except String String) :
    Except Failure Config :=
  match environment.get? "DIDBOT_CONFIG" with
  | none => .ok usual
  | some file =>
    match contents file with
    | .error reason => .error (.missing file reason)
    | .ok text =>
      match parse? text with
      | some config => .ok config
      | none => .error (.malformed file)

def load (environment : TextMap String) (contents : String → Except String String) :
    Except Failure Config :=
  match written environment contents with
  | .error failure => .error failure
  | .ok config =>
    let config := config.override environment
    match config.problem? with
    | some problem => .error (.invalid problem)
    | none => .ok config

end Config
end Parley
