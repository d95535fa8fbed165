import Parley.Notification.Basic
import Parley.Text.Blank
import Parley.Text.LetterCase
/-!
Lines typed at the console.

A line is told to the machine as a message of the other party. After a slash it is a command, whose
name may be written in capital or small letters.
-/

namespace Parley.Console

inductive Line where
  /-- Goes into the stream. -/
  | deliver (notification : Notification)
  /-- Goes in beside the stream. -/
  | hook (data : HookData)
  | conversations
  | stats
  | help
  | quit
  deriving DecidableEq

inductive LineError where
  | noCommand
  | unknownCommand (name : String)
  /-- A word that should give a name a value. -/
  | noAssignment (word : String)
  | noValues
  | noSubject
  deriving DecidableEq

def LineError.message : LineError → String
  | noCommand => "empty command"
  | unknownCommand name => "unknown command '/" ++ name ++ "', try /help"
  | noAssignment word => "expected key=value, got '" ++ word ++ "'"
  | noValues => "usage: /prove <name=value>..."
  | noSubject => "usage: /backend <subject> <text>"

def assignment? (word : String) : Option (String × String) :=
  let front := word.toList.takeWhile (· ≠ '=')
  match word.toList.dropWhile (· ≠ '=') with
  | [] => none
  | _ :: value => some (String.ofList front, String.ofList value)

def assignments : List String → Except LineError (List (String × String))
  | [] => .ok []
  | word :: rest =>
    match assignment? word with
    | none => .error (.noAssignment word)
    | some entry => (assignments rest).map (entry :: ·)

/-- The values by name, of those for one name the last. -/
def values (words : List String) : Except LineError (TextMap String) :=
  (assignments words).map TextMap.ofList

def prove (connection id : String) (words : List String) : Except LineError Line :=
  match values words with
  | .error error => .error error
  | .ok values =>
    if values.isEmpty then .error .noValues
    else
      .ok <| .deliver <| .question
        { id, connection,
          values := values.entries.map fun entry => ⟨entry.1, entry.2, none⟩ }

def hook (connection : String) (words : List String) : Except LineError Line :=
  (values words).map fun data => .hook { connection, data }

def backend (connection : String) : List String → Except LineError Line
  | [] => .error .noSubject
  | subject :: words =>
    .ok <| .deliver <| .backend
      { connection, protocol := "", subject, content := " ".intercalate words }

def command (connection id name : String) (words : List String) : Except LineError Line :=
  match name with
  | "help" | "?" => .ok .help
  | "quit" | "exit" => .ok .quit
  | "stats" => .ok .stats
  | "conversations" | "convs" => .ok .conversations
  | "prove" => prove connection id words
  | "hook" => hook connection words
  | "backend" => backend connection words
  | other => .error (.unknownCommand other)

/-- Reads a line typed for a connection. What it starts gets the given id. -/
def parse (connection id line : String) : Except LineError Line :=
  match line.toList with
  | '/' :: rest =>
    match Text.words (String.ofList rest) with
    | [] => .error .noCommand
    | name :: words => command connection id (Text.lower name) words
  | _ => .ok (.deliver (.status (.message connection id line)))

end Parley.Console
