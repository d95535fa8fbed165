import Parley.Client
import Parley.Console.Paint
import Parley.Notification.Basic
/-!
Calls shown on a screen.

Nobody is there to carry the calls out, so one that starts a protocol is answered at once: its end
is told, as if the other party had done its part.
-/

namespace Parley.Console

structure Shown where
  printed : String
  /-- The end of the protocol that the call started. -/
  echoed : Option Notification
  /-- The id of that protocol. -/
  result : Except ClientError (Option String)

def labelled (isColored : Bool) (label text : String) : String :=
  paint isColored .cyan ("[" ++ label ++ "]") ++ " " ++ text ++ "\n"

def verdict (isColored accepted : Bool) : String :=
  if accepted then paint isColored .green "accepted" else paint isColored .red "declined"

def printed (isColored : Bool) : Call → String
  | .basicMessage _ content => paint isColored .boldGreen "bot>" ++ " " ++ content ++ "\n"
  | .issueCredential _ credDefId attrs =>
    labelled isColored "issue" (paint isColored .yellow credDefId ++ " " ++ attrs)
  | .requestProof _ attributes =>
    labelled isColored "proof" attributes ++
      paint isColored .dimmed "  answer with: /prove name=value ..." ++ "\n"
  | .trustPing connection => labelled isColored "ping" connection
  | .answer questionId ack info =>
    labelled isColored "answer"
      (paint isColored .dimmed questionId ++ " " ++ verdict isColored ack ++ " " ++ info)
  | .resume _ protocolId accept =>
    labelled isColored "resume"
      (paint isColored .dimmed protocolId ++ " " ++ verdict isColored accept)
  | .email recipient source subject body =>
    labelled isColored "email"
      (source ++ " -> " ++ paint isColored .yellow recipient ++ ": " ++
        paint isColored .bold subject) ++
      body ++ "\n"
  | .hook connection data content =>
    labelled isColored "hook"
      (paint isColored .dimmed connection ++ " " ++ (Json.ofTextMap data).print ++ " " ++ content)
  | .backend connection subject content =>
    labelled isColored "backend"
      (paint isColored .dimmed connection ++ " " ++ paint isColored .yellow subject ++ " " ++
        content)

def startedBy : Call → Option (String × Protocol × StatusPayload)
  | .basicMessage connection content => some (connection, .basicMessage, .basicMessage content)
  | .issueCredential connection credDefId attrs =>
    some (connection, .issueCredential, .issuing credDefId attrs)
  | .requestProof connection _ => some (connection, .presentProof, .none)
  | .trustPing connection => some (connection, .trustPing, .none)
  | _ => none

def completed (id connection : String) (protocol : Protocol) (payload : StatusPayload) :
    Status where
  connection := connection
  protocolId := id
  protocol := protocol
  progress := .done
  ours := true
  payload := payload

/-- Shows a call. A protocol that it starts gets the given id, and is refused if nobody listens to
how it ends. -/
def display (isColored isHeard : Bool) (id : String) (call : Call) : Shown :=
  let printed := printed isColored call
  match startedBy call with
  | none => ⟨printed, none, .ok none⟩
  | some (connection, protocol, payload) =>
    if isHeard then
      ⟨printed, some (.status (completed id connection protocol payload)), .ok (some id)⟩
    else ⟨printed, none, .error .closed⟩

end Parley.Console
