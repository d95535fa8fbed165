import Parley.Definition.Protocol
import Parley.Json.Basic
/-!
What a machine sends.
-/

namespace Parley

inductive Payload where
  | none
  | issuing (credDefId attrs : String)
  | proof (attributes : String)
  | answer (ack : Bool)
  | hook (data : TextMap String)
  | backend (subject : String)
  | email (recipient source subject : String)
  deriving DecidableEq

structure Send where
  protocol : Protocol
  typeId : Option String
  content : String
  payload : Payload
  wantStatus : Bool
  deriving DecidableEq

def Payload.toJson : Payload → Json
  | none => .object [("kind", .string "none")]
  | issuing credDefId attrs =>
    .object
      [("kind", .string "issuing"), ("cred_def_id", .string credDefId), ("attrs", .string attrs)]
  | proof attributes => .object [("kind", .string "proof"), ("attributes", .string attributes)]
  | answer ack => .object [("kind", .string "answer"), ("ack", .bool ack)]
  | hook data => .object [("kind", .string "hook"), ("data", .ofTextMap data)]
  | backend subject => .object [("kind", .string "backend"), ("subject", .string subject)]
  | email recipient source subject =>
    .object
      [("kind", .string "email"), ("to", .string recipient), ("from", .string source),
        ("subject", .string subject)]

def Send.toJson (send : Send) : Json :=
  .object
    (("protocol", .string send.protocol.name) ::
      ((match send.typeId with
        | some typeId => [("type_id", .string typeId)]
        | Option.none => []) ++
        [("content", .string send.content), ("payload", send.payload.toJson),
          ("want_status", .bool send.wantStatus)]))

end Parley
