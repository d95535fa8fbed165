import Parley.Notification.Basic
/-!
Notifications as JSON. Each kind of thing names its kind in a field of its own.
-/

namespace Parley

def Progress.name : Progress → String
  | done => "ok"
  | waiting => "waiting"
  | declined => "nack"
  | failed => "error"

def ProofValue.toJson (value : ProofValue) : Json :=
  .object ([("name", .string value.name), ("value", .string value.value)] ++
    match value.credDefId with
    | some id => [("cred_def_id", .string id)]
    | none => [])

def StatusPayload.toJson : StatusPayload → Json
  | basicMessage content =>
    .object [("kind", .string "basic_message"), ("content", .string content)]
  | issuing credDefId attrs =>
    .object
      [("kind", .string "issuing"), ("cred_def_id", .string credDefId), ("attrs", .string attrs)]
  | proof values =>
    .object [("kind", .string "proof"), ("attributes", .array (values.map ProofValue.toJson))]
  | none => .object [("kind", .string "none")]

namespace Notification

def members : Notification → List (String × Json)
  | status change =>
    [("conn_id", .string change.connection), ("protocol_id", .string change.protocolId),
      ("protocol", .string change.protocol.name), ("state", .string change.progress.name),
      ("initiated_by_us", .bool change.ours), ("payload", change.payload.toJson)]
  | question asked =>
    [("id", .string asked.id), ("conn_id", .string asked.connection),
      ("kind", .string "proof_verify"),
      ("attributes", .array (asked.values.map ProofValue.toJson))]
  | hook data => [("conn_id", .string data.connection), ("data", .ofTextMap data.data)]
  | backend message =>
    [("conn_id", .string message.connection), ("protocol", .string message.protocol),
      ("subject", .string message.subject), ("content", .string message.content)]
  | keepAlive => []

def toJson (notification : Notification) : Json :=
  .object (("type", .string notification.kind) :: notification.members)

end Notification
end Parley
