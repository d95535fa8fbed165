import Parley.Definition.Draft
import Parley.Definition.Fault
/-!
Events with their names resolved and their parts checked.
-/

namespace Parley

structure Event where
  protocol : Protocol
  rule : Rule
  typeId : Option String
  /-- A literal, a register name, a format, a template or a script, as the rule has it. -/
  data : String
  eventData : Option EventData
  wantStatus : Bool
  deriving DecidableEq

namespace Event

def requiredData? : Protocol → Option EventData.Kind
  | .issueCredential => some .issuing
  | .presentProof => some .proof
  | .email => some .email
  | _ => none

def ruleOf (side : Side) : Option String → Except Fault Rule
  | some written =>
    let word := Text.trim written
    if word.isEmpty then .ok (Rule.defaultOn side)
    else
      match Rule.parse? word with
      | some rule => .ok rule
      | none => .error (.unknownRule word)
  | none => .ok (Rule.defaultOn side)

def dataOf (draft : Draft.Event) : String :=
  match draft.data, draft.eventData with
  | some data, _ => data
  | none, some (.basicMessage content) => content
  | none, _ => ""

def ruleFits (side : Side) (protocol : Protocol) (rule : Rule) : Bool :=
  rule.allowedOn side && (side ≠ .trigger || rule.fitsTrigger protocol)

def missingData? (side : Side) (protocol : Protocol) (data : Option EventData) :
    Option EventData.Kind :=
  match side, requiredData? protocol with
  | .send, some kind => if data.map EventData.kind = some kind then none else some kind
  | _, _ => none

def resolve (side : Side) (draft : Draft.Event) : Except Fault Event :=
  match Protocol.parse? draft.protocol with
  | none => .error (.unknownProtocol draft.protocol)
  | some protocol =>
    if !protocol.allowedOn side then .error (.unsupportedProtocol protocol side)
    else
      match ruleOf side draft.rule with
      | .error fault => .error fault
      | .ok rule =>
        if !ruleFits side protocol rule then .error (.unsupportedRule protocol rule side)
        else
          match missingData? side protocol draft.eventData with
          | some kind => .error (.missingEventData protocol kind)
          | none =>
            let data := dataOf draft
            if rule = .lua && Text.isBlankText data then .error (.emptyScript protocol side)
            else
              .ok
                { protocol, rule, data
                  typeId := draft.typeId.filter fun name => !name.isEmpty
                  eventData := draft.eventData
                  wantStatus := !draft.noStatus }

end Event
end Parley
