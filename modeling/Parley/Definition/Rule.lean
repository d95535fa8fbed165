import Parley.Definition.Protocol
/-!
The rules of events. On a trigger a rule decides whether it fires, on a send it makes the content.
-/

namespace Parley

inductive Rule where
  | input
  | inputSave
  | inputEqual
  | validateEqual
  | validateNotEqual
  | data
  | format
  | formatMem
  | genPin
  | lua
  | transient
  | ourStatus
  | acceptAndInputValues
  | notAcceptValues
  deriving DecidableEq, Inhabited

namespace Rule

def name : Rule → String
  | input => "INPUT"
  | inputSave => "INPUT_SAVE"
  | inputEqual => "INPUT_EQUAL"
  | validateEqual => "VALIDATE_EQUAL"
  | validateNotEqual => "VALIDATE_NOT_EQUAL"
  | data => "DATA"
  | format => "FORMAT"
  | formatMem => "FORMAT_MEM"
  | genPin => "GEN_PIN"
  | lua => "LUA"
  | transient => "TRANSIENT"
  | ourStatus => "OUR_STATUS"
  | acceptAndInputValues => "ACCEPT_AND_INPUT_VALUES"
  | notAcceptValues => "NOT_ACCEPT_VALUES"

def ofName? : String → Option Rule
  | "INPUT" => some input
  | "INPUT_SAVE" => some inputSave
  | "INPUT_EQUAL" => some inputEqual
  | "VALIDATE_EQUAL" => some validateEqual
  | "VALIDATE_NOT_EQUAL" => some validateNotEqual
  | "DATA" => some data
  | "FORMAT" => some format
  | "FORMAT_MEM" => some formatMem
  | "GEN_PIN" => some genPin
  | "LUA" => some lua
  | "TRANSIENT" => some transient
  | "OUR_STATUS" => some ourStatus
  | "ACCEPT_AND_INPUT_VALUES" => some acceptAndInputValues
  | "NOT_ACCEPT_VALUES" => some notAcceptValues
  | _ => none

def ofAlias? : String → Option Rule
  | "USE_INPUT" => some input
  | "INPUT_VALIDATE_EQUAL" => some validateEqual
  | "INPUT_VALIDATE_NOT_EQUAL" => some validateNotEqual
  | _ => none

def parse? (text : String) : Option Rule :=
  let word := Text.upper (Text.trim text)
  ofName? word <|> ofAlias? word

theorem ofName?_name (rule : Rule) : ofName? rule.name = some rule := by
  cases rule <;> rfl

/-- Rules that only make a content stay off triggers, rules that only decide stay off sends. -/
def allowedOn (rule : Rule) : Side → Bool
  | .trigger =>
    match rule with
    | format | formatMem | genPin => false
    | _ => true
  | .send =>
    match rule with
    | validateEqual | validateNotEqual | acceptAndInputValues | notAcceptValues => false
    | _ => true

/-- Three rules make sense on the triggers of some protocols only. -/
def fitsTrigger (rule : Rule) (protocol : Protocol) : Bool :=
  match rule with
  | acceptAndInputValues | notAcceptValues => protocol = .answer
  | ourStatus =>
    protocol = .basicMessage || protocol = .issueCredential || protocol = .presentProof ||
      protocol = .trustPing
  | transient => protocol = .transient
  | _ => true

def defaultOn : Side → Rule
  | .trigger => input
  | .send => data

end Rule
end Parley
