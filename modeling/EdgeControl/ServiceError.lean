import EdgeControl.Protocol

/-!
The failures that the services report to their callers. Each has a kind and a text, and a list of
them folds into one.
-/
namespace EdgeControl

inductive ServiceError where
  | ruleNotFound (what : String)
  | duplicateRule (what : String)
  | invalidRule (why : String)
  | invalidConfig (why : String)
  | preconditionFailed (why : String)
  /-- The data plane or a table refused, or several failures happened in one operation. -/
  | engine (why : String)
  deriving DecidableEq, Inhabited, Repr

namespace ServiceError

def message : ServiceError → String
  | ruleNotFound s => s!"rule not found: {s}"
  | duplicateRule s => s!"duplicate rule: {s}"
  | invalidRule s => s!"invalid rule: {s}"
  | invalidConfig s => s!"invalid configuration: {s}"
  | preconditionFailed s => s!"precondition failed: {s}"
  | engine s => s!"engine error: {s}"

instance : ToString ServiceError := ⟨message⟩

instance : Reported ServiceError where
  kind
    | ruleNotFound _ => "RuleNotFound"
    | duplicateRule _ => "DuplicateRule"
    | invalidRule _ => "InvalidRule"
    | invalidConfig _ => "InvalidConfig"
    | preconditionFailed _ => "PreconditionFailed"
    | engine _ => "EngineError"
  wording? e := some e.message

/-- One engine error with the texts of all the given ones. -/
def aggregate? : List ServiceError → Option ServiceError
  | [] => none
  | es => some (.engine ("; ".intercalate (es.map message)))

end ServiceError

/-- A protocol-level error means that the rule which holds the value is invalid. -/
def ProtocolError.toService (e : ProtocolError) : ServiceError := .invalidRule e.message

end EdgeControl
