import EdgeControl.Failure
import EdgeControl.Report

/-!
Why a configuration is refused.
-/
namespace EdgeControl

/-- A failure to read or to accept a configuration. Fields are named by their path. -/
inductive ConfigError where
  | unreadable (why : Refusal)
  /-- The text is not YAML, or does not have the shape of a configuration. -/
  | malformed
  | invalid (field why : String)
  | invalidAddress (field value why : String)
  deriving DecidableEq, Repr

namespace ConfigError

def message : ConfigError → String
  | unreadable why => s!"I/O error reading config: {why.message}"
  | malformed => "YAML parse error"
  | invalid field why => s!"validation error: {field}: {why}"
  | invalidAddress field value why =>
    s!"invalid address '{value}' for field '{field}': {why}"

def failure : ConfigError → Failure
  | unreadable why => ⟨(unreadable why).message, [why.message]⟩
  | e => {text := e.message}

/-- What makes a text malformed is not told to programs. -/
instance : Reported ConfigError where
  kind
    | unreadable _ => "Io"
    | malformed => "Yaml"
    | invalid .. => "Validation"
    | invalidAddress .. => "InvalidAddress"
  wording?
    | malformed => none
    | e => some e.message

/-- The result of a check of `field`, with the wording `message` for what it found. -/
def about {ε α : Type} (field : String) (message : ε → String) (r : Except ε α) :
    Except ConfigError α :=
  r.mapError fun e => .invalid field (message e)

end ConfigError
end EdgeControl
