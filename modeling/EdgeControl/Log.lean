import EdgeControl.Json

/-!
Log events as data. An event has a level, a message and named fields, and a log lists its events
in the order in which they happened.
-/
namespace EdgeControl

inductive LogLevel where
  | error
  | warn
  | info
  | debug
  | trace
  deriving DecidableEq, Inhabited, Repr

/-- The position of a level, 0 for the most severe. -/
def LogLevel.rank : LogLevel → Nat
  | error => 0
  | warn => 1
  | info => 2
  | debug => 3
  | trace => 4

def LogLevel.label : LogLevel → String
  | error => "ERROR"
  | warn => "WARN"
  | info => "INFO"
  | debug => "DEBUG"
  | trace => "TRACE"

inductive LogField where
  | number (n : Nat)
  | text (s : String)
  deriving DecidableEq, Repr

instance : Coe Nat LogField := ⟨.number⟩
instance : Coe UInt32 LogField := ⟨fun n => .number n.toNat⟩
instance : Coe String LogField := ⟨.text⟩

def LogField.display {α : Type} [ToString α] (a : α) : LogField := .text (toString a)

structure LogEvent where
  level : LogLevel
  message : String
  fields : List (String × LogField) := []
  deriving DecidableEq, Repr

namespace LogEvent

def warn (message : String) (fields : List (String × LogField) := []) : LogEvent :=
  ⟨.warn, message, fields⟩

def info (message : String) (fields : List (String × LogField) := []) : LogEvent :=
  ⟨.info, message, fields⟩

def debug (message : String) (fields : List (String × LogField) := []) : LogEvent :=
  ⟨.debug, message, fields⟩

def members (e : LogEvent) : List (String × Json) :=
  let field : LogField → Json
    | .number n => EdgeControl.toJson n
    | .text s => .str s
  [("level", .str e.level.label), ("message", .str e.message)] ++
    e.fields.map fun (name, value) => (name, field value)

def toJson (e : LogEvent) : Json := .obj e.members

end LogEvent

/-- The events of a run, the earliest first. -/
abbrev Log := Array LogEvent

end EdgeControl
