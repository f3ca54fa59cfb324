import EdgeControl.Json
import EdgeControl.Log
import EdgeControl.Text.Numeral

/-!
The settings of the log: from which level on events are written, and in which form.
-/
namespace EdgeControl

namespace LogLevel

def name : LogLevel → String
  | error => "error"
  | warn => "warn"
  | info => "info"
  | debug => "debug"
  | trace => "trace"

instance : ToString LogLevel := ⟨name⟩

def ofName? : String → Option LogLevel
  | "error" => some error
  | "warn" => some warn
  | "info" => some info
  | "debug" => some debug
  | "trace" => some trace
  | _ => none

def ofString (s : String) : Except String LogLevel :=
  match String.ofList (Text.lowercase s.toList) with
  | "warning" => .ok warn
  | lower =>
    match ofName? lower with
    | some l => .ok l
    | none => .error s!"invalid log level '{s}': expected error|warn|info|debug|trace"

instance : JsonForm LogLevel where
  toJson l := .str l.name
  ofJson? := Json.name? ofName?

end LogLevel

inductive LogFormat where
  | json
  | text
  deriving DecidableEq, Inhabited, Repr

namespace LogFormat

def name : LogFormat → String
  | json => "json"
  | text => "text"

instance : ToString LogFormat := ⟨name⟩

def ofName? : String → Option LogFormat
  | "json" => some json
  | "text" => some text
  | _ => none

def ofString (s : String) : Except String LogFormat :=
  match String.ofList (Text.lowercase s.toList) with
  | "pretty" => .ok text
  | lower =>
    match ofName? lower with
    | some f => .ok f
    | none => .error s!"invalid log format '{s}': expected json|text"

instance : JsonForm LogFormat where
  toJson f := .str f.name
  ofJson? := Json.name? ofName?

end LogFormat

def Log.upTo (level : LogLevel) (log : Log) : Log :=
  log.filter fun e => e.level.rank ≤ level.rank

end EdgeControl
