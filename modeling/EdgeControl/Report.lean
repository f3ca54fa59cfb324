import EdgeControl.Json

/-!
Results as JSON: a value, or the kind of an error with its wording.
-/
namespace EdgeControl

class Reported (ε : Type) where
  kind : ε → String
  wording? : ε → Option String

namespace Report

variable {ε α : Type}

def value (j : Json) : Json := .obj [("ok", j)]

def error [Reported ε] (e : ε) : Json :=
  let kind := ("error", .str (Reported.kind e))
  match Reported.wording? e with
  | none => .obj [kind]
  | some text => .obj [kind, ("message", .str text)]

def result [Reported ε] (write : α → Json) : Except ε α → Json
  | .ok a => value (write a)
  | .error e => error e

def table {κ : Type} (cells : κ → List Json) (write : α → Json) (rows : List (κ × α)) : Json :=
  .arr (rows.map fun (k, v) => .arr (cells k ++ [write v]))

end Report
end EdgeControl
