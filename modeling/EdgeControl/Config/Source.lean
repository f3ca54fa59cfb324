import EdgeControl.Json
import EdgeControl.Yaml.Node

/-!
What a configuration can be read from. A notation says which of its values are texts, numbers,
lists or records; the reading of a configuration is written once over that.
-/
namespace EdgeControl.Config

class Source (σ : Type) where
  text? : σ → Option String
  natural? : σ → Option UInt64
  truth? : σ → Option Bool
  choice? : σ → Option String
  /-- A value that may be absent, either so or as a value. -/
  optional? : σ → Option (Option σ)
  items? : σ → Option (List σ)
  entries? : List String → σ → Option (List (String × σ))

export Source (text? natural? truth? choice? optional? items? entries?)

def optionalText? {σ : Type} [Source σ] (s : σ) : Option (Option String) := do
  match ← optional? s with
  | none => some none
  | some s => (text? s).map some

def list? {σ α : Type} [Source σ] (read : σ → Option α) (s : σ) : Option (List α) := do
  (← items? s).mapM read

abbrev Fields (σ : Type) := String → Option σ

/-- The fields called `names` of the record `s`, none of them given twice. A closed record has no
other fields; in an open one they are passed over. -/
def fields? {σ : Type} [Source σ] (names : List String) (closed : Bool) (s : σ) :
    Option (Fields σ) := do
  let entries ← entries? names s
  let given := entries.map Prod.fst
  if closed && !given.all names.contains then none
  else if names.any fun name => 1 < given.count name then none
  else some fun name => entries.lookup name

namespace Fields

variable {σ α : Type}

def get? (f : Fields σ) (name : String) (read : σ → Option α) : Option α := (f name).bind read

def getD? (f : Fields σ) (name : String) (fallback : α) (read : σ → Option α) : Option α :=
  match f name with
  | none => some fallback
  | some s => read s

end Fields

/-- In JSON every kind of value has one notation, and null is absence. A record may be given as
the list of its first fields. -/
instance : Source Json where
  text?
    | .str s => some s
    | _ => none
  natural? := ofJson?
  truth? := ofJson?
  choice? := Json.name? some
  optional?
    | .null => some none
    | j => some (some j)
  items?
    | .arr items => some items
    | _ => none
  entries? names
    | .obj members => some members
    | .arr items => if items.length ≤ names.length then some (names.zip items) else none
    | _ => none

/-- A node of a YAML document, with the nodes that its aliases stand for. -/
structure YamlValue where
  anchored : List (Nat × Yaml.Node)
  node : Yaml.Node

namespace YamlValue

def target (v : YamlValue) : Option Yaml.Node :=
  match v.node with
  | .alias number => v.anchored.lookup number
  | node => some node

def isNull (s : String) : Bool := s == "null" || s == "Null" || s == "NULL" || s == "~"

/-- The plain text of a value that is meant as something else than text; a literal block is one
too if its tag says what is meant. -/
def plainText? (tag : String) (v : YamlValue) : Option String := do
  match ← v.target with
  | .scalar _ .plain s => some s
  | .scalar t .literal s => if t = some ("tag:yaml.org,2002:" ++ tag) then some s else none
  | _ => none

/-- A number of at most 64 bits: in base ten without leading zeros, or in base 16, 8 or 2 behind
its mark. A plus sign may stand in front of all. -/
def naturalText? (cs : List Char) : Option Nat :=
  let body := if cs.head? = some '+' then cs.tail else cs
  let unsigned (base : Nat) (ds : List Char) : Option Nat :=
    if ds.head? = some '+' then none else Text.unsigned? base (UInt64.size - 1) ds
  match body with
  | '0' :: 'x' :: ds => unsigned 16 ds
  | '0' :: 'o' :: ds => unsigned 8 ds
  | '0' :: 'b' :: ds => unsigned 2 ds
  | _ => Text.plainDecimal? (UInt64.size - 1) body

/-- Whether a node is left out, which stands for an empty list and an empty record too. -/
def isMissing : Yaml.Node → Bool
  | .scalar _ .plain "" => true
  | _ => false

instance : Source YamlValue where
  text? v := do
    match ← v.target with
    | .scalar _ _ s => some s
    | _ => none
  natural? v := do
    let s ← v.plainText? "int"
    (naturalText? s.toList).map UInt64.ofNat
  truth? v := do
    let s ← v.plainText? "bool"
    if s = "true" ∨ s = "True" ∨ s = "TRUE" then some true
    else if s = "false" ∨ s = "False" ∨ s = "FALSE" then some false
    else none
  choice? v := do
    match ← v.target with
    | .scalar (some tag) style s =>
      match tag.toList with
      | '!' :: name =>
        if style = .plain ∧ (s = "" ∨ isNull s) then some (String.ofList name) else none
      | _ => some s
    | .scalar none _ s => some s
    | _ => none
  optional? v := do
    match ← v.target with
    | .scalar none .plain s => some (if s = "" ∨ isNull s then none else some v)
    | .scalar (some tag) .plain s =>
      if tag ≠ "tag:yaml.org,2002:null" then some (some v)
      else if isNull s then some none else none
    | _ => some (some v)
  items? v := do
    match ← v.target with
    | .sequence items => some (items.map ({v with node := ·}))
    | node => if isMissing node then some [] else none
  entries? _ v := do
    match ← v.target with
    | .mapping entries =>
      entries.mapM fun (k, x) => do
        match ← YamlValue.target {v with node := k} with
        | .scalar _ _ name => some (name, {v with node := x})
        | _ => none
    | node => if isMissing node then some [] else none

end YamlValue

def YamlValue.ofText? (cs : List Char) : Option YamlValue := do
  let d ← Yaml.Document.ofText? cs
  return ⟨d.anchored, d.root⟩

end EdgeControl.Config
