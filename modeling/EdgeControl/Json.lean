/-!
JSON values, and the reading of records from them. A record is an object whose unknown members
are skipped, or an array that holds the members in their declared order.
-/
namespace EdgeControl

/-- A JSON value. Numbers that are not integers carry no value here: no record has a field
that accepts one. -/
inductive Json where
  | null
  | bool (b : Bool)
  | int (n : Int)
  | fraction
  | str (s : String)
  | arr (items : List Json)
  | obj (members : List (String × Json))
  deriving Inhabited, Repr

class JsonForm (α : Type) where
  toJson : α → Json
  ofJson? : Json → Option α

export JsonForm (toJson ofJson?)

namespace Json

abbrev Members := String → Option Json

/-- The members of the record `j` whose declared member names are `names`. An array gives the
members by position and may stop early, but may not go on past the last name. -/
def members? (names : List String) (j : Json) : Option Members :=
  match j with
  | .obj ms => some fun name => ms.lookup name
  | .arr items =>
    if items.length ≤ names.length then some fun name => (names.zip items).lookup name else none
  | _ => none

def Members.get? {α : Type} [JsonForm α] (m : Members) (name : String) : Option α := do
  ofJson? (← m name)

def Members.getD? {α : Type} [JsonForm α] (m : Members) (name : String) (fallback : α) :
    Option α :=
  match m name with
  | none => some fallback
  | some j => ofJson? j

def get? (j : Json) (name : String) : Option Json :=
  match j with
  | .obj ms => ms.lookup name
  | _ => none

def field? {α : Type} [JsonForm α] (j : Json) (name : String) : Option α :=
  (j.get? name).bind ofJson?

def fieldD? {α : Type} [JsonForm α] (j : Json) (name : String) (fallback : α) : Option α :=
  match j.get? name with
  | none => some fallback
  | some v => ofJson? v

def natBelow? (bound : Nat) : Json → Option Nat
  | .int (.ofNat n) => if n < bound then some n else none
  | _ => none

/-- One of finitely many names, as a string or as an object whose only member has that name and
holds null. -/
def name? {α : Type} (read : String → Option α) : Json → Option α
  | .str s => read s
  | .obj [(s, .null)] => read s
  | _ => none

end Json

instance : JsonForm Bool where
  toJson b := .bool b
  ofJson?
    | .bool b => some b
    | _ => none

instance : JsonForm String where
  toJson s := .str s
  ofJson?
    | .str s => some s
    | _ => none

instance : JsonForm UInt8 where
  toJson n := .int n.toNat
  ofJson? j := (j.natBelow? UInt8.size).map UInt8.ofNat

instance : JsonForm UInt16 where
  toJson n := .int n.toNat
  ofJson? j := (j.natBelow? UInt16.size).map UInt16.ofNat

instance : JsonForm UInt32 where
  toJson n := .int n.toNat
  ofJson? j := (j.natBelow? UInt32.size).map UInt32.ofNat

instance : JsonForm UInt64 where
  toJson n := .int n.toNat
  ofJson? j := (j.natBelow? UInt64.size).map UInt64.ofNat

instance : JsonForm Nat where
  toJson n := .int n
  ofJson?
    | .int (.ofNat n) => some n
    | _ => none

instance : JsonForm Json := ⟨id, some⟩

instance {α β : Type} [JsonForm α] [JsonForm β] : JsonForm (α × β) where
  toJson p := .arr [toJson p.1, toJson p.2]
  ofJson?
    | .arr [a, b] => do some (← ofJson? a, ← ofJson? b)
    | _ => none

instance {α : Type} [JsonForm α] : JsonForm (List α) where
  toJson xs := .arr (xs.map toJson)
  ofJson?
    | .arr items => items.mapM ofJson?
    | _ => none

instance {α : Type} [JsonForm α] : JsonForm (Option α) where
  toJson
    | none => .null
    | some x => toJson x
  ofJson?
    | .null => some none
    | j => (ofJson? j).map some

end EdgeControl
