import EdgeControl.Address.Network
import EdgeControl.Failure
import EdgeControl.Kernel.Layout
import Std.Data.ExtTreeMap

/-!
The kernel's tables. Each has room for a number of keys, and may be closed to the agent's reading
or writing. Networks are looked up by longest prefix, and array slots are blank until written.
-/
namespace EdgeControl.Kernel

inductive TableError where
  | updateFailed
  | lookupFailed
  | deleteFailed
  | iterationFailed
  | beyondEnd (index capacity : Nat)
  deriving DecidableEq, Repr

def TableError.message : TableError → String
  | .updateFailed => "\x60bpf_map_update_elem\x60 failed"
  | .lookupFailed => "\x60bpf_map_lookup_elem\x60 failed"
  | .deleteFailed => "\x60bpf_map_delete_elem\x60 failed"
  | .iterationFailed => "\x60bpf_map_get_next_key\x60 failed"
  | .beyondEnd index capacity => s!"the index is {index} but \x60max_entries\x60 is {capacity}"

def TableError.failure : TableError → Failure
  | .beyondEnd index capacity => {text := (beyondEnd index capacity).message}
  | e => ⟨e.message, [Refusal.notPermitted.message]⟩

structure Table (κ α : Type) [Ord κ] where
  capacity : Nat
  readable : Bool := true
  writable : Bool := true
  entries : Std.ExtTreeMap κ α := ∅

namespace Table

variable {κ α : Type} [Ord κ] [Std.TransOrd κ]

def ofSpec (s : TableSpec) : Table κ α where
  capacity := s.capacity
  readable := s.readable
  writable := s.writable

/-- The table with a value for a key. A key that is new needs room. -/
def store? (t : Table κ α) (k : κ) (v : α) : Option (Table κ α) :=
  if t.entries.contains k || t.entries.size < t.capacity then
    some {t with entries := t.entries.insert k v}
  else none

/-- The table without a key, which has to be there. -/
def discard? (t : Table κ α) (k : κ) : Option (Table κ α) :=
  if t.entries.contains k then some {t with entries := t.entries.erase k} else none

def insert (t : Table κ α) (k : κ) (v : α) : Except TableError (Table κ α) :=
  match if t.writable then t.store? k v else none with
  | some t => .ok t
  | none => .error .updateFailed

def erase (t : Table κ α) (k : κ) : Except TableError (Table κ α) :=
  match if t.writable then t.discard? k else none with
  | some t => .ok t
  | none => .error .deleteFailed

def find? (t : Table κ α) (k : κ) : Except TableError (Option α) :=
  if t.readable then .ok t.entries[k]? else .error .lookupFailed

def toList (t : Table κ α) : Except TableError (List (κ × α)) :=
  if t.readable then .ok t.entries.toList else .error .iterationFailed

/-- What the agent reads for a network: the value of the narrowest network in the table that
holds all of it. -/
def findLongest? (t : Table Network α) (n : Network) : Except TableError (Option α) :=
  if t.readable then .ok (n.supernets.findSome? fun m => t.entries[m]?) else .error .lookupFailed

end Table

structure Slots (α : Type) where
  capacity : Nat
  writable : Bool := true
  blank : α
  written : Std.ExtTreeMap Nat α := ∅

namespace Slots

variable {α : Type}

def ofSpec (blank : α) (s : TableSpec) : Slots α where
  capacity := s.capacity
  writable := s.writable
  blank

def set (s : Slots α) (i : Nat) (v : α) : Except TableError (Slots α) :=
  if s.capacity ≤ i then .error (.beyondEnd i s.capacity)
  else if s.writable then .ok {s with written := s.written.insert i v}
  else .error .updateFailed

def get (s : Slots α) (i : Nat) : α := s.written[i]?.getD s.blank

def toList (s : Slots α) : List α := (List.range s.capacity).map s.get

end Slots

/-- The table of the programs that the entry point calls. It lives as long as someone has it open:
when the last handle is closed the kernel empties it. -/
structure Calls where
  capacity : Nat
  writable : Bool := true
  targets : Std.ExtTreeMap Nat Program := ∅
  handles : Nat := 1

namespace Calls

def ofSpec (s : TableSpec) : Calls where
  capacity := s.capacity
  writable := s.writable

def set (c : Calls) (i : Nat) (p : Program) : Except TableError Calls :=
  if c.capacity ≤ i then .error (.beyondEnd i c.capacity)
  else if c.writable then .ok {c with targets := c.targets.insert i p}
  else .error .updateFailed

def close (c : Calls) : Calls :=
  {c with
    handles := c.handles - 1
    targets := if c.handles ≤ 1 then ∅ else c.targets}

end Calls
end EdgeControl.Kernel
