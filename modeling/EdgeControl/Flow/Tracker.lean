import EdgeControl.Flow.Entry
import Std.Data.ExtTreeMap
import Std.Data.ExtTreeSet

/-!
What the agent knows of the flows in the data plane's table. A pass takes one reading of the
table, brings the tracker up to date, and says which flows to purge and which records it could not
make out.
-/
namespace EdgeControl.Flow

/-- The tracked flows, and the keys whose records the last pass could not make out. -/
structure Tracker where
  entries : Std.ExtTreeMap Key Entry := ∅
  undecodable : Std.ExtTreeSet Key := ∅

structure Pass where
  /-- The flows to purge from the data plane's table, and then from the tracker. -/
  purge : List Key := []
  /-- Why records could not be made out. A key is reported when it first fails and stays quiet
  while it keeps failing. -/
  errors : List FlowError := []

abbrev Observation := Key × Info

namespace Tracker

instance : EmptyCollection Tracker := ⟨{}⟩

def get? (t : Tracker) (key : Key) : Option Entry := t.entries[key]?

def toList (t : Tracker) : List Entry := t.entries.values

def size (t : Tracker) : Nat := t.entries.size

/-- A known flow after one more look at its record. Its time moves only when its counter grew. -/
def refresh (e : Entry) (info : Info) (now : Instant) : Except FlowError Entry := do
  let state ← State.ofNumber info.status
  return {e with
    state
    lastSeen := if e.counter < info.counter then now else e.lastSeen
    counter := info.counter
    backendId := info.id}

def decode (t : Tracker) (o : Observation) (now : Instant) : Except FlowError Entry :=
  match t.get? o.1 with
  | some e => refresh e o.2 now
  | none => Entry.ofRecord o.1 o.2 now

/-- Takes one record into account. `before` has the keys that failed in the pass before. -/
def observe (now : Instant) (lifetime : Nat) (before : Std.ExtTreeSet Key)
    (t : Tracker) (o : Observation) : Pass × Tracker :=
  match t.decode o now with
  | .ok e =>
    ({purge := if e.expired now lifetime then [o.1] else []},
      {t with entries := t.entries.insert o.1 e})
  | .error e =>
    ({errors := if before.contains o.1 then [] else [e]},
      {t with undecodable := t.undecodable.insert o.1})

def observeAll (now : Instant) (lifetime : Nat) (before : Std.ExtTreeSet Key) (t : Tracker) :
    List Observation → Pass × Tracker
  | [] => ({}, t)
  | o :: rest =>
    let (first, t) := t.observe now lifetime before o
    let (others, t) := t.observeAll now lifetime before rest
    (⟨first.purge ++ others.purge, first.errors ++ others.errors⟩, t)

/-- One pass over a reading. The keys that fail in it take the place of those that failed in the
pass before. -/
def sync (t : Tracker) (observed : List Observation) (now : Instant) (lifetime : Nat) :
    Pass × Tracker :=
  observeAll now lifetime t.undecodable {t with undecodable := ∅} observed

def forget (t : Tracker) (key : Key) : Tracker := {t with entries := t.entries.erase key}

def retain (t : Tracker) (live : Std.ExtTreeSet Key) : Tracker :=
  {t with entries := t.entries.filter fun key _ => live.contains key}

end Tracker
end EdgeControl.Flow
