import EdgeControl.Proofs.Firewall.Operations
import EdgeControl.Proofs.Firewall.Registry

/-!
Runs of a firewall on tables in memory: rules set and deleted in any order, any of whose operations
may fail, while the data plane counts what it drops. A run keeps what its answers tell of the
installed rules.
-/
namespace EdgeControl.Firewall

inductive Request where
  | setRule (rule : Rule)
  | deleteRule (id : UInt32)
  /-- The data plane counts, and its drop counters become the given ones. -/
  | countDrops (counters : Std.ExtTreeMap UInt32 UInt64)

structure Call where
  request : Request
  faults : Faults := .none

def Call.Reliable (c : Call) : Prop := ∀ op, ¬ c.faults.MayFail op

namespace Service

def outcome {α : Type} (s : Service Memory) (faults : Faults) (act : Action (Service Memory) α) :
    Outcome (Service Memory) α :=
  act.outcome {s with base := {s.base with faults}} #[]

variable (s : Service Memory) (faults : Faults)

theorem setting (given : Rule) : Snapshot.Setting faults.MayFail s.snapshot given
    (s.outcome faults (setRule given)).answer (s.outcome faults (setRule given)).state.snapshot :=
  (setRule_ensures {s with base := {s.base with faults}} given #[]).2

theorem deleting (id : UInt32) : Snapshot.Deleting faults.MayFail s.snapshot id
    (s.outcome faults (deleteRule id)).answer (s.outcome faults (deleteRule id)).state.snapshot :=
  (deleteRule_ensures {s with base := {s.base with faults}} id #[]).2

theorem rules_outcome (readable : ¬ faults.MayFail .dropCount) : (s.outcome faults rules).answer =
    .ok (s.registry.toList.map (counted s.base.dropCounters)) :=
  (rules_ensures {s with base := {s.base with faults}} #[]).2 readable

end Service

/-- A run up to some point, as it is seen from outside. -/
structure Course where
  service : Service Memory
  /-- The rules that were set, with the ids they were given, and not deleted since. -/
  installed : List Rule
  /-- The most rules that were ever installed on a network at once. -/
  most : Network → Nat

namespace Course

def start : Course := {service := {base := ∅}, installed := [], most := fun _ => 0}

def withSet (installed : List Rule) (given : Rule) : Except ServiceError UInt32 → List Rule
  | .ok id => installed ++ [{given with id, dropCount := 0}]
  | .error _ => installed

def withDeleted (installed : List Rule) (id : UInt32) : Except ServiceError Unit → List Rule
  | .ok () => installed.filter (·.id != id)
  | .error _ => installed

def told (t : Course) (c : Call) : List Rule :=
  match c.request with
  | .setRule given =>
    withSet t.installed given (t.service.outcome c.faults (Service.setRule given)).answer
  | .deleteRule id =>
    withDeleted t.installed id (t.service.outcome c.faults (Service.deleteRule id)).answer
  | .countDrops _ => t.installed

def left (t : Course) (c : Call) : Service Memory :=
  match c.request with
  | .setRule given => (t.service.outcome c.faults (Service.setRule given)).state
  | .deleteRule id => (t.service.outcome c.faults (Service.deleteRule id)).state
  | .countDrops counters => {t.service with base := {t.service.base with dropCounters := counters}}

def after (t : Course) (c : Call) : Course where
  service := t.left c
  installed := t.told c
  most network := max (t.most network) (rulesOn (t.told c) network).length

def run (calls : List Call) : Course := calls.foldl after start

theorem run_induction {motive : Course → Prop} (calls : List Call) (first : motive start)
    (keeps : ∀ c ∈ calls, ∀ t, motive t → motive (t.after c)) : motive (run calls) := by
  unfold run
  generalize start = t at first
  induction calls generalizing t with
  | nil => exact first
  | cons c calls ih =>
    exact ih (fun d member => keeps d (List.mem_cons_of_mem c member)) _
      (keeps c List.mem_cons_self t first)

end Course
end EdgeControl.Firewall
