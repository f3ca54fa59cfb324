import EdgeControl.Action

/-!
Failures on demand. Each operation asked of tables in memory consults a plan, which says by the
number of the operation and its name whether it fails. So an operation may fail always, once, or
from some point on.
-/
namespace EdgeControl

inductive Operation where
  | insertRule
  | removeRule
  | matcher
  | setMatcher
  | insertAdvRule
  | removeAdvRule
  | dropCount
  | removeDropCounter
  | counters
  | setFrontend
  | allowRedirect
  | revokeRedirect
  | backendInfo
  | setBackendInfo
  | removeBackendInfo
  | setBackendIfindex
  | removeBackendIfindex
  /-- The writes of one slot of the round-robin table. -/
  | slot (n : Nat)
  /-- The writes of any slot. -/
  | setSlot
  | removeFlow
  | probe
  | resolve
  | attach
  | detach
  | counter (protocol : UInt32)
  deriving DecidableEq, Repr

def Operation.name : Operation → String
  | insertRule => "insert_rule"
  | removeRule => "remove_rule"
  | matcher => "matcher"
  | setMatcher => "set_matcher"
  | insertAdvRule => "insert_adv_rule"
  | removeAdvRule => "remove_adv_rule"
  | dropCount => "drop_count"
  | removeDropCounter => "remove_drop_counter"
  | counters => "counters"
  | setFrontend => "set_upstream"
  | allowRedirect => "allow_redirect"
  | revokeRedirect => "revoke_redirect"
  | backendInfo => "backend_info"
  | setBackendInfo => "set_backend_info"
  | removeBackendInfo => "remove_backend_info"
  | setBackendIfindex => "set_backend_ifindex"
  | removeBackendIfindex => "remove_backend_ifindex"
  | slot n => s!"slot {n}"
  | setSlot => "set_rr_slot"
  | removeFlow => "remove"
  | probe => "probe"
  | resolve => "resolve"
  | attach => "attach"
  | detach => "detach"
  | counter protocol => s!"counter {protocol}"

def Operation.simple : List Operation :=
  [insertRule, removeRule, matcher, setMatcher, insertAdvRule, removeAdvRule, dropCount,
    removeDropCounter, counters, setFrontend, allowRedirect, revokeRedirect, backendInfo,
    setBackendInfo, removeBackendInfo, setBackendIfindex, removeBackendIfindex, setSlot,
    removeFlow, probe, resolve, attach, detach]

def Operation.ofName? (name : String) : Option Operation := simple.find? fun op => op.name == name

def Operation.failure (op : Operation) : ServiceError := .engine s!"{op.name} failed (injected)"

structure Faults where
  asked : Nat := 0
  plan : Nat → Operation → Bool := fun _ _ => false

namespace Faults

def none : Faults := {}

def inject (f : Faults) (op : Operation) : Faults :=
  {f with plan := fun n o => o == op || f.plan n o}

def heal (f : Faults) (op : Operation) : Faults :=
  {f with plan := fun n o => o != op && f.plan n o}

def fails (f : Faults) (op : Operation) : Bool := f.plan f.asked op

def next (f : Faults) : Faults := {f with asked := f.asked + 1}

end Faults
end EdgeControl
