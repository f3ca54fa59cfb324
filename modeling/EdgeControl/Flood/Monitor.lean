import EdgeControl.Flood.Policy
import Std.Data.ExtTreeMap

/-!
The flood monitor: the policies, and the last count read from each counter of the data plane. One
reading of all counters turns into the firewall rules that should be installed. Installing them
is the caller's work, who then records each installed rule with the policy that asked for it.
-/
namespace EdgeControl.Flood

structure Mitigation where
  policyId : UInt32
  source : Ipv4
  rule : Firewall.Rule
  deriving DecidableEq, Repr

structure Evaluation where
  mitigations : List Mitigation := []
  skipped : List CounterKey := []

structure Monitor where
  policies : Std.ExtTreeMap UInt32 Policy := ∅
  counts : Std.ExtTreeMap CounterKey UInt64 := ∅
  nextId : UInt32 := 1

namespace Monitor

instance : EmptyCollection Monitor := ⟨{}⟩

/-- Registers a policy under the next id, with nothing blocked whatever it came with. -/
def insert (m : Monitor) (policy : Policy) : Except PolicyError (UInt32 × Monitor) := do
  policy.validate
  let policy := {policy with id := m.nextId, status := .notTriggered, ruleIds := [], blocked := ∅}
  return (m.nextId,
    {m with policies := m.policies.insert m.nextId policy, nextId := m.nextId + 1})

def get? (m : Monitor) (id : UInt32) : Option Policy := m.policies[id]?

def erase (m : Monitor) (id : UInt32) : Monitor := {m with policies := m.policies.erase id}

def toList (m : Monitor) : List Policy := m.policies.values

def size (m : Monitor) : Nat := m.policies.size

def lastCount? (m : Monitor) (key : CounterKey) : Option UInt64 := m.counts[key]?

/-- How far a counter has grown since it was last read. One that is new grew from 0, and one that
went back has not grown. -/
def growth (m : Monitor) (key : CounterKey) (count : UInt64) : Nat :=
  count.toNat - ((m.lastCount? key).getD 0).toNat

def mitigation? (protocol : Protocol) (key : CounterKey) (growth : Nat) (policy : Policy) :
    Option Mitigation :=
  if policy.watches protocol key && policy.limit.toNat < growth &&
      !policy.blocked.contains key.source then
    some ⟨policy.id, key.source, .blockHost key.source protocol⟩
  else none

def observe (m : Monitor) (key : CounterKey) (count : UInt64) : Evaluation × Monitor :=
  let after := {m with counts := m.counts.insert key count}
  match Protocol.ofNumber key.protocol.toUInt32 with
  | .error _ => ({skipped := [key]}, after)
  | .ok protocol =>
    ({mitigations := m.toList.filterMap (mitigation? protocol key (m.growth key count))}, after)

/-- Takes a reading of the counters into account, in the order in which it lists them. -/
def evaluate (m : Monitor) : List (CounterKey × UInt64) → Evaluation × Monitor
  | [] => ({}, m)
  | (key, count) :: rest =>
    let (first, m) := m.observe key count
    let (others, m) := m.evaluate rest
    (⟨first.mitigations ++ others.mitigations, first.skipped ++ others.skipped⟩, m)

def record (m : Monitor) (policyId ruleId : UInt32) (source : Ipv4) :
    Except PolicyError Monitor :=
  match m.get? policyId with
  | none => .error (.notFound policyId)
  | some p =>
    let p := {p with
      ruleIds := p.ruleIds ++ [ruleId]
      blocked := p.blocked.insert source
      status := .triggered}
    .ok {m with policies := m.policies.insert policyId p}

end Monitor
end EdgeControl.Flood
