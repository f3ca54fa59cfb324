import EdgeControl.Firewall.Service
import EdgeControl.Proofs.Memory

/-!
What a firewall and its tables hold between two steps, and everything that setting and deleting a
rule can do to it. A case that needs a failure of the host names the operation that fails.
-/
namespace EdgeControl.Firewall

structure Snapshot where
  registry : Registry
  rules : Std.ExtTreeMap Network RuleEntry
  matchers : Std.ExtTreeMap Network Matcher
  advRules : Std.ExtTreeMap UInt32 RuleEntry
  dropCounters : Std.ExtTreeMap UInt32 UInt64

namespace Service

def snapshot (s : Service Memory) : Snapshot where
  registry := s.registry
  rules := s.base.rules
  matchers := s.base.matchers
  advRules := s.base.advRules
  dropCounters := s.base.dropCounters

end Service

namespace Snapshot

variable (may : Operation → Prop) (v : Snapshot) (rule : Rule)

/-! ### Stages of setting a rule -/

def entered (registry : Registry) : Snapshot := {v with
  registry
  rules := v.rules.insert rule.network rule.entry}

/-- The id is put into the matcher that was read, if it has room. -/
def enlist (matcher : Matcher) : Snapshot := {v with
  matchers := v.matchers.insert rule.network ((matcher.insert? rule.id).getD matcher)}

def listed (registry : Registry) (matcher : Matcher) : Snapshot :=
  (v.entered rule registry).enlist rule matcher

def installed (registry : Registry) (matcher : Matcher) : Snapshot :=
  {v.listed rule registry matcher with
    advRules := v.advRules.insert rule.id rule.entry
    registry := registry.insert rule}

/-! ### Stages of deleting a rule -/

/-- The network has the record of the newest other rule, or none. -/
def released : Snapshot := {v with
  rules := match Service.survivor? v.registry rule with
    | some kept => v.rules.insert rule.network kept.entry
    | none => v.rules.erase rule.network}

def delist (matcher : Matcher) : Snapshot :=
  {v with matchers := v.matchers.insert rule.network (matcher.erase rule.id)}

def unlisted (counters : Std.ExtTreeMap UInt32 UInt64) (matcher : Matcher) : Snapshot :=
  delist {v.released rule with dropCounters := counters} rule matcher

def deleted (id : UInt32) (counters : Std.ExtTreeMap UInt32 UInt64) (matcher : Matcher) :
    Snapshot := {v.unlisted rule counters matcher with
  advRules := v.advRules.erase id
  registry := v.registry.erase id}

/-- What can be read as the matcher of a network. One that cannot be read counts as empty. -/
def Reads (network : Network) (matcher : Matcher) : Prop :=
  matcher = v.matchers[network]?.getD .empty ∨ (may .matcher ∧ matcher = .empty)

def Uncounts (id : UInt32) (counters : Std.ExtTreeMap UInt32 UInt64) : Prop :=
  counters = v.dropCounters.erase id ∨ (may .removeDropCounter ∧ counters = v.dropCounters)

/-- Setting a rule. What was written before a failure stays, and so the id is used up. -/
inductive Setting (given : Rule) : Except ServiceError UInt32 → Snapshot → Prop
  | refused (e : RuleError) (invalid : v.registry.prepare given = .error e) :
      Setting given (.error e.toService) v
  | unentered (rule : Rule) (registry : Registry)
      (prepared : v.registry.prepare given = .ok (rule, registry)) (fault : may .insertRule) :
      Setting given (.error Operation.insertRule.failure) {v with registry}
  | unlisted (rule : Rule) (registry : Registry)
      (prepared : v.registry.prepare given = .ok (rule, registry)) (fault : may .setMatcher) :
      Setting given (.error Operation.setMatcher.failure) (v.entered rule registry)
  | unrecorded (rule : Rule) (registry : Registry)
      (prepared : v.registry.prepare given = .ok (rule, registry)) (matcher : Matcher)
      (read : v.Reads may rule.network matcher) (fault : may .insertAdvRule) :
      Setting given (.error Operation.insertAdvRule.failure) (v.listed rule registry matcher)
  | installed (rule : Rule) (registry : Registry)
      (prepared : v.registry.prepare given = .ok (rule, registry)) (matcher : Matcher)
      (read : v.Reads may rule.network matcher) :
      Setting given (.ok rule.id) (v.installed rule registry matcher)

inductive Deleting (id : UInt32) : Except ServiceError Unit → Snapshot → Prop
  | unknown (absent : v.registry.get? id = none) : Deleting id (.ok ()) v
  | unreleased (rule : Rule) (known : v.registry.get? id = some rule) (e : ServiceError)
      (fault : may .insertRule ∨ may .removeRule ∨
        (Service.survivor? v.registry rule = none ∧ v.rules.contains rule.network = false)) :
      Deleting id (.error e) v
  | listed (rule : Rule) (known : v.registry.get? id = some rule)
      (counters : Std.ExtTreeMap UInt32 UInt64) (counted : v.Uncounts may id counters)
      (fault : may .setMatcher) :
      Deleting id (.error Operation.setMatcher.failure)
        {v.released rule with dropCounters := counters}
  | recorded (rule : Rule) (known : v.registry.get? id = some rule)
      (counters : Std.ExtTreeMap UInt32 UInt64) (counted : v.Uncounts may id counters)
      (matcher : Matcher) (read : v.Reads may rule.network matcher) (e : ServiceError)
      (fault : may .removeAdvRule ∨ v.advRules.contains id = false) :
      Deleting id (.error e) (v.unlisted rule counters matcher)
  | deleted (rule : Rule) (known : v.registry.get? id = some rule)
      (counters : Std.ExtTreeMap UInt32 UInt64) (counted : v.Uncounts may id counters)
      (matcher : Matcher) (read : v.Reads may rule.network matcher)
      (recorded : v.advRules.contains id = true) :
      Deleting id (.ok ()) (v.deleted rule id counters matcher)

end Snapshot
end EdgeControl.Firewall
