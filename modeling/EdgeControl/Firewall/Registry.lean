import EdgeControl.Firewall.Rule
import Std.Data.ExtTreeMap

/-!
The rules that the firewall has installed, and the ids it gives out. An id goes to one rule only:
it stays used up when the installation of that rule fails half way.
-/
namespace EdgeControl.Firewall

/-- The greatest id that a slot of a matcher can hold. -/
def lastRuleId : Nat := 65535

structure Registry where
  rules : Std.ExtTreeMap UInt32 Rule := ∅
  nextId : UInt32 := 1

namespace Registry

instance : EmptyCollection Registry := ⟨{}⟩

/-- Checks a rule and gives it the next id. It is not installed yet. -/
def prepare (r : Registry) (rule : Rule) : Except RuleError (Rule × Registry) := do
  rule.validate
  if lastRuleId < r.nextId.toNat then
    throw (.idsExhausted lastRuleId)
  return ({rule with id := r.nextId, dropCount := 0}, {r with nextId := r.nextId + 1})

def insert (r : Registry) (rule : Rule) : Registry :=
  {r with rules := r.rules.insert rule.id rule}

def get? (r : Registry) (id : UInt32) : Option Rule := r.rules[id]?

def erase (r : Registry) (id : UInt32) : Registry := {r with rules := r.rules.erase id}

def toList (r : Registry) : List Rule := r.rules.values

def size (r : Registry) : Nat := r.rules.size

end Registry
end EdgeControl.Firewall
