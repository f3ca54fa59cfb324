import EdgeControl.DataPlane
import EdgeControl.Firewall.Registry

/-!
The firewall service keeps the data plane's tables in step with the installed rules. Rules on one
network share its record and its matcher; the record is that of the newest of them.
-/
namespace EdgeControl.Firewall

structure Service (P : Type) where
  registry : Registry := ∅
  base : P

namespace Service

variable {P : Type} {α : Type}

def onBase (act : Action P α) : Action (Service P) α :=
  .onPart Service.base (fun s base => {s with base}) act

def failureFields (rule : Rule) (e : ServiceError) : List (String × LogField) :=
  [("id", rule.id), ("network", .display rule.network), ("error", .display e)]

/-- Checks a rule and gives it the next id, which stays used up. -/
def prepare (rule : Rule) : Action (Service P) Rule := do
  let s ← get
  let (rule, registry) ← Action.ofExcept RuleError.toService (s.registry.prepare rule)
  set {s with registry}
  return rule

variable [FirewallTables P]

/-- The matcher of the rule's network, or an empty one when it is missing or cannot be read. -/
def matcherOf (rule : Rule) : Action (Service P) Matcher := do
  match ← (onBase (FirewallTables.matcher? rule.network)).result with
  | .ok found => return found.getD .empty
  | .error e =>
    .note (.warn "matcher lookup failed, starting empty" (failureFields rule e))
    return .empty

/-- Puts a rule's id into the matcher of its network. When the matcher is full the rule is
installed without it. -/
def addToMatcher (rule : Rule) : Action (Service P) Unit := do
  let current ← matcherOf rule
  let matcher := (current.insert? rule.id).getD current
  if (current.insert? rule.id).isNone then
    .note (.warn "matcher full, rule id not registered"
      [("id", rule.id), ("network", .display rule.network)])
  .note (.debug "update rule matcher"
    [("network", .display rule.network), ("ids", matcher.render)])
  (onBase (FirewallTables.setMatcher rule.network matcher)).orNote fun e =>
    .warn "matcher update failed" (failureFields rule e)

def dropFromMatcher (rule : Rule) : Action (Service P) Unit := do
  let matcher := (← matcherOf rule).erase rule.id
  .note (.debug "update rule matcher"
    [("network", .display rule.network), ("ids", matcher.render)])
  onBase (FirewallTables.setMatcher rule.network matcher)

/-- Installs a rule and gives its id, which is used up even when a table write fails. -/
def setRule (rule : Rule) : Action (Service P) UInt32 := do
  let rule ← prepare rule
  (onBase (FirewallTables.insertRule rule.network rule.entry)).orNote fun e =>
    .warn "rules update failed" (failureFields rule e)
  addToMatcher rule
  (onBase (FirewallTables.insertAdvRule rule.id rule.entry)).orNote fun e =>
    .warn "adv_rules update failed" (failureFields rule e)
  .note (.info "firewall rule installed"
    [("id", rule.id), ("network", .display rule.network), ("protocol", .display rule.protocol),
      ("ports", .display rule.ports)])
  modify fun s => {s with registry := s.registry.insert rule}
  return rule.id

/-- A rule with the drop counter that the data plane has for it, 0 when it has none or cannot
read it. -/
def withDropCount (rule : Rule) : Action (Service P) Rule := do
  match ← (onBase (FirewallTables.dropCount? rule.id)).result with
  | .ok count => return {rule with dropCount := count.getD 0}
  | .error e =>
    .note (.warn "drop counter lookup failed" [("id", rule.id), ("error", .display e)])
    return {rule with dropCount := 0}

def rules : Action (Service P) (List Rule) := do
  (← get).registry.toList.mapM withDropCount

/-- The newest of the other rules on a rule's network. -/
def survivor? (registry : Registry) (rule : Rule) : Option Rule :=
  (registry.toList.filter fun other =>
    other.id != rule.id && other.network == rule.network).getLast?

/-- Hands the network's record to the newest remaining rule, or removes it with the last one. -/
def releaseNetwork (rule : Rule) : Action (Service P) Unit := do
  match survivor? (← get).registry rule with
  | some kept =>
    .note (.debug "rules entry kept for remaining rules"
      [("id", rule.id), ("network", .display rule.network), ("kept_for", kept.id)])
    onBase (FirewallTables.insertRule rule.network kept.entry)
  | none => onBase (FirewallTables.removeRule rule.network)

/-- Removes the rule with an id. Nothing happens when there is none. -/
def deleteRule (id : UInt32) : Action (Service P) Unit := do
  let some rule := (← get).registry.get? id | return
  releaseNetwork rule
  if let .error e ← (onBase (FirewallTables.removeDropCounter id)).result then
    .note (.debug "drop counter entry not removed" [("id", id), ("error", .display e)])
  dropFromMatcher rule
  onBase (FirewallTables.removeAdvRule id)
  modify fun s => {s with registry := s.registry.erase id}
  .note (.info "firewall rule deleted" [("id", id), ("network", .display rule.network)])

end Service
end EdgeControl.Firewall
