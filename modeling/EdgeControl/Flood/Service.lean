import EdgeControl.Firewall.Service
import EdgeControl.Flood.Monitor
import EdgeControl.Loop

/-!
The flood service reads the data plane's packet counters, and has the firewall block each source
that sent more than a policy allows. It shares the firewall with the operator.
-/
namespace EdgeControl.Flood

structure Service (P : Type) where
  monitor : Monitor := ∅
  firewall : Firewall.Service P

namespace Service

variable {P : Type} {α : Type}

def onFirewall (act : Action (Firewall.Service P) α) : Action (Service P) α :=
  .onPart Service.firewall (fun s firewall => {s with firewall}) act

def setPolicy (policy : Policy) : Action (Service P) UInt32 := do
  let s ← get
  let (id, monitor) ← Action.ofExcept PolicyError.toService (s.monitor.insert policy)
  set {s with monitor}
  .note (.info "DoS protection policy registered"
    [("id", id), ("protocol", .display policy.protocol), ("limit", policy.limit.toNat)])
  return id

/-- Removes the policy with an id and the rules it installed. Nothing happens when there is no
such policy. It is kept when a rule cannot be removed. -/
def deletePolicy [FirewallTables P] (id : UInt32) : Action (Service P) Unit := do
  let some policy := (← get).monitor.get? id | return
  onFirewall (policy.ruleIds.forM Firewall.Service.deleteRule)
  modify fun s => {s with monitor := s.monitor.erase id}
  .note (.info "DoS protection policy deleted" [("id", id)])

def mitigate [FirewallTables P] (m : Mitigation) : Action (Service P) Bool := do
  match ← (onFirewall (Firewall.Service.setRule m.rule)).result with
  | .error e =>
    .note (.warn "failed to install blocking rule"
      [("policy_id", m.policyId), ("source", .display m.source), ("error", .display e)])
    return false
  | .ok ruleId =>
    let s ← get
    match s.monitor.record m.policyId ruleId m.source with
    | .error e =>
      .note (.warn "mitigation not recorded"
        [("policy_id", m.policyId), ("error", e.message)])
      return false
    | .ok monitor =>
      set {s with monitor}
      .note (.info "limit exceeded, DoS protection triggered"
        [("policy_id", m.policyId), ("source", .display m.source),
          ("protocol", .display m.rule.protocol), ("rule_id", ruleId)])
      return true

def skippedEvent (key : CounterKey) : LogEvent :=
  .warn "invalid transport protocol in dosp_counter, identifier skipped"
    [("protocol", key.protocol.toNat), ("flag", key.flag.toNat)]

/-- One pass over the counters. Gives the number of rules installed. Nothing is evaluated when the
counters cannot be read. -/
def tick [FirewallTables P] [FloodCounters P] : Action (Service P) Nat := do
  match ← (onFirewall (Firewall.Service.onBase FloodCounters.counters)).result with
  | .error e =>
    .note (.warn "failed to read dosp_counter, retrying next tick" [("error", .display e)])
    return 0
  | .ok observed =>
    .note (.debug "dosp_counter read" [("entries", observed.length)])
    let s ← get
    let (evaluation, monitor) := s.monitor.evaluate observed
    set {s with monitor}
    evaluation.skipped.forM fun key => .note (skippedEvent key)
    let installed ← evaluation.mitigations.mapM mitigate
    return installed.count true

def job [FirewallTables P] [FloodCounters P] : Job (Service P) where
  lateness := .delay
  pass := discard tick
  stopped := [.info "DoS protection loop stopped"]

/-- The time between two readings of the counters, in nanoseconds. The limits of policies are
counts for this time. -/
def pollInterval : Nat := 1000000000

end Service
end EdgeControl.Flood
