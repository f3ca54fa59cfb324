import EdgeControl.DataPlane
import EdgeControl.Report

/-!
The tables of the data plane as JSON.
-/
namespace EdgeControl.Report

def networkCells (n : Network) : List Json := [toJson n.prefixLen, toJson n.addr]

def cell {κ : Type} [JsonForm κ] (k : κ) : List Json := [toJson k]

def firewallTables (rules : List (Network × Firewall.RuleEntry))
    (matchers : List (Network × Firewall.Matcher)) (advRules : List (UInt32 × Firewall.RuleEntry))
    (dropCounters : List (UInt32 × UInt64)) : List (String × Json) := [
  ("rules", table networkCells Firewall.RuleEntry.toJson rules),
  ("matchers", table networkCells Firewall.Matcher.toJson matchers),
  ("adv_rules", table cell Firewall.RuleEntry.toJson advRules),
  ("drop_counters", toJson dropCounters)]

def takenSlots (slots : List UInt32) : List UInt32 :=
  (slots.reverse.dropWhile (· == 0)).reverse

def backendTables (backendInfo : List (UInt32 × Balancer.BackendInfo))
    (backendIfindex : List (UInt32 × UInt32)) (slots : List UInt32) : List (String × Json) := [
  ("backend_info", table cell Balancer.BackendInfo.toJson backendInfo),
  ("backend_ifindex", toJson backendIfindex),
  ("rr_table", toJson (takenSlots slots))]

end EdgeControl.Report
