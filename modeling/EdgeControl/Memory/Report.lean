import EdgeControl.Memory
import EdgeControl.Report.Tables

/-!
The tables of a host in memory as JSON.
-/
namespace EdgeControl.Memory

def firewallReport (m : Memory) : List (String × Json) :=
  Report.firewallTables m.rules.toList m.matchers.toList m.advRules.toList m.dropCounters.toList

def balancerReport (m : Memory) : List (String × Json) :=
  Report.backendTables m.backendInfo.toList m.backendIfindex.toList m.slots.toList ++ [
    ("upstream", (m.frontend.map Balancer.FrontendInfo.toJson).getD .null),
    ("redirect", toJson m.redirect.toList),
    ("attached", toJson m.attached.toList),
    ("detached", toJson (m.detached.mergeSort (· ≤ ·))),
    ("probed", toJson m.probed),
    ("kernel_flows", toJson m.flows.keys),
    ("kernel_len", toJson m.flows.size)]

end EdgeControl.Memory
