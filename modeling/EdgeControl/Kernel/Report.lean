import EdgeControl.Kernel
import EdgeControl.Report.Tables

/-!
The tables of a kernel as JSON, as someone reads them who is not bound by what the agent may do.
-/
namespace EdgeControl.Kernel

def flowRow (key : Flow.Key) (info : Flow.Info) : Json :=
  .arr [toJson key, toJson info.id, toJson info.status, toJson info.counter]

def report (k : Kernel) : List (String × Json) :=
  Report.firewallTables k.rules.entries.toList k.matchers.entries.toList
    k.advRules.entries.toList k.dropCounters.entries.toList ++
  Report.backendTables k.backendInfo.entries.toList k.backendIfindex.entries.toList
    k.rotation.toList ++ [
    ("upstream", (k.frontend.get 0).toJson),
    ("redirect", toJson k.redirect.entries.toList),
    ("conntrack", .arr (k.flows.entries.toList.map fun (key, info) => flowRow key info)),
    ("xdp", toJson k.attached.toList)]

end EdgeControl.Kernel
