import EdgeControl.Action
import EdgeControl.Balancer.Backend
import EdgeControl.Firewall.Matcher
import EdgeControl.Firewall.Rule
import EdgeControl.Flood.Policy
import EdgeControl.Flow.Entry

/-!
What the services ask of the host: the data plane's tables, the neighbor table, and the attachment
of the packet program to devices. A type with these operations can stand under a service, be it a
kernel or a set of tables in memory.
-/
namespace EdgeControl

/-- The firewall's tables. A network has one record and one matcher; each rule has a record under
its id, and a counter of the packets it dropped. -/
class FirewallTables (σ : Type) where
  insertRule : Network → Firewall.RuleEntry → Action σ Unit
  removeRule : Network → Action σ Unit
  matcher? : Network → Action σ (Option Firewall.Matcher)
  setMatcher : Network → Firewall.Matcher → Action σ Unit
  insertAdvRule : UInt32 → Firewall.RuleEntry → Action σ Unit
  removeAdvRule : UInt32 → Action σ Unit
  dropCount? : UInt32 → Action σ (Option UInt64)
  removeDropCounter : UInt32 → Action σ Unit

/-- The packet counters that the flood monitor reads, all in one reading. -/
class FloodCounters (σ : Type) where
  counters : Action σ (List (Flood.CounterKey × UInt64))

class BalancerTables (σ : Type) where
  setFrontend : Balancer.FrontendInfo → Action σ Unit
  allowRedirect : UInt32 → Action σ Unit
  revokeRedirect : UInt32 → Action σ Unit
  backendInfo? : UInt32 → Action σ (Option Balancer.BackendInfo)
  setBackendInfo : UInt32 → Balancer.BackendInfo → Action σ Unit
  removeBackendInfo : UInt32 → Action σ Unit
  setBackendIfindex : UInt32 → UInt32 → Action σ Unit
  removeBackendIfindex : UInt32 → Action σ Unit
  setSlot : Nat → UInt32 → Action σ Unit

/-- The table of tracked flows. A reading may have items that could not be read. -/
class FlowTable (σ : Type) where
  flows : Action σ (List (Except ServiceError (Flow.Key × Flow.Info)))
  removeFlow : Flow.Key → Action σ Unit

/-- The neighbors of the host. A probe makes the host look for one. -/
class Neighbors (σ : Type) where
  probe : Ipv4 → Action σ Unit
  resolve : Ipv4 → Action σ (Option Balancer.Neighbor)

structure Link where
  ifindex : UInt32
  deriving DecidableEq, Repr

/-- Attaching the packet program to devices. Detaching uses the link up, even when it fails. -/
class Attacher (σ : Type) where
  attach : UInt32 → Action σ Link
  detach : Link → Action σ Unit

class PacketCounters (σ : Type) where
  packetCount : UInt32 → Action σ UInt64

end EdgeControl
