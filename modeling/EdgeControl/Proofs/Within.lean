import EdgeControl.DataPlane
import EdgeControl.Proofs.Ensures

/-!
Hosts whose operations make only changes of one kind. There is one class for each group of
operations, so that a service asks only for those that it uses.
-/
namespace EdgeControl

open EdgeControl.Action

namespace Action

variable {σ τ α : Type}

def Along (part : σ → τ) (change : τ → τ → Prop) (s t : σ) : Prop := change (part s) (part t)

instance {part : σ → τ} {change : τ → τ → Prop} [Std.Refl change] :
    Std.Refl (Along part change) :=
  ⟨fun s => Std.Refl.refl (part s)⟩

instance {part : σ → τ} {change : τ → τ → Prop} [Trans change change change] :
    Trans (Along part change) (Along part change) (Along part change) :=
  ⟨fun {a b c} (first : change (part a) (part b)) (rest : change (part b) (part c)) =>
    (Trans.trans first rest : change (part a) (part c))⟩

def Anything (_ _ : σ) : Prop := True

instance : Std.Refl (Anything (σ := σ)) := ⟨fun _ => trivial⟩

instance : Trans (Anything (σ := σ)) Anything Anything := ⟨fun _ _ => trivial⟩

theorem confined_anything (act : Action σ α) : Confined Anything act := fun _ _ => trivial

namespace Confined

variable {change : σ → σ → Prop} {act : Action σ α}

theorem orNote {event : ServiceError → LogEvent} (h : Confined change act) :
    Confined change (act.orNote event) :=
  fun s => .orNote (h s)

theorem discard [Std.Refl change] [Trans change change change] (h : Confined change act) :
    Confined change (discard act) := by
  rw [show (Functor.discard act : Action σ PUnit) = act >>= fun _ => Pure.pure ⟨⟩ from rfl]
  exact bind h fun _ => pure _

end Confined
end Action

variable {P : Type} (change : P → P → Prop)

class FirewallTables.Within [FirewallTables P] : Prop where
  insertRule (network : Network) (entry : Firewall.RuleEntry) :
    Confined change (FirewallTables.insertRule network entry)
  removeRule (network : Network) : Confined change (FirewallTables.removeRule network)
  matcher? (network : Network) : Confined change (FirewallTables.matcher? network)
  setMatcher (network : Network) (matcher : Firewall.Matcher) :
    Confined change (FirewallTables.setMatcher network matcher)
  insertAdvRule (id : UInt32) (entry : Firewall.RuleEntry) :
    Confined change (FirewallTables.insertAdvRule id entry)
  removeAdvRule (id : UInt32) : Confined change (FirewallTables.removeAdvRule id)
  dropCount? (id : UInt32) : Confined change (FirewallTables.dropCount? id)
  removeDropCounter (id : UInt32) : Confined change (FirewallTables.removeDropCounter id)

class FloodCounters.Within [FloodCounters P] : Prop where
  counters : Confined change FloodCounters.counters

class BalancerTables.Within [BalancerTables P] : Prop where
  setFrontend (info : Balancer.FrontendInfo) : Confined change (BalancerTables.setFrontend info)
  allowRedirect (ifindex : UInt32) : Confined change (BalancerTables.allowRedirect ifindex)
  revokeRedirect (ifindex : UInt32) : Confined change (BalancerTables.revokeRedirect ifindex)
  backendInfo? (id : UInt32) : Confined change (BalancerTables.backendInfo? id)
  setBackendInfo (id : UInt32) (info : Balancer.BackendInfo) :
    Confined change (BalancerTables.setBackendInfo id info)
  removeBackendInfo (id : UInt32) : Confined change (BalancerTables.removeBackendInfo id)
  setBackendIfindex (ifindex id : UInt32) :
    Confined change (BalancerTables.setBackendIfindex ifindex id)
  removeBackendIfindex (ifindex : UInt32) :
    Confined change (BalancerTables.removeBackendIfindex ifindex)
  setSlot (slot : Nat) (id : UInt32) : Confined change (BalancerTables.setSlot slot id)

class FlowTable.Within [FlowTable P] : Prop where
  flows : Confined change FlowTable.flows
  removeFlow (key : Flow.Key) : Confined change (FlowTable.removeFlow key)

class Neighbors.Within [Neighbors P] : Prop where
  probe (addr : Ipv4) : Confined change (Neighbors.probe addr)
  resolve (addr : Ipv4) : Confined change (Neighbors.resolve addr)

class PacketCounters.Within [PacketCounters P] : Prop where
  packetCount (protocol : UInt32) : Confined change (PacketCounters.packetCount protocol)

/-! ### Changes of any kind -/

instance [BalancerTables P] : BalancerTables.Within (Anything (σ := P)) := by
  constructor
  all_goals
    intros
    exact confined_anything _

instance [Neighbors P] : Neighbors.Within (Anything (σ := P)) := by
  constructor
  all_goals
    intros
    exact confined_anything _

end EdgeControl
