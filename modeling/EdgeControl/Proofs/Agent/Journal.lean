import EdgeControl.Proofs.Balancer.Journal

/-!
A journal of attempts under a whole agent. What is no attempt on a device leaves the journal as it
is.
-/
namespace EdgeControl.Journal

open EdgeControl.Action

variable {P α : Type}

instance [FirewallTables P] : FirewallTables (Journal P) where
  insertRule network entry := onHost (FirewallTables.insertRule network entry)
  removeRule network := onHost (FirewallTables.removeRule network)
  matcher? network := onHost (FirewallTables.matcher? network)
  setMatcher network matcher := onHost (FirewallTables.setMatcher network matcher)
  insertAdvRule id entry := onHost (FirewallTables.insertAdvRule id entry)
  removeAdvRule id := onHost (FirewallTables.removeAdvRule id)
  dropCount? id := onHost (FirewallTables.dropCount? id)
  removeDropCounter id := onHost (FirewallTables.removeDropCounter id)

instance [FloodCounters P] : FloodCounters (Journal P) := ⟨onHost FloodCounters.counters⟩

instance [FlowTable P] : FlowTable (Journal P) where
  flows := onHost FlowTable.flows
  removeFlow key := onHost (FlowTable.removeFlow key)

instance [PacketCounters P] : PacketCounters (Journal P) :=
  ⟨fun protocol => onHost (PacketCounters.packetCount protocol)⟩

/-- A kind of change that takes in whatever happens to the host itself. -/
class Hosted (change : Journal P → Journal P → Prop) : Prop where
  host (j : Journal P) (host : P) : change j {j with host}

instance : Hosted (Same (Journal.attempts : Journal P → _)) := ⟨fun _ _ => rfl⟩

variable {change : Journal P → Journal P → Prop} [Hosted change]

theorem onHost_within {act : Action P α} : Confined change (onHost act) :=
  .onPart Hosted.host act

instance [FirewallTables P] : FirewallTables.Within change where
  insertRule _ _ := onHost_within
  removeRule _ := onHost_within
  matcher? _ := onHost_within
  setMatcher _ _ := onHost_within
  insertAdvRule _ _ := onHost_within
  removeAdvRule _ := onHost_within
  dropCount? _ := onHost_within
  removeDropCounter _ := onHost_within

instance [FloodCounters P] : FloodCounters.Within change := ⟨onHost_within⟩

instance [BalancerTables P] : BalancerTables.Within change where
  setFrontend _ := onHost_within
  allowRedirect _ := onHost_within
  revokeRedirect _ := onHost_within
  backendInfo? _ := onHost_within
  setBackendInfo _ _ := onHost_within
  removeBackendInfo _ := onHost_within
  setBackendIfindex _ _ := onHost_within
  removeBackendIfindex _ := onHost_within
  setSlot _ _ := onHost_within

instance [FlowTable P] : FlowTable.Within change := ⟨onHost_within, fun _ => onHost_within⟩

instance [Neighbors P] : Neighbors.Within change :=
  ⟨fun _ => onHost_within, fun _ => onHost_within⟩

instance [PacketCounters P] : PacketCounters.Within change := ⟨fun _ => onHost_within⟩

end EdgeControl.Journal
