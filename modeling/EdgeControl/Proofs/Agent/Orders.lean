import EdgeControl.Agent.Lifecycle
import EdgeControl.Proofs.Balancer.Frames
import EdgeControl.Proofs.Flood.Frames

/-!
What an agent is asked for while it runs, on any host. Only its balancer attaches and detaches
devices, and nothing that is asked for touches the link that the agent itself holds.
-/
namespace EdgeControl

open EdgeControl.Action

namespace Traffic.Service

variable {P : Type} [PacketCounters P] {inner : P → P → Prop} [Std.Refl inner]
  [Trans inner inner inner] [PacketCounters.Within inner]

theorem report_along : Confined (Along base inner) (report : Action (Service P) Unit) := by
  have counted (protocol : Protocol) : Confined (Along base inner) (count (P := P) protocol) :=
    fun s log => PacketCounters.Within.packetCount protocol.number s.base log
  have read : Confined (Along base inner) (stats : Action (Service P) Stats) :=
    .bind .get fun _ => .bind (counted _) fun _ => .bind (counted _) fun _ =>
      .bind (counted _) fun _ => .pure _
  refine .bind (.result read) ?_
  rintro (e | stats)
  · exact .note _
  · exact .note _

end Traffic.Service

namespace Agent

variable {P α : Type}

inductive Order where
  | floodPass
  | flowPass (now : Instant)
  | trafficPass
  | setRule (rule : Firewall.Rule)
  | deleteRule (id : UInt32)
  | listRules
  | setPolicy (policy : Flood.Policy)
  | deletePolicy (id : UInt32)
  | setBackend (spec : Balancer.Spec)
  | drain (id : UInt32)
  | delete (id : UInt32)
  | deleteAll

section Orders

variable [FirewallTables P] [FloodCounters P] [BalancerTables P] [FlowTable P] [Neighbors P]
  [PacketCounters P] [Attacher P]

def Order.action : Order → Action (Agent P) Unit
  | floodPass => floodJob.pass
  | flowPass now => (flowJob {} now).pass
  | trafficPass => trafficJob.pass
  | setRule rule => discard (onFlood (Flood.Service.onFirewall (Firewall.Service.setRule rule)))
  | deleteRule id => onFlood (Flood.Service.onFirewall (Firewall.Service.deleteRule id))
  | listRules => discard (onFlood (Flood.Service.onFirewall Firewall.Service.rules))
  | setPolicy policy => discard (onFlood (Flood.Service.setPolicy policy))
  | deletePolicy id => onFlood (Flood.Service.deletePolicy id)
  | setBackend spec => discard (onBalancer (Balancer.Service.setBackend spec))
  | drain id => onBalancer (Balancer.Service.drain id)
  | delete id => onBalancer (Balancer.Service.delete id)
  | deleteAll => onBalancer Balancer.Service.deleteAll

def carryOut (orders : List Order) : Action (Agent P) Unit :=
  orders.forM fun o => discard o.action.result

end Orders

/-- A change of the balancer, with whatever becomes of the other services. -/
structure Calm (change : Balancer.Service P → Balancer.Service P → Prop) (a b : Agent P) :
    Prop where
  held : b.held = a.held
  balancer : change a.balancer b.balancer

section Calm

variable {inner : P → P → Prop} {change : Balancer.Service P → Balancer.Service P → Prop}

instance [Std.Refl change] : Std.Refl (Calm change) := ⟨fun _ => ⟨rfl, Std.Refl.refl _⟩⟩

instance [Trans change change change] : Trans (Calm change) (Calm change) (Calm change) :=
  ⟨fun first rest => ⟨rest.held.trans first.held, Trans.trans first.balancer rest.balancer⟩⟩

theorem onBalancer_calm {act : Action (Balancer.Service P) α} (h : Confined change act) :
    Confined (Calm change) (onBalancer act) :=
  fun a log => ⟨rfl, h a.balancer log⟩

section Lifts

variable (lifts : Balancer.Service.Lifts inner change)
include lifts

theorem onFlood_calm {act : Action (Flood.Service P) α}
    (h : Confined (Along Flood.Service.base inner) act) : Confined (Calm change) (onFlood act) :=
  fun a log => ⟨rfl, lifts.base a.balancer _ (h a.flood log)⟩

theorem onTraffic_calm {act : Action (Traffic.Service P) α}
    (h : Confined (Along Traffic.Service.base inner) act) :
    Confined (Calm change) (onTraffic act) :=
  fun a log => ⟨rfl, lifts.base a.balancer _ (h a.traffic log)⟩

variable [Std.Refl inner] [Trans inner inner inner] [Std.Refl change] [Trans change change change]

theorem installRule_calm [FirewallTables P] [FirewallTables.Within inner] (r : Config.Rule) :
    Confined (Calm change) (installRule r) :=
  .bind (.ofExcept _ _) fun _ => .discard (onFlood_calm lifts
    (Flood.Service.onFirewall_along Firewall.Service.setRule_along))

theorem installPolicy_calm (p : Config.Policy) : Confined (Calm change) (installPolicy p) :=
  .bind (.ofExcept _ _) fun _ => .discard (onFlood_calm lifts (Flood.Service.setPolicy_along _))

end Lifts

variable [Attacher P] (covers : Balancer.Service.Covers inner change) [Std.Refl change]
  [Trans change change change] [BalancerTables P] [BalancerTables.Within inner] [Neighbors P]
  [Neighbors.Within inner]
include covers

theorem tryBackend_calm (spec : Balancer.Spec) : Confined (Calm change) (tryBackend spec) := by
  refine .bind (.result (onBalancer_calm (covers.setBackend spec))) ?_
  rintro (e | id)
  · exact .note _
  · exact .pure _

variable [Std.Refl inner] [Trans inner inner inner] [FirewallTables P]
  [FirewallTables.Within inner] [FloodCounters P] [FloodCounters.Within inner] [FlowTable P]
  [FlowTable.Within inner] [PacketCounters P] [PacketCounters.Within inner]
  (tracker : ∀ (s : Balancer.Service P) tracker, change s {s with tracker})
include tracker

theorem Order.action_calm (o : Order) :
    Confined (Calm change) (o.action : Action (Agent P) Unit) := by
  have lifts : Balancer.Service.Lifts inner change := covers.toLifts
  cases o with
  | floodPass => exact onFlood_calm lifts (.discard Flood.Service.tick_along)
  | flowPass now =>
    have passed : Confined change (Balancer.Service.job (P := P) {} now).pass := by
      refine .bind (.result (lifts.syncFlows tracker now)) ?_
      rintro (e | count)
      · exact .note _
      · exact .pure _
    exact onBalancer_calm passed
  | trafficPass => exact onTraffic_calm lifts Traffic.Service.report_along
  | setRule rule =>
    exact .discard (onFlood_calm lifts
      (Flood.Service.onFirewall_along Firewall.Service.setRule_along))
  | deleteRule id =>
    exact onFlood_calm lifts (Flood.Service.onFirewall_along Firewall.Service.deleteRule_along)
  | listRules =>
    exact .discard (onFlood_calm lifts
      (Flood.Service.onFirewall_along Firewall.Service.rules_along))
  | setPolicy policy => exact .discard (onFlood_calm lifts (Flood.Service.setPolicy_along policy))
  | deletePolicy id => exact onFlood_calm lifts (Flood.Service.deletePolicy_along id)
  | setBackend spec => exact .discard (onBalancer_calm (covers.setBackend spec))
  | drain id => exact onBalancer_calm (covers.drain id)
  | delete id => exact onBalancer_calm (covers.delete id)
  | deleteAll => exact onBalancer_calm covers.deleteAll

theorem carryOut_calm (orders : List Order) : Confined (Calm change) (carryOut orders) :=
  .forM fun o => .discard (.result (o.action_calm covers tracker))

end Calm
end Agent
end EdgeControl
