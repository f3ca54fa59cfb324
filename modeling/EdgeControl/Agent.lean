import EdgeControl.Balancer.Service
import EdgeControl.Flood.Service
import EdgeControl.Traffic

/-!
The agent: its services on one host. Each service is a view of the agent, and the host is in every
view, so what one service does there the others find.
-/
namespace EdgeControl

structure Agent (P : Type) where
  device : String := ""
  rules : Firewall.Registry := ∅
  monitor : Flood.Monitor := ∅
  balancer : Balancer.Service P
  /-- The link to the device that faces the clients. -/
  held : Option Link := none

namespace Agent

variable {P α : Type}

def base (a : Agent P) : P := a.balancer.base

def withBase (a : Agent P) (base : P) : Agent P :=
  {a with balancer := {a.balancer with base}}

def withBalancer (a : Agent P) (balancer : Balancer.Service P) : Agent P := {a with balancer}

def onBalancer (act : Action (Balancer.Service P) α) : Action (Agent P) α :=
  .onPart balancer withBalancer act

def firewall (a : Agent P) : Firewall.Service P := ⟨a.rules, a.base⟩

def withFirewall (a : Agent P) (s : Firewall.Service P) : Agent P :=
  {a.withBase s.base with rules := s.registry}

def flood (a : Agent P) : Flood.Service P := ⟨a.monitor, a.firewall⟩

def withFlood (a : Agent P) (s : Flood.Service P) : Agent P :=
  {a.withFirewall s.firewall with monitor := s.monitor}

def onFlood (act : Action (Flood.Service P) α) : Action (Agent P) α :=
  .onPart flood withFlood act

def traffic (a : Agent P) : Traffic.Service P := ⟨a.device, a.balancer.frontend.ifindex, a.base⟩

def withTraffic (a : Agent P) (s : Traffic.Service P) : Agent P := a.withBase s.base

def onTraffic (act : Action (Traffic.Service P) α) : Action (Agent P) α :=
  .onPart traffic withTraffic act

def attachFrontend [Attacher P] : Action (Agent P) UInt32 := do
  let link ← onBalancer Balancer.Service.attachFrontend
  modify fun a => {a with held := some link}
  return link.ifindex

def detachFrontend [Attacher P] : Action (Agent P) Unit := do
  let a ← get
  set {a with held := none}
  if let some link := a.held then
    onBalancer (Balancer.Service.onBase (Attacher.detach link))

def floodJob [FirewallTables P] [FloodCounters P] : Job (Agent P) :=
  Flood.Service.job.onPart flood withFlood

def flowJob [FlowTable P] (settings : Flow.Settings) (now : Instant) : Job (Agent P) :=
  (Balancer.Service.job settings now).onPart balancer withBalancer

def trafficJob [PacketCounters P] : Job (Agent P) :=
  Traffic.Service.job.onPart traffic withTraffic

end Agent
end EdgeControl
