import EdgeControl.Agent
import EdgeControl.Config
import EdgeControl.Kernel.Loading

/-!
The life of an agent: how it is set up on a host, how it installs what its configuration says, and
how it leaves. The device that faces the clients is attached last, when the data plane is filled,
and detached last, when the backends are gone.
-/
namespace EdgeControl.Agent

def frontendOf (h : Host) (device : String) (vip : Ipv4) : Kernel.Loading Balancer.Frontend := do
  let ifindex ← .ofExcept .link ((h.ifindex device).mapError (·.failure))
  let mac ← .ofExcept .link ((h.mac device).mapError (·.failure))
  return {vip, ifindex, mac}

def setUp (c : Config) (h : Host) (file : Except Refusal Kernel.ObjectFile) :
    Kernel.Loading (Agent Kernel) := do
  let frontend ← frontendOf h c.device c.vip
  .note (.info "upstream device resolved"
    [("device", c.device), ("ifindex", frontend.ifindex), ("mac", .display frontend.mac),
      ("vip", .display c.vip)])
  let file ← .ofExcept .load <| file.mapError fun why =>
    ⟨s!"failed to read eBPF object {c.objectPath}", [why.message]⟩
  let base ← Kernel.start {h with patience := c.probeTimeoutMs.toNat} file
  return {device := c.device, balancer := {settings := c.tracking, frontend, base}}

variable {P : Type}

def installRule [FirewallTables P] (r : Config.Rule) : Action (Agent P) Unit := do
  let rule ← Action.ofExcept (fun e => .invalidRule e.message) (r.toRule "firewall.rules")
  discard (onFlood (Flood.Service.onFirewall (Firewall.Service.setRule rule)))

def installPolicy (p : Config.Policy) : Action (Agent P) Unit := do
  let policy ← Action.ofExcept (fun e => .invalidRule e.message)
    (p.toPolicy "dos_protection.policies")
  discard (onFlood (Flood.Service.setPolicy policy))

/-- Registers a backend of the configuration. One that cannot be registered is left out. -/
def tryBackend [BalancerTables P] [Neighbors P] [Attacher P] (spec : Balancer.Spec) :
    Action (Agent P) Unit := do
  if let .error e ← (onBalancer (Balancer.Service.setBackend spec)).result then
    .note (.warn "startup backend not registered (non-fatal)"
      [("name", spec.name), ("addr", .display spec.addr), ("error", .display e)])

variable [FirewallTables P] [BalancerTables P] [Neighbors P] [Attacher P]

/-- Attaches the device that faces the clients. When that fails the backends are let go again. -/
def attachOrShutDown : Action (Agent P) Unit := do
  if let .error e ← (attachFrontend : Action (Agent P) UInt32).result then
    onBalancer Balancer.Service.shutdown
    throw e

/-- Installs everything in the configuration. Rules and policies have to work, backends need
not. -/
def populate (c : Config) : Action (Agent P) Unit := do
  onBalancer Balancer.Service.start
  c.rules.forM installRule
  c.policies.forM installPolicy
  let a ← get
  .note (.info "firewall and DoS protection initialized"
    [("rule_count", a.rules.size), ("policy_count", a.monitor.size)])
  c.backends.forM tryBackend
  attachOrShutDown
  .note (.info "agent ready, waiting for shutdown signal")

def leave : Action (Agent P) Unit := do
  .note (.info "shutdown phase 1: stopping loops")
  .note (.info "shutdown phase 2: deleting backends")
  onBalancer Balancer.Service.shutdown
  .note (.info "shutdown phase 3: detaching upstream")
  if let .error e ← (detachFrontend : Action (Agent P) Unit).result then
    .note (.warn "failed to detach entrypoint from upstream" [("error", .display e)])
  .note (.info "shutdown phase 4: unloading programs")
  .note (.info "agent stopped")

/-- The whole life of an agent that has been set up. Between its start and its end it does
`meanwhile`, whose failure does not matter. -/
def live (c : Config) (meanwhile : Action (Agent P) Unit) : Action (Agent P) Unit := do
  populate c
  discard meanwhile.result
  leave

end EdgeControl.Agent
