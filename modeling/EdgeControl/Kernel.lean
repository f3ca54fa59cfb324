import EdgeControl.Host
import EdgeControl.Kernel.Table
import Std.Data.ExtTreeSet

/-!
A kernel with the data plane loaded, and the agent's open tables of it. It is the host that the
services run on for real: each of their operations becomes one call on a table.
-/
namespace EdgeControl

open Kernel in
structure Kernel where
  host : Host
  calls : Calls
  rules : Table Network Firewall.RuleEntry
  matchers : Table Network Firewall.Matcher
  advRules : Table UInt32 Firewall.RuleEntry
  dropCounters : Table UInt32 UInt64
  floodCounters : Table Flood.CounterKey UInt64
  packetCounts : Table UInt32 UInt64
  frontend : Slots Balancer.FrontendInfo
  redirect : Table UInt32 UInt32
  backendInfo : Table UInt32 Balancer.BackendInfo
  backendIfindex : Table UInt32 UInt32
  rotation : Slots UInt32
  flows : Table Flow.Key Flow.Info
  /-- The devices that carry the packet program. A device carries it once. -/
  attached : Std.ExtTreeSet UInt32 := ∅

namespace Kernel

variable {α : Type}

def refused (call : String) (e : TableError) : ServiceError :=
  .engine s!"{call} failed: {e.message}"

def reading (call : String) (f : Kernel → Except TableError α) : Action Kernel α := do
  Action.ofExcept (refused call) (f (← get))

def writing (call : String) (f : Kernel → Except TableError Kernel) : Action Kernel Unit := do
  set (← reading call f)

instance : FirewallTables Kernel where
  insertRule network entry := writing "rules insert" fun k =>
    return {k with rules := ← k.rules.insert network entry}
  removeRule network := writing "rules remove" fun k =>
    return {k with rules := ← k.rules.erase network}
  matcher? network := reading "adv_rulematcher get" fun k => k.matchers.findLongest? network
  setMatcher network matcher := writing "adv_rulematcher insert" fun k =>
    return {k with matchers := ← k.matchers.insert network matcher}
  insertAdvRule id entry := writing "adv_rules insert" fun k =>
    return {k with advRules := ← k.advRules.insert id entry}
  removeAdvRule id := writing "adv_rules remove" fun k =>
    return {k with advRules := ← k.advRules.erase id}
  dropCount? id := reading "drop_counter get" fun k => k.dropCounters.find? id
  removeDropCounter id := writing "drop_counter remove" fun k =>
    return {k with dropCounters := ← k.dropCounters.erase id}

/-- Counters that cannot be read are reported and left out. -/
instance : FloodCounters Kernel where
  counters := do
    match (← get).floodCounters.toList with
    | .ok counters => return counters
    | .error e =>
      .note (.warn "dosp_counter entry unreadable, skipped" [("error", e.message)])
      return []

instance : PacketCounters Kernel where
  packetCount protocol := do
    let found ← reading "counter get" fun k => k.packetCounts.find? protocol
    return found.getD 0

def hasDevice (k : Kernel) (ifindex : UInt32) : Bool :=
  k.host.devices.any (·.ifindex == ifindex)

instance : BalancerTables Kernel where
  setFrontend info := writing "upstream_info set" fun k =>
    return {k with frontend := ← k.frontend.set 0 info}
  allowRedirect ifindex := writing "redirect_dev_map insert" fun k => do
    if !k.hasDevice ifindex then throw .updateFailed
    return {k with redirect := ← k.redirect.insert ifindex ifindex}
  revokeRedirect ifindex := writing "redirect_dev_map remove" fun k =>
    return {k with redirect := ← k.redirect.erase ifindex}
  backendInfo? id := reading "backend_info get" fun k => k.backendInfo.find? id
  setBackendInfo id info := writing "backend_info insert" fun k =>
    return {k with backendInfo := ← k.backendInfo.insert id info}
  removeBackendInfo id := writing "backend_info remove" fun k =>
    return {k with backendInfo := ← k.backendInfo.erase id}
  setBackendIfindex ifindex id := writing "backend_ifindex insert" fun k =>
    return {k with backendIfindex := ← k.backendIfindex.insert ifindex id}
  removeBackendIfindex ifindex := writing "backend_ifindex remove" fun k =>
    return {k with backendIfindex := ← k.backendIfindex.erase ifindex}
  setSlot slot id := writing s!"rr_table set slot {slot}" fun k =>
    return {k with rotation := ← k.rotation.set slot id}

/-- A reading of the flows that fails has that failure as its only item. -/
instance : FlowTable Kernel where
  flows := do
    match (← get).flows.toList with
    | .ok flows => return flows.map .ok
    | .error e => return [.error (refused "conntrack read" e)]
  removeFlow key := writing "conntrack remove" fun k =>
    return {k with flows := ← k.flows.erase key}

instance : Neighbors Kernel where
  probe addr := .onPart Kernel.host (fun k host => {k with host}) (Neighbors.probe addr)
  resolve addr := .onPart Kernel.host (fun k host => {k with host}) (Neighbors.resolve addr)

instance : Attacher Kernel where
  attach ifindex := do
    let k ← get
    if k.attached.contains ifindex then
      throw (.engine s!"xdp attach to ifindex {ifindex} failed: \x60bpf_link_create\x60 failed")
    set {k with attached := k.attached.insert ifindex}
    .note (.info "entrypoint attached" [("ifindex", ifindex)])
    return ⟨ifindex⟩
  detach link := do
    modify fun k => {k with attached := k.attached.erase link.ifindex}
    .note (.info "entrypoint detached" [("ifindex", link.ifindex)])

end Kernel
end EdgeControl
