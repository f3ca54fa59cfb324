import EdgeControl.DataPlane
import EdgeControl.Faults
import Std.Data.ExtTreeMap
import Std.Data.ExtTreeSet

/-!
A host in memory: every table as a map, neighbors that are known from the start, and attachments
that are only written down. Any operation can be made to fail; it then changes nothing. It stands
under the services where there is no kernel.
-/
namespace EdgeControl

structure Memory where
  rules : Std.ExtTreeMap Network Firewall.RuleEntry := ∅
  matchers : Std.ExtTreeMap Network Firewall.Matcher := ∅
  advRules : Std.ExtTreeMap UInt32 Firewall.RuleEntry := ∅
  dropCounters : Std.ExtTreeMap UInt32 UInt64 := ∅
  floodCounters : Std.ExtTreeMap Flood.CounterKey UInt64 := ∅
  frontend : Option Balancer.FrontendInfo := none
  redirect : Std.ExtTreeSet UInt32 := ∅
  backendInfo : Std.ExtTreeMap UInt32 Balancer.BackendInfo := ∅
  backendIfindex : Std.ExtTreeMap UInt32 UInt32 := ∅
  slots : Vector UInt32 64 := Vector.replicate 64 0
  flows : Std.ExtTreeMap Flow.Key Flow.Info := ∅
  /-- Why items of a reading of the flows cannot be read, one item each. -/
  unreadable : List String := []
  neighbors : Std.ExtTreeMap Ipv4 Balancer.Neighbor := ∅
  probed : List Ipv4 := []
  attached : Std.ExtTreeSet UInt32 := ∅
  detached : List UInt32 := []
  packetCounts : Std.ExtTreeMap UInt32 UInt64 := ∅
  faults : Faults := .none

namespace Memory

instance : EmptyCollection Memory := ⟨{}⟩

def missing (table : String) : ServiceError := .engine s!"{table}: key not found"

def ask (op : Operation) : Action Memory Unit := do
  let m ← get
  set {m with faults := m.faults.next}
  if m.faults.fails op then throw op.failure

instance : FirewallTables Memory where
  insertRule network entry := do
    ask .insertRule
    modify fun m => {m with rules := m.rules.insert network entry}
  removeRule network := do
    ask .removeRule
    let m ← get
    if m.rules.contains network then set {m with rules := m.rules.erase network}
    else throw (missing "rules")
  matcher? network := do
    ask .matcher
    return (← get).matchers[network]?
  setMatcher network matcher := do
    ask .setMatcher
    modify fun m => {m with matchers := m.matchers.insert network matcher}
  insertAdvRule id entry := do
    ask .insertAdvRule
    modify fun m => {m with advRules := m.advRules.insert id entry}
  removeAdvRule id := do
    ask .removeAdvRule
    let m ← get
    if m.advRules.contains id then set {m with advRules := m.advRules.erase id}
    else throw (missing "adv_rules")
  dropCount? id := do
    ask .dropCount
    return (← get).dropCounters[id]?
  removeDropCounter id := do
    ask .removeDropCounter
    let m ← get
    if m.dropCounters.contains id then set {m with dropCounters := m.dropCounters.erase id}
    else throw (missing "drop_counter")

instance : FloodCounters Memory where
  counters := do
    ask .counters
    return (← get).floodCounters.toList

instance : BalancerTables Memory where
  setFrontend info := do
    ask .setFrontend
    modify fun m => {m with frontend := some info}
  allowRedirect ifindex := do
    ask .allowRedirect
    modify fun m => {m with redirect := m.redirect.insert ifindex}
  revokeRedirect ifindex := do
    ask .revokeRedirect
    let m ← get
    if m.redirect.contains ifindex then set {m with redirect := m.redirect.erase ifindex}
    else throw (missing "redirect_dev_map")
  backendInfo? id := do
    ask .backendInfo
    return (← get).backendInfo[id]?
  setBackendInfo id info := do
    ask .setBackendInfo
    modify fun m => {m with backendInfo := m.backendInfo.insert id info}
  removeBackendInfo id := do
    ask .removeBackendInfo
    let m ← get
    if m.backendInfo.contains id then set {m with backendInfo := m.backendInfo.erase id}
    else throw (missing "backend_info")
  setBackendIfindex ifindex id := do
    ask .setBackendIfindex
    modify fun m => {m with backendIfindex := m.backendIfindex.insert ifindex id}
  removeBackendIfindex ifindex := do
    ask .removeBackendIfindex
    let m ← get
    if m.backendIfindex.contains ifindex then
      set {m with backendIfindex := m.backendIfindex.erase ifindex}
    else throw (missing "backend_ifindex")
  setSlot slot id := do
    ask (.slot slot)
    ask .setSlot
    if h : slot < 64 then modify fun m => {m with slots := m.slots.set slot id}
    else throw (.engine s!"rr_table: slot {slot} out of range")

instance : FlowTable Memory where
  flows := do
    let m ← get
    return m.flows.toList.map .ok ++ m.unreadable.map fun why => .error (.engine why)
  removeFlow key := do
    ask .removeFlow
    let m ← get
    if m.flows.contains key then set {m with flows := m.flows.erase key}
    else throw (missing "conntrack")

instance : Neighbors Memory where
  probe addr := do
    modify fun m => {m with probed := m.probed ++ [addr]}
    ask .probe
  resolve addr := do
    ask .resolve
    return (← get).neighbors[addr]?

instance : Attacher Memory where
  attach ifindex := do
    ask .attach
    modify fun m => {m with attached := m.attached.insert ifindex}
    return ⟨ifindex⟩
  detach link := do
    ask .detach
    modify fun m => {m with
      attached := m.attached.erase link.ifindex
      detached := m.detached ++ [link.ifindex]}

instance : PacketCounters Memory where
  packetCount protocol := do
    ask (.counter protocol)
    return ((← get).packetCounts[protocol]?).getD 0

end Memory
end EdgeControl
