import EdgeControl.Balancer.Registry
import EdgeControl.DataPlane
import EdgeControl.Flow.Tracker
import EdgeControl.Loop

/-!
The balancer service registers backends, takes them in and out of the rotation, and keeps track
of the flows to them. It is the only writer of the balancer's tables.
-/
namespace EdgeControl.Balancer

structure Service (P : Type) where
  registry : Registry := ∅
  tracker : Flow.Tracker := ∅
  settings : Flow.Settings
  frontend : Frontend
  /-- The links to backend devices by device. Backends behind one device share its link. -/
  links : Std.ExtTreeMap UInt32 Link := ∅
  base : P

namespace Service

variable {P : Type} {α : Type}

def onBase (act : Action P α) : Action (Service P) α :=
  .onPart Service.base (fun s base => {s with base}) act

def balancer (e : Except BalancerError α) : Action (Service P) α :=
  Action.ofExcept BalancerError.toService e

def start [BalancerTables P] : Action (Service P) Unit := do
  let frontend := (← get).frontend
  let info ← balancer frontend.info
  .note (.debug "write upstream_info"
    [("vip", .display frontend.vip), ("ifindex", frontend.ifindex)])
  onBase (BalancerTables.setFrontend info)
  onBase (BalancerTables.allowRedirect frontend.ifindex)
  .note (.info "load balancer upstream registered"
    [("vip", .display frontend.vip), ("ifindex", frontend.ifindex),
      ("mac", .display frontend.mac)])

/-- Attaches the packet program to the frontend device. The link is the caller's. -/
def attachFrontend [Attacher P] : Action (Service P) Link := do
  let ifindex := (← get).frontend.ifindex
  let link ← onBase (Attacher.attach ifindex)
  .note (.info "entrypoint attached to upstream" [("ifindex", ifindex)])
  return link

/-- Looks for the neighbor with an address. A failed probe does not matter as long as the neighbor
is known. -/
def findNeighbor [Neighbors P] (addr : Ipv4) : Action (Service P) Neighbor := do
  if let .error e ← (onBase (Neighbors.probe addr)).result then
    .note (.warn "neighbor probe failed, trying the neighbor table anyway"
      [("addr", .display addr), ("error", .display e)])
  let some neighbor ← onBase (Neighbors.resolve addr)
    | throw (BalancerError.neighborNotFound (toString addr)).toService
  return neighbor

def attachDevice [Attacher P] (id ifindex : UInt32) : Action (Service P) Unit := do
  if (← get).links.contains ifindex then
    .note (.debug "entrypoint already attached to device" [("id", id), ("ifindex", ifindex)])
  else
    let link ← onBase (Attacher.attach ifindex)
    modify fun s => {s with links := s.links.insert ifindex link}

/-- Registers a backend, puts it into the rotation and gives its id. The backend is registered as
soon as its record is written, so that one whose registration fails later can be drained and
deleted. -/
def setBackend [BalancerTables P] [Neighbors P] [Attacher P] (spec : Spec) :
    Action (Service P) UInt32 := do
  balancer spec.validate
  let neighbor ← findNeighbor spec.addr
  let slot ← balancer (← get).registry.nextSlot
  let s ← get
  let (id, registry) := s.registry.allocateId
  set {s with registry}
  let backend := Backend.ofSpec id spec neighbor
  onBase (BalancerTables.setBackendInfo id backend.info)
  modify fun s => {s with registry := s.registry.insert backend}
  onBase (BalancerTables.setBackendIfindex backend.ifindex id)
  onBase (BalancerTables.allowRedirect backend.ifindex)
  onBase (BalancerTables.setSlot slot id)
  modify fun s => {s with registry := s.registry.pushRotation id}
  .note (.debug "rr_table slot assigned" [("id", id), ("slot", slot)])
  attachDevice id backend.ifindex
  .note (.info "backend registered"
    [("id", id), ("name", backend.name), ("addr", .display backend.addr),
      ("device", backend.device), ("ifindex", backend.ifindex)])
  return id

def renderIds (ids : List UInt32) : String :=
  "[" ++ ", ".intercalate (ids.map toString) ++ "]"

/-- Takes a backend out of the rotation. The slots are written first and then the status, and only
then the rotation changes, so that a failed drain can be repeated. -/
def drain [BalancerTables P] (id : UInt32) : Action (Service P) Unit := do
  let writes ← balancer ((← get).registry.drainWrites id)
  let some backend := (← get).registry.get? id
    | throw (BalancerError.backendNotFound id).toService
  writes.forM fun w => onBase (BalancerTables.setSlot w.slot w.backendId)
  onBase (BalancerTables.setBackendInfo id
    {backend.info with status := Status.unavailable.number})
  let s ← get
  let registry ← balancer (s.registry.commitDrain id)
  set {s with registry}
  .note (.info "backend drained" [("id", id), ("rotation", renderIds registry.rotation)])

/-- Whether the data plane has the record of a backend that may be deleted: its record says that
it is unavailable, or it is gone because an earlier deletion went that far. -/
def checkDrained [BalancerTables P] (backend : Backend) : Action (Service P) Bool := do
  match ← onBase (BalancerTables.backendInfo? backend.id) with
  | some info =>
    if Status.ofNumber info.status = .unavailable then return true
    .note (.warn "drain before deleting backend" [("id", backend.id)])
    throw (BalancerError.notDrained backend.id).toService
  | none =>
    if backend.status = .unavailable then
      .note (.debug "backend_info already removed, resuming delete" [("id", backend.id)])
      return false
    throw (.engine s!"backend_info entry for backend {backend.id} is missing")

def sibling? (registry : Registry) (backend : Backend) : Option Backend :=
  registry.toList.find? fun b => b.id != backend.id && b.ifindex == backend.ifindex

def detachDevice [Attacher P] (ifindex : UInt32) : Action (Service P) Unit := do
  let s ← get
  if let some link := s.links[ifindex]? then
    set {s with links := s.links.erase ifindex}
    onBase (Attacher.detach link)

/-- Removes a drained backend. Nothing happens when there is no such backend. A deletion that
failed on the way can be repeated. -/
def delete [BalancerTables P] [Attacher P] (id : UInt32) : Action (Service P) Unit := do
  let some backend := (← get).registry.get? id | return
  let recorded ← checkDrained backend
  let sibling := sibling? (← get).registry backend
  if sibling.isNone then detachDevice backend.ifindex
  if recorded then onBase (BalancerTables.removeBackendInfo id)
  match sibling with
  | some other => onBase (BalancerTables.setBackendIfindex backend.ifindex other.id)
  | none =>
    onBase (BalancerTables.removeBackendIfindex backend.ifindex)
    if backend.ifindex != (← get).frontend.ifindex then
      onBase (BalancerTables.revokeRedirect backend.ifindex)
  modify fun s => {s with registry := s.registry.erase id}
  .note (.info "backend deleted" [("id", id), ("ifindex", backend.ifindex)])

def throwAll (errors : List ServiceError) : Action (Service P) Unit :=
  match ServiceError.aggregate? errors with
  | none => pure ()
  | some e => throw e

def failure? (act : Action (Service P) α) : Action (Service P) (Option ServiceError) := do
  match ← act.result with
  | .ok _ => return none
  | .error e => return some e

/-- Deletes every backend, going on past failures and reporting them together. -/
def deleteAll [BalancerTables P] [Attacher P] : Action (Service P) Unit := do
  let failures ← (← get).registry.ids.mapM fun id => failure? (delete id)
  throwAll (failures.filterMap id)

def detachLeftover [Attacher P] (link : Link) : Action (Service P) Unit := do
  match ← (onBase (Attacher.detach link)).result with
  | .ok () =>
    .note (.debug "entrypoint detached from backend device" [("ifindex", link.ifindex)])
  | .error e =>
    .note (.warn "failed to detach entrypoint"
      [("ifindex", link.ifindex), ("error", .display e)])

def shutdown [BalancerTables P] [Attacher P] : Action (Service P) Unit := do
  if let .error e ← deleteAll.result then
    .note (.warn "not every backend could be deleted" [("error", .display e)])
  let left := (← get).links.values
  modify fun s => {s with links := ∅}
  left.forM detachLeftover

/-! ### Tracked flows -/

def purge [FlowTable P] (key : Flow.Key) : Action (Service P) (Except ServiceError Flow.Key) := do
  match ← (onBase (FlowTable.removeFlow key)).result with
  | .ok () =>
    modify fun s => {s with tracker := s.tracker.forget key}
    return .ok key
  | .error e => return .error e

def dropStale (live : List Flow.Key) : Action (Service P) Unit := do
  let s ← get
  let tracker := s.tracker.retain (.ofList live)
  set {s with tracker}
  let dropped := s.tracker.size - tracker.size
  if 0 < dropped then
    .note (.debug "stale conntrack mirror entries dropped" [("count", dropped)])

def successes {ε : Type} (rs : List (Except ε α)) : List α := rs.filterMap Except.toOption

def failures {ε : Type} (rs : List (Except ε α)) : List ε :=
  rs.filterMap fun
    | .ok _ => none
    | .error e => some e

/-- One pass over the data plane's flows at the time `now`. Gives the number of flows purged.
Flows that the data plane no longer has are dropped from the tracker if that is asked for and all
flows could be read. Failures are reported together at the end. -/
def syncFlows [FlowTable P] (now : Instant) : Action (Service P) Nat := do
  let reading ← onBase FlowTable.flows
  let observed := successes reading
  let unread := failures reading
  let s ← get
  let (pass, tracker) := s.tracker.sync observed now s.settings.gcLifetime
  set {s with tracker}
  let purges ← pass.purge.mapM purge
  let purged := successes purges
  if !purged.isEmpty then
    .note (.debug "conntrack entries purged" [("count", purged.length)])
  if s.settings.gcEnabled && unread.isEmpty then
    dropStale ((observed.map (·.1)).filter fun key => !purged.contains key)
  throwAll (unread ++ pass.errors.map Flow.FlowError.toService ++ failures purges)
  return purged.length

def job [FlowTable P] (settings : Flow.Settings) (now : Instant) : Job (Service P) where
  lateness := .delay
  started := [.info "conntrack loop started" [("interval_secs", settings.intervalSecs.toNat)]]
  pass := do
    if let .error e ← (syncFlows now).result then
      .note (.warn "conntrack sync failed" [("error", .display e)])
  stopped := [.info "conntrack loop stopped"]

end Service
end EdgeControl.Balancer
