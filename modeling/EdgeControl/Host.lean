import EdgeControl.DataPlane
import EdgeControl.NeighborTable

/-!
The host that the agent runs on, as far as it finds backends: network devices, the text of the
neighbor table, and what becomes of a ping.
-/
namespace EdgeControl

structure Device where
  name : String
  ifindex : UInt32
  mac : Mac
  deriving DecidableEq, Repr

inductive DeviceError where
  | noSuchDevice (name : String)
  | badName (name : String)
  | noMac (name : String)
  deriving DecidableEq, Repr

def DeviceError.failure : DeviceError → Failure
  | .noSuchDevice name =>
    ⟨s!"failed to get index for interface '{name}'", ["ENODEV: No such device"]⟩
  | .badName name =>
    ⟨s!"failed to get index for interface '{name}'", ["EINVAL: Invalid argument"]⟩
  | .noMac name => {text := s!"interface '{name}' has no link-layer address"}

instance : Reported DeviceError where
  kind _ := "Link"
  wording? e := some e.failure.chain

inductive Ping where
  | answered
  | unanswered
  | hanging
  | missing
  deriving DecidableEq, Repr

structure Host where
  devices : List Device := []
  neighborsPath : String := "/proc/net/arp"
  neighbors : Option String := none
  ping : Ping := .missing
  /-- How long a ping may take, in milliseconds. -/
  patience : Nat := 1000
  deriving DecidableEq, Repr

namespace Host

def device? (h : Host) (name : String) : Option Device := h.devices.find? (·.name == name)

def ifindex (h : Host) (name : String) : Except DeviceError UInt32 :=
  if name.toList.contains '\x00' then .error (.badName name)
  else
    match h.device? name with
    | some d => .ok d.ifindex
    | none => .error (.noSuchDevice name)

def mac (h : Host) (name : String) : Except DeviceError Mac :=
  match h.device? name with
  | some d => .ok d.mac
  | none => .error (.noMac name)

def pingOnce (h : Host) (addr : Ipv4) : Except Failure Unit :=
  let late : Failure := {text := s!"ping {addr} timed out after {durationText h.patience}"}
  match h.ping with
  | .missing => .error ⟨"failed to run ping", [Refusal.noSuchFile.message]⟩
  | .hanging => .error late
  | .unanswered =>
    if h.patience = 0 then .error late
    else .error {text := s!"ping {addr} exited with exit status: 1"}
  | .answered => if h.patience = 0 then .error late else .ok ()

def neighborRows (h : Host) : Except Failure (List NeighborTable.Row) :=
  match h.neighbors with
  | none => .error ⟨s!"failed to read {h.neighborsPath}", [Refusal.noSuchFile.message]⟩
  | some text => (NeighborTable.ofString text).mapError (·.failure)

def neighbor? (h : Host) (addr : Ipv4) : Except Failure (Option Balancer.Neighbor) := do
  let some row := NeighborTable.find? (← h.neighborRows) addr | return none
  let ifindex ← (h.ifindex row.device).mapError (·.failure)
  let deviceMac ← (h.mac row.device).mapError (·.failure)
  return some {mac := row.mac, device := row.device, ifindex, deviceMac}

def asService (what : String) (f : Failure) : ServiceError := .engine s!"{what}: {f.chain}"

instance : Neighbors Host where
  probe addr := do
    Action.ofExcept (asService "neighbor probe failed") ((← get).pingOnce addr)
  resolve addr := do
    let found ← Action.ofExcept (asService "neighbor resolution failed") ((← get).neighbor? addr)
    if let some n := found then
      .note (.debug "neighbor resolved"
        [("addr", .display addr), ("device", n.device), ("ifindex", n.ifindex)])
    return found

end Host
end EdgeControl
