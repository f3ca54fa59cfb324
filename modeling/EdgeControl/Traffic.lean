import EdgeControl.DataPlane
import EdgeControl.Loop

/-!
The packets seen on the frontend device, by protocol.
-/
namespace EdgeControl.Traffic

structure Service (P : Type) where
  device : String
  ifindex : UInt32
  base : P

structure Stats where
  device : String
  ifindex : UInt32
  icmp : UInt64
  tcp : UInt64
  udp : UInt64
  deriving DecidableEq, Repr

instance : JsonForm Stats where
  toJson s := .obj [
    ("device", toJson s.device),
    ("ifindex", toJson s.ifindex),
    ("icmp", toJson s.icmp),
    ("tcp", toJson s.tcp),
    ("udp", toJson s.udp)]
  ofJson? j := do
    let m ← j.members? ["device", "ifindex", "icmp", "tcp", "udp"]
    some {
      device := ← m.get? "device"
      ifindex := ← m.get? "ifindex"
      icmp := ← m.get? "icmp"
      tcp := ← m.get? "tcp"
      udp := ← m.get? "udp"}

namespace Service

variable {P : Type} [PacketCounters P]

def count (protocol : Protocol) : Action (Service P) UInt64 :=
  .onPart Service.base (fun s base => {s with base})
    (PacketCounters.packetCount protocol.number)

/-- The packets of all protocols. A counter that cannot be read ends the reading. -/
def stats : Action (Service P) Stats := do
  let s ← get
  return {
    device := s.device
    ifindex := s.ifindex
    icmp := ← count .icmp
    tcp := ← count .tcp
    udp := ← count .udp}

def report : Action (Service P) Unit := do
  match ← (stats : Action (Service P) Stats).result with
  | .ok s =>
    .note (.info "upstream packet counters"
      [("device", s.device), ("ifindex", s.ifindex), ("icmp", s.icmp.toNat),
        ("tcp", s.tcp.toNat), ("udp", s.udp.toNat)])
  | .error e => .note (.warn "failed to read packet counters" [("error", .display e)])

def job : Job (Service P) where
  lateness := .burst
  pass := report

/-- The time between two reports, in nanoseconds. -/
def reportInterval : Nat := 60 * 1000000000

end Service
end EdgeControl.Traffic
