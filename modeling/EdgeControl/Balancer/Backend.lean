import EdgeControl.Address
import EdgeControl.Address.Mac
import EdgeControl.Record
import EdgeControl.ServiceError

/-!
Backends, the neighbors through which they are reached, and the device that faces the clients,
each with the record that the data plane keeps of it.
-/
namespace EdgeControl.Balancer

inductive BalancerError where
  | backendNotFound (id : UInt32)
  | neighborNotFound (addr : String)
  | notDrained (id : UInt32)
  | rotationFull (capacity : Nat)
  | invalidBackend (why : String)
  | invalidFrontend (why : String)
  deriving DecidableEq, Repr

namespace BalancerError

def message : BalancerError → String
  | backendNotFound id => s!"backend not found: {id}"
  | neighborNotFound addr => s!"no neighbor entry for {addr}"
  | notDrained id => s!"backend {id} must be drained before delete"
  | rotationFull capacity => s!"round-robin table is full ({capacity} slots)"
  | invalidBackend why => s!"invalid backend: {why}"
  | invalidFrontend why => s!"invalid upstream: {why}"

instance : Reported BalancerError where
  kind
    | backendNotFound _ => "BackendNotFound"
    | neighborNotFound _ => "NeighborNotFound"
    | notDrained _ => "NotDrained"
    | rotationFull _ => "RotationFull"
    | invalidBackend _ => "InvalidBackend"
    | invalidFrontend _ => "InvalidUpstream"
  wording? e := some e.message

def toService : BalancerError → ServiceError
  | backendNotFound id => .ruleNotFound (toString id)
  | neighborNotFound addr => .ruleNotFound addr
  | notDrained id => .preconditionFailed (notDrained id).message
  | rotationFull capacity => .engine (rotationFull capacity).message
  | invalidBackend why => .invalidRule why
  | invalidFrontend why => .invalidConfig why

end BalancerError

inductive Status where
  | available
  | unavailable
  deriving DecidableEq, Inhabited, Repr

namespace Status

def number : Status → UInt32
  | available => 0
  | unavailable => 1

/-- Every number other than that of unavailable reads as available. -/
def ofNumber (n : UInt32) : Status := if n = 1 then unavailable else available

def name : Status → String
  | available => "available"
  | unavailable => "unavailable"

def ofName? : String → Option Status
  | "available" => some available
  | "unavailable" => some unavailable
  | _ => none

def display : Status → String
  | available => "Available"
  | unavailable => "Unavailable"

instance : JsonForm Status where
  toJson s := .str s.name
  ofJson? := Json.name? ofName?

end Status

structure Spec where
  name : String
  addr : Ipv4
  healthCheck : String := ""
  deriving DecidableEq, Repr

namespace Spec

def validate (s : Spec) : Except BalancerError Unit :=
  if (Text.trim s.name.toList).isEmpty then
    .error (.invalidBackend "backend name must not be empty")
  else if !s.addr.isUnicast then
    .error (.invalidBackend s!"backend address {s.addr} is not a unicast address")
  else .ok ()

def memberNames : List String := ["name", "addr", "health_check"]

instance : JsonForm Spec where
  toJson s := .obj [
    ("name", toJson s.name),
    ("addr", toJson s.addr),
    ("health_check", toJson s.healthCheck)]
  ofJson? j := do
    let m ← j.members? memberNames
    some {
      name := ← m.get? "name"
      addr := ← m.get? "addr"
      healthCheck := ← m.getD? "health_check" ""}

end Spec

structure Neighbor where
  mac : Mac
  device : String
  ifindex : UInt32
  deviceMac : Mac
  deriving DecidableEq, Repr

instance : JsonForm Neighbor where
  toJson n := .obj [
    ("mac", toJson n.mac),
    ("device", toJson n.device),
    ("ifindex", toJson n.ifindex),
    ("device_mac", toJson n.deviceMac)]
  ofJson? j := do
    let m ← j.members? ["mac", "device", "ifindex", "device_mac"]
    some {
      mac := ← m.get? "mac"
      device := ← m.get? "device"
      ifindex := ← m.get? "ifindex"
      deviceMac := ← m.get? "device_mac"}

structure BackendInfo where
  id : UInt32
  ifindex : UInt32
  status : UInt32
  srcMac : Mac
  dstMac : Mac
  dstIp : UInt32
  deriving DecidableEq, Repr

def BackendInfo.bytes (i : BackendInfo) : Record.Bytes :=
  Record.ofUInt32 i.id ++ Record.ofUInt32 i.ifindex ++ Record.ofUInt32 i.status ++
    i.srcMac.bytes ++ i.dstMac.bytes ++ Record.ofUInt32 i.dstIp

def BackendInfo.toJson (i : BackendInfo) : Json := .obj [
  ("id", EdgeControl.toJson i.id),
  ("ifindex", EdgeControl.toJson i.ifindex),
  ("status", EdgeControl.toJson i.status),
  ("src_mac", EdgeControl.toJson i.srcMac.bytes),
  ("dst_mac", EdgeControl.toJson i.dstMac.bytes),
  ("dst_ip", EdgeControl.toJson i.dstIp)]

structure Backend where
  id : UInt32
  name : String
  addr : Ipv4
  mac : Mac
  device : String
  ifindex : UInt32
  deviceMac : Mac
  healthCheck : String
  status : Status
  deriving DecidableEq, Repr

namespace Backend

def ofSpec (id : UInt32) (spec : Spec) (neighbor : Neighbor) : Backend where
  id
  name := spec.name
  addr := spec.addr
  mac := neighbor.mac
  device := neighbor.device
  ifindex := neighbor.ifindex
  deviceMac := neighbor.deviceMac
  healthCheck := spec.healthCheck
  status := .available

def info (b : Backend) : BackendInfo where
  id := b.id
  ifindex := b.ifindex
  status := b.status.number
  srcMac := b.deviceMac
  dstMac := b.mac
  dstIp := b.addr.word

def memberNames : List String :=
  ["id", "name", "addr", "mac", "device", "ifindex", "device_mac", "health_check", "status"]

instance : JsonForm Backend where
  toJson b := .obj [
    ("id", toJson b.id),
    ("name", toJson b.name),
    ("addr", toJson b.addr),
    ("mac", toJson b.mac),
    ("device", toJson b.device),
    ("ifindex", toJson b.ifindex),
    ("device_mac", toJson b.deviceMac),
    ("health_check", toJson b.healthCheck),
    ("status", toJson b.status)]
  ofJson? j := do
    let m ← j.members? memberNames
    some {
      id := ← m.get? "id"
      name := ← m.get? "name"
      addr := ← m.get? "addr"
      mac := ← m.get? "mac"
      device := ← m.get? "device"
      ifindex := ← m.get? "ifindex"
      deviceMac := ← m.get? "device_mac"
      healthCheck := ← m.get? "health_check"
      status := ← m.get? "status"}

end Backend

structure FrontendInfo where
  ip : UInt32
  ifindex : UInt16
  mac : Mac
  deriving DecidableEq, Repr

def FrontendInfo.bytes (i : FrontendInfo) : Record.Bytes :=
  Record.ofUInt32 i.ip ++ Record.ofUInt16 i.ifindex ++ i.mac.bytes

def FrontendInfo.toJson (i : FrontendInfo) : Json := .obj [
  ("ip", EdgeControl.toJson i.ip),
  ("ifindex", EdgeControl.toJson i.ifindex),
  ("mac", EdgeControl.toJson i.mac.bytes)]

structure Frontend where
  vip : Ipv4
  ifindex : UInt32
  mac : Mac
  deriving DecidableEq, Repr

namespace Frontend

/-- The data plane's record of the device, which has sixteen bits for its index. -/
def info (f : Frontend) : Except BalancerError FrontendInfo :=
  if f.ifindex.toNat < UInt16.size then .ok ⟨f.vip.word, f.ifindex.toUInt16, f.mac⟩
  else .error (.invalidFrontend s!"ifindex {f.ifindex} does not fit in 16 bits")

def memberNames : List String := ["vip", "ifindex", "mac"]

instance : JsonForm Frontend where
  toJson f := .obj [
    ("vip", toJson f.vip),
    ("ifindex", toJson f.ifindex),
    ("mac", toJson f.mac)]
  ofJson? j := do
    let m ← j.members? memberNames
    some {vip := ← m.get? "vip", ifindex := ← m.get? "ifindex", mac := ← m.get? "mac"}

end Frontend
end EdgeControl.Balancer
