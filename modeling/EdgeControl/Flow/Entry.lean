import EdgeControl.Address.Mac
import EdgeControl.Address
import EdgeControl.Instant
import EdgeControl.Order
import EdgeControl.ServiceError

/-!
Tracked flows: the data plane's key and record of a flow, what they mean, and the settings of the
passes over them. Addresses in a key are stored least significant byte first, ports in wire order.
-/
namespace EdgeControl.Flow

inductive FlowError where
  | invalidSetting (field : String)
  | unknownState (n : UInt8)
  | malformed (cause : ProtocolError)
  deriving DecidableEq, Repr

namespace FlowError

def message : FlowError → String
  | invalidSetting field => s!"invalid setting: {field} must be > 0"
  | unknownState n => s!"unknown connection state: {n}"
  | malformed cause => s!"malformed conntrack entry: {cause.message}"

instance : Reported FlowError where
  kind
    | invalidSetting _ => "InvalidSetting"
    | unknownState _ => "UnknownState"
    | malformed _ => "Malformed"
  wording? e := some e.message

def toService : FlowError → ServiceError
  | invalidSetting field => .invalidConfig (invalidSetting field).message
  | e => .engine e.message

end FlowError

inductive State where
  | notTcp
  | opening
  | established
  | closing
  | closed
  deriving DecidableEq, Repr

namespace State

def number : State → UInt8
  | notTcp => 0
  | opening => 1
  | established => 2
  | closing => 3
  | closed => 4

def ofNumber (n : UInt8) : Except FlowError State :=
  if n = 0 then .ok notTcp
  else if n = 1 then .ok opening
  else if n = 2 then .ok established
  else if n = 3 then .ok closing
  else if n = 4 then .ok closed
  else .error (.unknownState n)

theorem ofNumber_eq_ok_iff {n : UInt8} {state : State} :
    ofNumber n = .ok state ↔ n = state.number := by
  constructor
  · intro known
    unfold ofNumber at known
    grind [number]
  · rintro rfl
    cases state <;> rfl

theorem ofNumber_eq_error_iff {n : UInt8} {e : FlowError} :
    ofNumber n = .error e ↔ 4 < n ∧ e = .unknownState n := by
  unfold ofNumber
  grind

def name : State → String
  | notTcp => "not_tcp"
  | opening => "opening"
  | established => "established"
  | closing => "closing"
  | closed => "closed"

def ofName? : String → Option State
  | "not_tcp" => some notTcp
  | "opening" => some opening
  | "established" => some established
  | "closing" => some closing
  | "closed" => some closed
  | _ => none

instance : JsonForm State where
  toJson s := .str s.name
  ofJson? := Json.name? ofName?

end State

def swapPort (n : UInt16) : UInt16 := UInt16.ofNat (n.toNat % 256 * 256 + n.toNat / 256)

theorem toNat_swapPort (n : UInt16) :
    (swapPort n).toNat = n.toNat % 256 * 256 + n.toNat / 256 := by
  have bound := n.toNat_lt
  refine UInt16.toNat_ofNat_of_lt' ?_
  simp only [UInt16.size]
  omega

@[simp] theorem swapPort_swapPort (n : UInt16) : swapPort (swapPort n) = n := by
  apply UInt16.toNat_inj.1
  have bound := n.toNat_lt
  rw [toNat_swapPort, toNat_swapPort]
  omega

structure Key where
  srcAddr : UInt32
  dstAddr : UInt32
  srcPort : UInt16
  dstPort : UInt16
  protocol : UInt32
  deriving DecidableEq, Repr

namespace Key

def source (k : Key) : Ipv4 := .ofWord k.srcAddr

def destination (k : Key) : Ipv4 := .ofWord k.dstAddr

def sourcePort (k : Key) : UInt16 := swapPort k.srcPort

def destinationPort (k : Key) : UInt16 := swapPort k.dstPort

def ofEnds (source destination : Ipv4) (sourcePort destinationPort : UInt16)
    (protocol : UInt32) : Key :=
  ⟨source.word, destination.word, swapPort sourcePort, swapPort destinationPort, protocol⟩

def bytes (k : Key) : Record.Bytes :=
  Record.ofUInt32 k.srcAddr ++ Record.ofUInt32 k.dstAddr ++ Record.ofUInt16 k.srcPort ++
    Record.ofUInt16 k.dstPort ++ Record.ofUInt32 k.protocol

/-- A key is the list of the ends and the protocol number, with ports as people write them. -/
instance : JsonForm Key where
  toJson k := .arr [toJson k.source, toJson k.destination, toJson k.sourcePort,
    toJson k.destinationPort, toJson k.protocol]
  ofJson?
    | .arr [source, destination, sourcePort, destinationPort, protocol] => do
      some (.ofEnds (← ofJson? source) (← ofJson? destination) (← ofJson? sourcePort)
        (← ofJson? destinationPort) (← ofJson? protocol))
    | _ => none

instance : Ord Key :=
  ⟨compareLex (compareOn source) (compareLex (compareOn destination)
    (compareLex (compareOn sourcePort)
      (compareLex (compareOn destinationPort) (compareOn protocol))))⟩

instance : Std.TransOrd Key := inferInstanceAs (Std.TransCmp
  (compareLex (compareOn source) (compareLex (compareOn destination)
    (compareLex (compareOn sourcePort)
      (compareLex (compareOn destinationPort) (compareOn protocol))))))

instance : Std.LawfulEqOrd Key where
  eq_of_compare {a b} h := by
    obtain ⟨hsource, h⟩ := compareLex_eq h
    obtain ⟨hdestination, h⟩ := compareLex_eq h
    obtain ⟨hsourcePort, h⟩ := compareLex_eq h
    obtain ⟨hdestinationPort, hprotocol⟩ := compareLex_eq h
    have h1 : a.srcAddr = b.srcAddr := by
      rw [← Ipv4.word_ofWord a.srcAddr, ← Ipv4.word_ofWord b.srcAddr]
      exact congrArg Ipv4.word (compareOn_eq hsource)
    have h2 : a.dstAddr = b.dstAddr := by
      rw [← Ipv4.word_ofWord a.dstAddr, ← Ipv4.word_ofWord b.dstAddr]
      exact congrArg Ipv4.word (compareOn_eq hdestination)
    have h3 : a.srcPort = b.srcPort := by
      rw [← swapPort_swapPort a.srcPort, ← swapPort_swapPort b.srcPort]
      exact congrArg swapPort (compareOn_eq hsourcePort)
    have h4 : a.dstPort = b.dstPort := by
      rw [← swapPort_swapPort a.dstPort, ← swapPort_swapPort b.dstPort]
      exact congrArg swapPort (compareOn_eq hdestinationPort)
    have h5 := compareOn_eq hprotocol
    cases a
    cases b
    simp only at h1 h2 h3 h4 h5
    rw [h1, h2, h3, h4, h5]

end Key

structure Info where
  id : UInt32
  ifindex : UInt32 := 0
  status : UInt8
  srcMac : Mac := .zero
  pad : UInt8 := 0
  counter : UInt64
  deriving DecidableEq, Repr

def Info.bytes (i : Info) : Record.Bytes :=
  Record.ofUInt32 i.id ++ Record.ofUInt32 i.ifindex ++ [i.status] ++ i.srcMac.bytes ++ [i.pad] ++
    Record.ofUInt64 i.counter

instance : JsonForm Info where
  toJson i := .obj [
    ("id", toJson i.id),
    ("ifindex", toJson i.ifindex),
    ("status", toJson i.status),
    ("src_mac", toJson i.srcMac.bytes),
    ("pad", toJson i.pad),
    ("counter", toJson i.counter)]
  ofJson? j := do
    some {
      id := ← j.field? "id"
      ifindex := ← j.fieldD? "ifindex" 0
      status := ← j.field? "status"
      srcMac := ← Mac.ofBytes? (← j.fieldD? "src_mac" Mac.zero.bytes)
      pad := ← j.fieldD? "pad" 0
      counter := ← j.field? "counter"}

structure Entry where
  srcAddr : Ipv4
  dstAddr : Ipv4
  srcPort : UInt16
  dstPort : UInt16
  protocol : Protocol
  state : State
  lastSeen : Instant
  backendId : UInt32
  counter : UInt64
  deriving DecidableEq, Repr

namespace Entry

def ofRecord (key : Key) (info : Info) (now : Instant) : Except FlowError Entry := do
  let protocol ← (Protocol.ofNumber key.protocol).mapError .malformed
  let state ← State.ofNumber info.status
  return {
    srcAddr := key.source
    dstAddr := key.destination
    srcPort := key.sourcePort
    dstPort := key.destinationPort
    protocol
    state
    lastSeen := now
    backendId := info.id
    counter := info.counter}

/-- A flow may be purged when it is closed, or when it is a UDP flow idle for longer than
`lifetime` nanoseconds. -/
def expired (e : Entry) (now : Instant) (lifetime : Nat) : Bool :=
  e.state == .closed || (e.protocol == .udp && lifetime < e.lastSeen.elapsed now)

def memberNames : List String :=
  ["src_addr", "dst_addr", "src_port", "dst_port", "protocol", "state", "last_seen",
    "backend_id", "counter"]

instance : JsonForm Entry where
  toJson e := .obj [
    ("src_addr", toJson e.srcAddr),
    ("dst_addr", toJson e.dstAddr),
    ("src_port", toJson e.srcPort),
    ("dst_port", toJson e.dstPort),
    ("protocol", toJson e.protocol),
    ("state", toJson e.state),
    ("last_seen", toJson e.lastSeen),
    ("backend_id", toJson e.backendId),
    ("counter", toJson e.counter)]
  ofJson? j := do
    let m ← j.members? memberNames
    some {
      srcAddr := ← m.get? "src_addr"
      dstAddr := ← m.get? "dst_addr"
      srcPort := ← m.get? "src_port"
      dstPort := ← m.get? "dst_port"
      protocol := ← m.get? "protocol"
      state := ← m.get? "state"
      lastSeen := ← m.get? "last_seen"
      backendId := ← m.get? "backend_id"
      counter := ← m.get? "counter"}

end Entry

structure Settings where
  intervalSecs : UInt64 := 1
  /-- Whether a pass drops the flows that the data plane no longer has. -/
  gcEnabled : Bool := false
  gcLifetimeSecs : UInt64 := 3600
  deriving DecidableEq, Repr

namespace Settings

def validate (s : Settings) : Except FlowError Unit :=
  if s.intervalSecs = 0 then .error (.invalidSetting "interval_secs")
  else if s.gcLifetimeSecs = 0 then .error (.invalidSetting "gc_lifetime_secs")
  else .ok ()

/-- The time between two passes, in nanoseconds. -/
def interval (s : Settings) : Nat := s.intervalSecs.toNat * nanosPerSecond

def gcLifetime (s : Settings) : Nat := s.gcLifetimeSecs.toNat * nanosPerSecond

def memberNames : List String := ["interval_secs", "gc_enabled", "gc_lifetime_secs"]

instance : JsonForm Settings where
  toJson s := .obj [
    ("interval_secs", toJson s.intervalSecs),
    ("gc_enabled", toJson s.gcEnabled),
    ("gc_lifetime_secs", toJson s.gcLifetimeSecs)]
  ofJson? j := do
    let m ← j.members? memberNames
    some {
      intervalSecs := ← m.get? "interval_secs"
      gcEnabled := ← m.get? "gc_enabled"
      gcLifetimeSecs := ← m.get? "gc_lifetime_secs"}

end Settings
end EdgeControl.Flow
