import EdgeControl.Address.Network
import EdgeControl.ServiceError

/-!
Firewall rules. A rule denies traffic from or to a network. The data plane's record of a rule has
one port range, matched against source or destination, so at most one of a rule's two ranges is
set.
-/
namespace EdgeControl

/-- An inclusive range of ports; 0 to 0 stands for every port. -/
structure PortRange where
  first : UInt16
  last : UInt16
  deriving DecidableEq, Repr

namespace Firewall

inductive RuleError where
  | invalidPortRange (first last : UInt16)
  | invalidPrefixLength (len : Nat)
  | bothPortRanges
  | icmpWithPorts
  | idsExhausted (last : Nat)
  | notFound (id : UInt32)
  deriving DecidableEq, Repr

namespace RuleError

def message : RuleError → String
  | invalidPortRange first last => s!"invalid port range: {first}..{last}"
  | invalidPrefixLength len => s!"invalid CIDR prefix length: {len}"
  | bothPortRanges => "a rule matches either a source or a destination port range, not both"
  | icmpWithPorts => "ICMP rules cannot specify port ranges"
  | idsExhausted last => s!"rule id space exhausted at {last}"
  | notFound id => s!"rule not found: {id}"

instance : Reported RuleError where
  kind
    | invalidPortRange .. => "InvalidPortRange"
    | invalidPrefixLength _ => "InvalidCidr"
    | bothPortRanges => "ConflictingPortRanges"
    | icmpWithPorts => "IcmpWithPorts"
    | idsExhausted _ => "IdSpaceExhausted"
    | notFound _ => "RuleNotFound"
  wording? e := some e.message

def toService : RuleError → ServiceError
  | notFound id => .ruleNotFound (toString id)
  | idsExhausted last => .engine (idsExhausted last).message
  | e => .invalidRule e.message

end RuleError
end Firewall

namespace PortRange

def all : PortRange := ⟨0, 0⟩

def single (port : UInt16) : PortRange := ⟨port, port⟩

def isAny (r : PortRange) : Bool := r == all

def contains (r : PortRange) (port : UInt16) : Bool :=
  r.isAny || (r.first ≤ port && port ≤ r.last)

def validate (r : PortRange) : Except Firewall.RuleError Unit :=
  if r.last < r.first then .error (.invalidPortRange r.first r.last) else .ok ()

def toText (r : PortRange) : List Char :=
  if r.isAny then ['a', 'n', 'y']
  else if r.first = r.last then Nat.toDigits 10 r.first.toNat
  else Nat.toDigits 10 r.first.toNat ++ '-' :: Nat.toDigits 10 r.last.toNat

instance : ToString PortRange := ⟨fun r => String.ofList r.toText⟩

def port? (cs : List Char) : Option UInt16 := (Text.decimal? 65535 cs).map UInt16.ofNat

/-- Reads the word any in any letter case, one port, or two ports around the first dash. Blanks
around the text and around each of the two ports are skipped. -/
def ofText? (cs : List Char) : Option PortRange :=
  let cs := Text.trim cs
  if Text.lowercase cs = ['a', 'n', 'y'] then some all
  else
    match Text.splitOnce '-' cs with
    | none => (port? cs).map single
    | some (first, last) => do
      let first ← port? (Text.trim first)
      let last ← port? (Text.trim last)
      if last < first then none else some ⟨first, last⟩

def ofString (s : String) : Except ProtocolError PortRange :=
  match ofText? s.toList with
  | some r => .ok r
  | none => .error (.invalidPortRange s)

instance : JsonForm PortRange where
  toJson r := .str (toString r)
  ofJson?
    | .str s => (ofString s).toOption
    | _ => none

end PortRange

namespace Network

def ofAddr (addr : Ipv4) (len : Nat) : Except Firewall.RuleError Network :=
  match ofAddr? addr len with
  | some n => .ok n
  | none => .error (.invalidPrefixLength len)

end Network

namespace Firewall

structure RuleEntry where
  id : UInt32
  fromPort : UInt16
  toPort : UInt16
  protocol : UInt32
  deriving DecidableEq, Repr

def RuleEntry.bytes (e : RuleEntry) : Record.Bytes :=
  Record.ofUInt32 e.id ++ Record.ofUInt16 e.fromPort ++ Record.ofUInt16 e.toPort ++
    Record.ofUInt32 e.protocol

def RuleEntry.toJson (e : RuleEntry) : Json := .obj [
  ("id", EdgeControl.toJson e.id),
  ("from_port", EdgeControl.toJson e.fromPort),
  ("to_port", EdgeControl.toJson e.toPort),
  ("protocol", EdgeControl.toJson e.protocol)]

structure Rule where
  /-- Given when the rule is installed, 0 before. -/
  id : UInt32 := 0
  network : Network
  srcPorts : PortRange := .all
  dstPorts : PortRange := .all
  protocol : Protocol := .any
  dropCount : UInt64 := 0
  deriving DecidableEq, Repr

namespace Rule

def blockHost (addr : Ipv4) (protocol : Protocol) : Rule := {network := .host addr, protocol}

def ports (r : Rule) : PortRange := if r.dstPorts.isAny then r.srcPorts else r.dstPorts

/-- Both ranges are in order, at most one is set, and none is for a protocol without ports. -/
def validate (r : Rule) : Except RuleError Unit := do
  r.srcPorts.validate
  r.dstPorts.validate
  if !r.srcPorts.isAny && !r.dstPorts.isAny then
    throw .bothPortRanges
  if r.protocol == .icmp && !r.ports.isAny then
    throw .icmpWithPorts

def entry (r : Rule) : RuleEntry :=
  ⟨r.id, r.ports.first, r.ports.last, r.protocol.number⟩

def memberNames : List String :=
  ["id", "network", "src_ports", "dst_ports", "protocol", "drop_count"]

instance : JsonForm Rule where
  toJson r := .obj [
    ("id", toJson r.id),
    ("network", toJson r.network),
    ("src_ports", toJson r.srcPorts),
    ("dst_ports", toJson r.dstPorts),
    ("protocol", toJson r.protocol),
    ("drop_count", toJson r.dropCount)]
  ofJson? j := do
    let m ← j.members? memberNames
    some {
      id := ← m.getD? "id" 0
      network := ← m.get? "network"
      srcPorts := ← m.getD? "src_ports" .all
      dstPorts := ← m.getD? "dst_ports" .all
      protocol := ← m.getD? "protocol" .any
      dropCount := ← m.getD? "drop_count" 0}

end Rule
end Firewall
end EdgeControl
