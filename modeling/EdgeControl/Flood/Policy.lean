import EdgeControl.Firewall.Rule
import EdgeControl.Json
import EdgeControl.Order
import Std.Data.ExtTreeSet

/-!
Flood policies. A policy allows each source a number of packets of one protocol, and of one flag
for TCP, between two readings of the data plane's counters; a source that sends more is blocked.
-/
namespace EdgeControl.Flood

inductive PolicyError where
  | invalid (why : String)
  | flagWithoutTcp (protocol : String)
  | notFound (id : UInt32)
  deriving DecidableEq, Repr

namespace PolicyError

def message : PolicyError → String
  | invalid why => s!"invalid policy: {why}"
  | flagWithoutTcp p => s!"tcp flag requires protocol tcp, got {p}"
  | notFound id => s!"policy not found: {id}"

instance : Reported PolicyError where
  kind
    | invalid _ => "InvalidPolicy"
    | flagWithoutTcp _ => "FlagWithoutTcp"
    | notFound _ => "PolicyNotFound"
  wording? e := some e.message

def toService : PolicyError → ServiceError
  | notFound id => .ruleNotFound (toString id)
  | invalid why => .invalidRule why
  | flagWithoutTcp p => .invalidRule (flagWithoutTcp p).message

end PolicyError

/-- Whether a policy has blocked a source. It stays triggered until it is deleted. -/
inductive Status where
  | notTriggered
  | triggered
  deriving DecidableEq, Inhabited, Repr

namespace Status

def name : Status → String
  | notTriggered => "not_triggered"
  | triggered => "triggered"

def ofName? : String → Option Status
  | "not_triggered" => some notTriggered
  | "triggered" => some triggered
  | _ => none

def display : Status → String
  | notTriggered => "not triggered"
  | triggered => "triggered"

instance : JsonForm Status where
  toJson s := .str s.name
  ofJson? := Json.name? ofName?

end Status

structure CounterKey where
  address : UInt32
  protocol : UInt8
  flag : UInt8
  /-- Fills the record up to eight bytes; the data plane writes zero. -/
  padding : UInt16 := 0
  deriving DecidableEq, Repr

namespace CounterKey

def source (k : CounterKey) : Ipv4 := .ofWord k.address

def bytes (k : CounterKey) : Record.Bytes :=
  Record.ofUInt32 k.address ++ [k.protocol, k.flag] ++ Record.ofUInt16 k.padding

/-- A key with its padding zero is the list of its other fields. -/
instance : JsonForm CounterKey where
  toJson k := .arr [toJson k.source, toJson k.protocol, toJson k.flag]
  ofJson?
    | .arr [source, protocol, flag] => do
      let source : Ipv4 ← ofJson? source
      some {address := source.word, protocol := ← ofJson? protocol, flag := ← ofJson? flag}
    | _ => none

instance : Ord CounterKey :=
  ⟨compareLex (compareOn source)
    (compareLex (compareOn protocol) (compareLex (compareOn flag) (compareOn padding)))⟩

instance : Std.TransOrd CounterKey := inferInstanceAs (Std.TransCmp
  (compareLex (compareOn source)
    (compareLex (compareOn protocol) (compareLex (compareOn flag) (compareOn padding)))))

instance : Std.LawfulEqOrd CounterKey where
  eq_of_compare {a b} h := by
    obtain ⟨haddress, h⟩ := compareLex_eq h
    obtain ⟨hprotocol, h⟩ := compareLex_eq h
    obtain ⟨hflag, hpadding⟩ := compareLex_eq h
    have haddress : a.address = b.address := by
      rw [← Ipv4.word_ofWord a.address, ← Ipv4.word_ofWord b.address]
      exact congrArg Ipv4.word (compareOn_eq haddress)
    have hprotocol := compareOn_eq hprotocol
    have hflag := compareOn_eq hflag
    have hpadding := compareOn_eq hpadding
    cases a
    cases b
    simp only at haddress hprotocol hflag hpadding
    rw [haddress, hprotocol, hflag, hpadding]

end CounterKey

structure Policy where
  id : UInt32 := 0
  protocol : Protocol
  flag : Option TcpFlag := none
  limit : UInt64
  status : Status := .notTriggered
  ruleIds : List UInt32 := []
  blocked : Std.ExtTreeSet Ipv4 := ∅

namespace Policy

/-- A policy names one protocol, and a flag only for TCP. -/
def validate (p : Policy) : Except PolicyError Unit :=
  if p.protocol == .any then .error (.invalid "protocol must be one of icmp, tcp, udp")
  else if p.flag.isSome && p.protocol != .tcp then .error (.flagWithoutTcp p.protocol.name)
  else .ok ()

def flagBits (p : Policy) : UInt8 := (p.flag.map TcpFlag.bits).getD 0

/-- Whether the policy watches the counter `key`, whose protocol has been read as `protocol`. -/
def watches (p : Policy) (protocol : Protocol) (key : CounterKey) : Bool :=
  p.protocol == protocol && p.flagBits == key.flag

/-- A set of addresses is written in ascending order, and read from a list in any order. -/
instance : JsonForm (Std.ExtTreeSet Ipv4) where
  toJson s := toJson s.toList
  ofJson? j := (ofJson? j).map fun (addrs : List Ipv4) => .ofList addrs

def memberNames : List String :=
  ["id", "protocol", "flag", "limit", "status", "fw_rule_ids", "blocked"]

instance : JsonForm Policy where
  toJson p := .obj <| [
    ("id", toJson p.id),
    ("protocol", toJson p.protocol),
    ("flag", toJson p.flag),
    ("limit", toJson p.limit),
    ("status", toJson p.status),
    ("fw_rule_ids", toJson p.ruleIds)] ++
    if p.blocked.isEmpty then [] else [("blocked", toJson p.blocked)]
  ofJson? j := do
    let m ← j.members? memberNames
    some {
      id := ← m.getD? "id" 0
      protocol := ← m.get? "protocol"
      flag := ← m.getD? "flag" none
      limit := ← m.get? "limit"
      status := ← m.getD? "status" .notTriggered
      ruleIds := ← m.getD? "fw_rule_ids" []
      blocked := ← m.getD? "blocked" ∅}

end Policy
end EdgeControl.Flood
