import EdgeControl.Report
import EdgeControl.Text.Numeral

/-!
Transport protocols and TCP flags, with the numbers that the data plane knows them by, and the
ways in which a text or a number fails to name one of the protocol-level values.
-/
namespace EdgeControl

/-- A text or a number that is none of the values it should be. Each carries what was read. -/
inductive ProtocolError where
  | unknownProtocol (text : String)
  | unknownTcpFlag (text : String)
  | invalidMac (text : String)
  | invalidNetwork (text : String)
  | invalidPortRange (text : String)
  deriving DecidableEq, Repr

def ProtocolError.message : ProtocolError → String
  | .unknownProtocol s => s!"unknown protocol: {s}"
  | .unknownTcpFlag s => s!"unknown tcp flag: {s}"
  | .invalidMac s => s!"invalid MAC address: {s}"
  | .invalidNetwork s => s!"invalid network: {s}"
  | .invalidPortRange s => s!"invalid port range: {s}"

instance : Reported ProtocolError where
  kind
    | .unknownProtocol _ => "UnknownProtocol"
    | .unknownTcpFlag _ => "UnknownTcpFlag"
    | .invalidMac _ => "InvalidMac"
    | .invalidNetwork _ => "InvalidNetwork"
    | .invalidPortRange _ => "InvalidPortRange"
  wording? e := some e.message

inductive Protocol where
  /-- Matches every packet, in firewall rules. -/
  | any
  | icmp
  | tcp
  | udp
  deriving DecidableEq, Inhabited, Repr

namespace Protocol

def number : Protocol → UInt32
  | any => 0
  | icmp => 1
  | tcp => 6
  | udp => 17

/-- The protocol with a number. There is no catch-all for the unknown ones. -/
def ofNumber (n : UInt32) : Except ProtocolError Protocol :=
  if n = 0 then .ok any
  else if n = 1 then .ok icmp
  else if n = 6 then .ok tcp
  else if n = 17 then .ok udp
  else .error (.unknownProtocol (toString n.toNat))

theorem ofNumber_eq_ok_iff {n : UInt32} {protocol : Protocol} :
    ofNumber n = .ok protocol ↔ n = protocol.number := by
  constructor
  · intro known
    unfold ofNumber at known
    grind [number]
  · rintro rfl
    cases protocol <;> rfl

theorem ofNumber_eq_error_iff {n : UInt32} {e : ProtocolError} :
    ofNumber n = .error e ↔ n ∉ [0, 1, 6, 17] ∧ e = .unknownProtocol (toString n.toNat) := by
  unfold ofNumber
  grind

def name : Protocol → String
  | any => "any"
  | icmp => "icmp"
  | tcp => "tcp"
  | udp => "udp"

instance : ToString Protocol := ⟨name⟩

def ofName? : String → Option Protocol
  | "any" => some any
  | "icmp" => some icmp
  | "tcp" => some tcp
  | "udp" => some udp
  | _ => none

def ofString (s : String) : Except ProtocolError Protocol :=
  match ofName? (String.ofList (Text.lowercase s.toList)) with
  | some p => .ok p
  | none => .error (.unknownProtocol s)

instance : JsonForm Protocol where
  toJson p := .str p.name
  ofJson? := Json.name? ofName?

end Protocol

inductive TcpFlag where
  | fin
  | syn
  | rst
  | psh
  | ack
  | urg
  | ece
  | cwr
  deriving DecidableEq, Repr

namespace TcpFlag

def bits : TcpFlag → UInt8
  | fin => 0x01
  | syn => 0x02
  | rst => 0x04
  | psh => 0x08
  | ack => 0x10
  | urg => 0x20
  | ece => 0x40
  | cwr => 0x80

def name : TcpFlag → String
  | fin => "fin"
  | syn => "syn"
  | rst => "rst"
  | psh => "psh"
  | ack => "ack"
  | urg => "urg"
  | ece => "ece"
  | cwr => "cwr"

instance : ToString TcpFlag := ⟨name⟩

def ofName? : String → Option TcpFlag
  | "fin" => some fin
  | "syn" => some syn
  | "rst" => some rst
  | "psh" => some psh
  | "ack" => some ack
  | "urg" => some urg
  | "ece" => some ece
  | "cwr" => some cwr
  | _ => none

def ofString (s : String) : Except ProtocolError TcpFlag :=
  match ofName? (String.ofList (Text.lowercase s.toList)) with
  | some f => .ok f
  | none => .error (.unknownTcpFlag s)

instance : JsonForm TcpFlag where
  toJson f := .str f.name
  ofJson? := Json.name? ofName?

end TcpFlag
end EdgeControl
