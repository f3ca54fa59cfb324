import EdgeControl.Config.Error
import EdgeControl.Config.Source
import EdgeControl.Firewall.Rule

/-!
Firewall rules as an operator writes them.
-/
namespace EdgeControl.Config

structure Rule where
  network : String
  protocol : String := "any"
  srcPorts : Option String := none
  dstPorts : Option String := none
  deriving DecidableEq, Repr

namespace Rule

def networkOf (s : String) : Except String Network :=
  if s.toList.contains '/' then (Network.ofString s).mapError ProtocolError.message
  else
    match Ipv4.ofString? s with
    | some a => .ok (.host a)
    | none => .error Ipv4.invalidText

/-- A port range; every port if there is no text. -/
def portsOf (field : String) : Option String → Except ConfigError PortRange
  | none => .ok .all
  | some s => ConfigError.about field ProtocolError.message (PortRange.ofString s)

def toRule (r : Rule) (field : String) : Except ConfigError Firewall.Rule := do
  let network ← (networkOf r.network).mapError (.invalidAddress s!"{field}.network" r.network)
  let protocol ← ConfigError.about s!"{field}.protocol" ProtocolError.message
    (Protocol.ofString r.protocol)
  let srcPorts ← portsOf s!"{field}.src_ports" r.srcPorts
  let dstPorts ← portsOf s!"{field}.dst_ports" r.dstPorts
  let rule : Firewall.Rule := {network, srcPorts, dstPorts, protocol}
  ConfigError.about field Firewall.RuleError.message rule.validate
  return rule

def toJson (r : Rule) : Json := .obj [
  ("network", .str r.network),
  ("protocol", .str r.protocol),
  ("src_ports", EdgeControl.toJson r.srcPorts),
  ("dst_ports", EdgeControl.toJson r.dstPorts)]

def read? {σ : Type} [Source σ] (s : σ) : Option Rule := do
  let f ← fields? ["network", "protocol", "src_ports", "dst_ports"] true s
  some {
    network := ← f.get? "network" text?
    protocol := ← f.getD? "protocol" "any" text?
    srcPorts := ← f.getD? "src_ports" none optionalText?
    dstPorts := ← f.getD? "dst_ports" none optionalText?}

instance : JsonForm Rule := ⟨toJson, read?⟩

end Rule
end EdgeControl.Config
