import EdgeControl.Config.Error
import EdgeControl.Config.Source
import EdgeControl.Flood.Policy

/-!
Flood policies as an operator writes them.
-/
namespace EdgeControl.Config

structure Policy where
  protocol : String
  flag : Option String := none
  limit : UInt64
  deriving DecidableEq, Repr

namespace Policy

/-- The policy that the texts describe, ready to be registered. Failures name parts of `field`. -/
def toPolicy (p : Policy) (field : String) : Except ConfigError Flood.Policy := do
  let protocol ← ConfigError.about s!"{field}.protocol" ProtocolError.message
    (Protocol.ofString p.protocol)
  let flag ← p.flag.mapM fun s =>
    ConfigError.about s!"{field}.flag" ProtocolError.message (TcpFlag.ofString s)
  let policy : Flood.Policy := {protocol, flag, limit := p.limit}
  ConfigError.about field Flood.PolicyError.message policy.validate
  return policy

def toJson (p : Policy) : Json := .obj [
  ("protocol", .str p.protocol),
  ("flag", EdgeControl.toJson p.flag),
  ("limit", EdgeControl.toJson p.limit)]

def read? {σ : Type} [Source σ] (s : σ) : Option Policy := do
  let f ← fields? ["protocol", "flag", "limit"] true s
  some {
    protocol := ← f.get? "protocol" text?
    flag := ← f.getD? "flag" none optionalText?
    limit := ← f.get? "limit" natural?}

instance : JsonForm Policy := ⟨toJson, read?⟩

end Policy
end EdgeControl.Config
