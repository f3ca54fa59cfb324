import EdgeControl.Balancer.Backend
import EdgeControl.Config.Policy
import EdgeControl.Config.Rule
import EdgeControl.Flow.Entry
import EdgeControl.Log.Setting

/-!
The configuration of the agent: its parts and their defaults, the two notations it is read from,
and the checks that it has to pass before anything is installed.
-/
namespace EdgeControl

structure Config where
  device : String
  vip : Ipv4
  logLevel : LogLevel := .info
  logFormat : LogFormat := .json
  objectPath? : Option String := none
  tracking : Flow.Settings := {}
  /-- How long an address is probed before its neighbor is looked up. -/
  probeTimeoutMs : UInt64 := 1000
  backends : List Balancer.Spec := []
  rules : List Config.Rule := []
  policies : List Config.Policy := []
  deriving DecidableEq, Repr

namespace Config

def defaultObjectPath : String := "/usr/local/lib/xdplb/xdplb"

def objectPath (c : Config) : String := c.objectPath?.getD defaultObjectPath

def agentJson (c : Config) : Json := .obj [
  ("upstream", .str c.device),
  ("vip", toJson c.vip),
  ("log_level", toJson c.logLevel),
  ("log_format", toJson c.logFormat),
  ("ebpf_program_path", toJson c.objectPath?)]

def gcJson (s : Flow.Settings) : Json := .obj [
  ("enabled", toJson s.gcEnabled),
  ("lifetime_secs", toJson s.gcLifetimeSecs)]

def balancerJson (c : Config) : Json := .obj [
  ("conntrack_interval_secs", toJson c.tracking.intervalSecs),
  ("gc", gcJson c.tracking),
  ("neighbor_probe_timeout_ms", toJson c.probeTimeoutMs),
  ("backends", toJson c.backends)]

def firewallJson (c : Config) : Json := .obj [("rules", toJson c.rules)]

def protectionJson (c : Config) : Json := .obj [("policies", toJson c.policies)]

section Reading

variable {σ : Type} [Source σ]

def readAddress? (s : σ) : Option Ipv4 := (text? s).bind Ipv4.ofString?

def readBackend? (s : σ) : Option Balancer.Spec := do
  let f ← fields? ["name", "addr", "health_check"] true s
  some {
    name := ← f.get? "name" text?
    addr := ← f.get? "addr" readAddress?
    healthCheck := ← f.getD? "health_check" "" text?}

def readAgent? (s : σ) : Option Config := do
  let f ← fields? ["upstream", "vip", "log_level", "log_format", "ebpf_program_path"] true s
  some {
    device := ← f.get? "upstream" text?
    vip := ← f.get? "vip" readAddress?
    logLevel := ← f.getD? "log_level" .info fun s => (choice? s).bind LogLevel.ofName?
    logFormat := ← f.getD? "log_format" .json fun s => (choice? s).bind LogFormat.ofName?
    objectPath? := ← f.getD? "ebpf_program_path" none optionalText?}

def readGc? (t : Flow.Settings) (s : σ) : Option Flow.Settings := do
  let f ← fields? ["enabled", "lifetime_secs"] true s
  some {t with
    gcEnabled := ← f.getD? "enabled" t.gcEnabled truth?
    gcLifetimeSecs := ← f.getD? "lifetime_secs" t.gcLifetimeSecs natural?}

def readBalancer? (c : Config) (s : σ) : Option Config := do
  let f ← fields?
    ["conntrack_interval_secs", "gc", "neighbor_probe_timeout_ms", "backends"] true s
  let intervalSecs ← f.getD? "conntrack_interval_secs" c.tracking.intervalSecs natural?
  let tracking := {c.tracking with intervalSecs}
  some {c with
    tracking := ← f.getD? "gc" tracking (readGc? tracking)
    probeTimeoutMs := ← f.getD? "neighbor_probe_timeout_ms" c.probeTimeoutMs natural?
    backends := ← f.getD? "backends" c.backends (list? readBackend?)}

def readFirewall? (c : Config) (s : σ) : Option Config := do
  let f ← fields? ["rules"] false s
  some {c with rules := ← f.getD? "rules" c.rules (list? Rule.read?)}

def readProtection? (c : Config) (s : σ) : Option Config := do
  let f ← fields? ["policies"] false s
  some {c with policies := ← f.getD? "policies" c.policies (list? Policy.read?)}

/-- Reads a configuration. Only the part about the agent itself has to be there. -/
def read? (s : σ) : Option Config := do
  let f ← fields? ["agent", "loadbalancer", "firewall", "dos_protection"] true s
  let c ← f.get? "agent" readAgent?
  let c ← f.getD? "loadbalancer" c (readBalancer? c)
  let c ← f.getD? "firewall" c (readFirewall? c)
  f.getD? "dos_protection" c (readProtection? c)

end Reading

instance : JsonForm Config where
  toJson c := .obj [
    ("agent", c.agentJson),
    ("loadbalancer", c.balancerJson),
    ("firewall", c.firewallJson),
    ("dos_protection", c.protectionJson)]
  ofJson? := read?

def maxRules : Nat := 65535

def maxPolicies : Nat := 256

/-- No more backends than slots in the data plane's rotation. -/
def maxBackends : Nat := 64

def checkCount (field : String) (count max : Nat) : Except ConfigError Unit :=
  if max < count then .error (.invalid field s!"count {count} exceeds maximum {max}")
  else .ok ()

def ruleAt (r : Rule) (i : Nat) : Except ConfigError Firewall.Rule :=
  r.toRule s!"firewall.rules[{i}]"

def policyAt (p : Policy) (i : Nat) : Except ConfigError Flood.Policy :=
  p.toPolicy s!"dos_protection.policies[{i}]"

/-- Whether everything in the configuration can be installed; the first fault is reported. -/
def validate (c : Config) : Except ConfigError Unit := do
  if (Text.trim c.device.toList).isEmpty then
    throw (.invalid "agent.upstream" "an upstream interface is required")
  if !c.vip.isUnicast then
    throw (.invalidAddress "agent.vip" (toString c.vip) "must be a unicast address")
  checkCount "firewall.rules" c.rules.length maxRules
  checkCount "dos_protection.policies" c.policies.length maxPolicies
  checkCount "loadbalancer.backends" c.backends.length maxBackends
  ConfigError.about "loadbalancer" Flow.FlowError.message c.tracking.validate
  if c.probeTimeoutMs = 0 then
    throw (.invalid "loadbalancer.neighbor_probe_timeout_ms" "must be greater than 0")
  for (b, i) in c.backends.zipIdx do
    ConfigError.about s!"loadbalancer.backends[{i}]" Balancer.BalancerError.message b.validate
  for (r, i) in c.rules.zipIdx do
    discard (ruleAt r i)
  for (p, i) in c.policies.zipIdx do
    discard (policyAt p i)

def ofYaml (s : String) : Except ConfigError Config := do
  match (YamlValue.ofText? s.toList).bind read? with
  | none => throw .malformed
  | some c =>
    c.validate
    return c

structure File where
  /-- The twelve bits that say who may do what with it. -/
  permissions : Nat
  content : String
  deriving DecidableEq, Repr

namespace File

/-- Whether its owner, as whom the agent runs, may read the file. -/
def readable (f : File) : Bool := f.permissions.testBit 8

def worldWritable (f : File) : Bool := f.permissions.testBit 1

/-- The mode of a regular file with these permissions, in base eight. -/
def modeText (f : File) : String := Text.padded 8 4 (0o100000 + f.permissions)

end File

/-- Loads the configuration from what was found at `path`. A file that everybody may write to is
accepted with a warning. -/
def load (path : String) (file : Except Refusal File) :
    StateM Log (Except ConfigError Config) := do
  match file with
  | .error why => return .error (.unreadable why)
  | .ok f =>
    if f.worldWritable then
      modify (·.push (.warn "config file is world-writable, consider chmod 644 or stricter"
        [("path", path), ("mode", f.modeText)]))
    return if f.readable then ofYaml f.content else .error (.unreadable .accessDenied)

end Config
end EdgeControl
