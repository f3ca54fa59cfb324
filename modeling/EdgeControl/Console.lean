import EdgeControl.Agent

/-!
An operator's console: commands as JSON objects, in which the member "do" names the command, and
what each of them answers. A command that cannot be read is none.
-/
namespace EdgeControl.Console

variable {P σ α : Type}

def answered (write : α → Json) (act : Action σ α) : Action σ Json := do return write (← act)

def nothing (_ : Unit) : Json := .null

def flood [FirewallTables P] [FloodCounters P] (j : Json) :
    Option (Action (Flood.Service P) Json) := do
  let onFirewall (act : Action (Firewall.Service P) Json) := some (Flood.Service.onFirewall act)
  match ← j.field? (α := String) "do" with
  | "set_rule" => onFirewall (answered toJson (Firewall.Service.setRule (← j.field? "rule")))
  | "delete_rule" => onFirewall (answered nothing (Firewall.Service.deleteRule (← j.field? "id")))
  | "rules" => onFirewall (answered toJson Firewall.Service.rules)
  | "set_policy" => return answered toJson (Flood.Service.setPolicy (← j.field? "policy"))
  | "delete_policy" => return answered nothing (Flood.Service.deletePolicy (← j.field? "id"))
  | "policies" => return do return toJson (← get).monitor.toList
  | "tick" => return answered toJson Flood.Service.tick
  | _ => none

def balancer [BalancerTables P] [FlowTable P] [Neighbors P] [Attacher P] (j : Json) :
    Option (Action (Balancer.Service P) Json) := do
  match ← j.field? (α := String) "do" with
  | "start" => return answered nothing Balancer.Service.start
  | "settings" => return do return toJson (← get).settings
  | "set_backend" => return answered toJson (Balancer.Service.setBackend (← j.field? "spec"))
  | "backends" => return do return toJson (← get).registry.toList
  | "drain" => return answered nothing (Balancer.Service.drain (← j.field? "id"))
  | "delete" => return answered nothing (Balancer.Service.delete (← j.field? "id"))
  | "delete_all" => return answered nothing Balancer.Service.deleteAll
  | "shutdown" => return answered nothing Balancer.Service.shutdown
  | "sync" =>
    let now := Instant.ofMillis (← j.field? "now_ms")
    return answered toJson (Balancer.Service.syncFlows now)
  | _ => none

variable [FirewallTables P] [FloodCounters P] [BalancerTables P] [FlowTable P] [Neighbors P]
  [Attacher P] [PacketCounters P]

def command (j : Json) : Option (Action (Agent P) Json) := do
  match ← j.field? (α := String) "do" with
  | "attach_upstream" => return answered toJson Agent.attachFrontend
  | "detach_upstream" => return answered nothing Agent.detachFrontend
  | "stats" => return Agent.onTraffic (answered toJson Traffic.Service.stats)
  | _ => (flood j).map Agent.onFlood <|> (balancer j).map Agent.onBalancer

end EdgeControl.Console
