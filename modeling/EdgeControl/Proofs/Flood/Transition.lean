import EdgeControl.Flood.Service
import EdgeControl.Proofs.Firewall.Installed

/-!
What a flood service and its firewall hold between two steps, and everything that a call can do to
it. A tick asks for its mitigations one after the other, and goes on past one that fails.
-/
namespace EdgeControl.Flood

structure Snapshot where
  monitor : Monitor
  firewall : Firewall.Snapshot

def Service.snapshot (s : Service Memory) : Snapshot := ⟨s.monitor, s.firewall.snapshot⟩

namespace Snapshot

variable (may : Operation → Prop) (v : Snapshot)

inductive SettingPolicy (given : Policy) : Except ServiceError UInt32 → Snapshot → Prop
  | refused (e : PolicyError) (invalid : v.monitor.insert given = .error e) :
      SettingPolicy given (.error e.toService) v
  | registered (id : UInt32) (monitor : Monitor)
      (accepted : v.monitor.insert given = .ok (id, monitor)) :
      SettingPolicy given (.ok id) {v with monitor}

/-- A policy stays until all its rules are deleted. -/
inductive DeletingPolicy (id : UInt32) : Except ServiceError Unit → Snapshot → Prop
  | unknown (absent : v.monitor.get? id = none) : DeletingPolicy id (.ok ()) v
  | halted (p : Policy) (known : v.monitor.get? id = some p) (e : ServiceError)
      (firewall : Firewall.Snapshot)
      (steps : v.firewall.DeletingEach may p.ruleIds (.error e) firewall) :
      DeletingPolicy id (.error e) {v with firewall}
  | deleted (p : Policy) (known : v.monitor.get? id = some p) (firewall : Firewall.Snapshot)
      (steps : v.firewall.DeletingEach may p.ruleIds (.ok ()) firewall) :
      DeletingPolicy id (.ok ()) ⟨v.monitor.erase id, firewall⟩

/-- Asking for one mitigation. It may be refused by the firewall, or be for no policy. -/
inductive Mitigating (m : Mitigation) : Bool → Snapshot → Prop
  | refused (e : ServiceError) (firewall : Firewall.Snapshot)
      (step : v.firewall.Setting may m.rule (.error e) firewall) :
      Mitigating m false {v with firewall}
  | unrecorded (id : UInt32) (firewall : Firewall.Snapshot)
      (step : v.firewall.Setting may m.rule (.ok id) firewall) (e : PolicyError)
      (unknown : v.monitor.record m.policyId id m.source = .error e) :
      Mitigating m false {v with firewall}
  | installed (id : UInt32) (firewall : Firewall.Snapshot)
      (step : v.firewall.Setting may m.rule (.ok id) firewall) (monitor : Monitor)
      (recorded : v.monitor.record m.policyId id m.source = .ok monitor) :
      Mitigating m true ⟨monitor, firewall⟩

inductive MitigatingAll : Snapshot → List Mitigation → List Bool → Snapshot → Prop
  | done (v : Snapshot) : MitigatingAll v [] [] v
  | next {v u w : Snapshot} {m : Mitigation} {b : Bool} {ms : List Mitigation} {bs : List Bool}
      (first : v.Mitigating may m b u) (rest : MitigatingAll u ms bs w) :
      MitigatingAll v (m :: ms) (b :: bs) w

def evaluated (observed : List (CounterKey × UInt64)) : Snapshot :=
  {v with monitor := (v.monitor.evaluate observed).2}

inductive Ticking (observed : List (CounterKey × UInt64)) : Nat → Snapshot → Prop
  | unread (fault : may .counters) : Ticking observed 0 v
  | reacted (bs : List Bool) (w : Snapshot) (steps : MitigatingAll may (v.evaluated observed)
      (v.monitor.evaluate observed).1.mitigations bs w) :
      Ticking observed (bs.count true) w

end Snapshot
end EdgeControl.Flood
