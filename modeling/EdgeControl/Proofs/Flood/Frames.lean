import EdgeControl.Flood.Service
import EdgeControl.Proofs.Firewall.Frames

/-!
Operations of a flood service on any host: when the operations of the host make only changes of a
kind, so do they.
-/
namespace EdgeControl.Flood.Service

open EdgeControl.Action

variable {P α : Type} {change : P → P → Prop}

def base (s : Service P) : P := s.firewall.base

theorem onFirewall_along {act : Action (Firewall.Service P) α}
    (h : Confined (Along Firewall.Service.base change) act) :
    Confined (Along base change) (onFirewall act) :=
  fun s log => h s.firewall log

variable [Std.Refl change] [Trans change change change]

theorem setPolicy_along (policy : Policy) : Confined (Along base change) (setPolicy policy) := by
  refine .get_bind fun s => .bind (.ofExcept (fun found _ => ?_) fun e _ => ?_)
  · exact Confined.set_bind (Std.Refl.refl s.base) (.bind (.note _) fun _ => .pure _)
  · exact Std.Refl.refl s.base

variable [FirewallTables P] [FirewallTables.Within change]

theorem deletePolicy_along (id : UInt32) : Confined (Along base change) (deletePolicy id) := by
  refine .bind .get fun s => ?_
  split
  · refine .bind (onFirewall_along (.forM fun _ => Firewall.Service.deleteRule_along)) fun _ => ?_
    exact .bind (.modify fun s => Std.Refl.refl s.base) fun _ => .note _
  · exact .pure _

theorem mitigate_along (m : Mitigation) : Confined (Along base change) (mitigate m) := by
  refine .bind (.result (onFirewall_along Firewall.Service.setRule_along)) ?_
  rintro (e | id)
  · exact .bind (.note _) fun _ => .pure _
  · refine .get_bind fun s => ?_
    split
    · exact Confined.bind (.note _) (fun _ => .pure _) s
    · exact Confined.set_bind (Std.Refl.refl s.base) (.bind (.note _) fun _ => .pure _)

variable [FloodCounters P] [FloodCounters.Within change]

theorem tick_along : Confined (Along base change) (tick : Action (Service P) Nat) := by
  refine .bind (.result (onFirewall_along
    (Firewall.Service.onBase_along FloodCounters.Within.counters))) ?_
  rintro (e | observed)
  · exact .bind (.note _) fun _ => .pure _
  · refine .bind (.note _) fun _ => .get_bind fun s => ?_
    refine Confined.set_bind (Std.Refl.refl s.base) (.bind (.forM fun _ => .note _) fun _ => ?_)
    exact .bind (.mapM mitigate_along) fun _ => .pure _

end EdgeControl.Flood.Service
