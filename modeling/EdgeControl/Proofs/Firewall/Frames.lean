import EdgeControl.Firewall.Service
import EdgeControl.Proofs.Within

/-!
Operations of a firewall on any host: when the operations of the host make only changes of a kind,
so do they.
-/
namespace EdgeControl.Firewall.Service

open EdgeControl.Action

variable {P α : Type} {change : P → P → Prop} {rule : Rule} {id : UInt32}

theorem onBase_along {act : Action P α} (h : Confined change act) :
    Confined (Along base change) (onBase act) :=
  fun s log => h s.base log

variable [Std.Refl change] [Trans change change change]

theorem prepare_along : Confined (Along base change) (prepare rule) := by
  refine .get_bind fun s => .bind (.ofExcept (fun found _ => ?_) fun e _ => ?_)
  · exact Confined.set_bind (Std.Refl.refl s.base) (.pure _)
  · exact Std.Refl.refl s.base

variable [FirewallTables P] [FirewallTables.Within change]

theorem matcherOf_along : Confined (Along base change) (matcherOf rule) := by
  refine .bind (.result (onBase_along (FirewallTables.Within.matcher? _))) ?_
  rintro (e | found)
  · exact .bind (.note _) fun _ => .pure _
  · exact .pure _

theorem addToMatcher_along : Confined (Along base change) (addToMatcher rule) := by
  refine .bind matcherOf_along fun current => .guarded (.note _) fun _ => ?_
  refine .bind (.note _) fun _ => ?_
  exact .orNote (onBase_along (FirewallTables.Within.setMatcher _ _))

theorem setRule_along : Confined (Along base change) (setRule rule) := by
  refine .bind prepare_along fun rule => ?_
  refine .bind (.orNote (onBase_along (FirewallTables.Within.insertRule _ _))) fun _ => ?_
  refine .bind addToMatcher_along fun _ => ?_
  refine .bind (.orNote (onBase_along (FirewallTables.Within.insertAdvRule _ _))) fun _ => ?_
  refine .bind (.note _) fun _ => .bind (.modify fun s => ?_) fun _ => .pure _
  exact Std.Refl.refl s.base

theorem releaseNetwork_along : Confined (Along base change) (releaseNetwork rule) := by
  refine .bind .get fun s => ?_
  split
  · exact .bind (.note _) fun _ => onBase_along (FirewallTables.Within.insertRule _ _)
  · exact onBase_along (FirewallTables.Within.removeRule _)

theorem dropFromMatcher_along : Confined (Along base change) (dropFromMatcher rule) :=
  .bind matcherOf_along fun _ => .bind (.note _) fun _ =>
    onBase_along (FirewallTables.Within.setMatcher _ _)

theorem deleteRule_along : Confined (Along base change) (deleteRule id) := by
  refine .bind .get fun s => ?_
  split
  · refine .bind releaseNetwork_along fun _ => ?_
    refine .bind (.result (onBase_along (FirewallTables.Within.removeDropCounter _))) ?_
    rintro (e | _)
    · refine .bind (.note _) fun _ => .bind dropFromMatcher_along fun _ => ?_
      refine .bind (onBase_along (FirewallTables.Within.removeAdvRule _)) fun _ => ?_
      exact .bind (.modify fun s => Std.Refl.refl s.base) fun _ => .note _
    · refine .bind dropFromMatcher_along fun _ => ?_
      refine .bind (onBase_along (FirewallTables.Within.removeAdvRule _)) fun _ => ?_
      exact .bind (.modify fun s => Std.Refl.refl s.base) fun _ => .note _
  · exact .pure _

theorem rules_along : Confined (Along base change) rules := by
  refine .bind .get fun s => .mapM fun rule => ?_
  refine .bind (.result (onBase_along (FirewallTables.Within.dropCount? _))) ?_
  rintro (e | count)
  · exact .bind (.note _) fun _ => .pure _
  · exact .pure _

end EdgeControl.Firewall.Service
