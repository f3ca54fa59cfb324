import EdgeControl.Kernel
import EdgeControl.Proofs.Except
import EdgeControl.Proofs.Within

/-!
What the services ask of a kernel, but for attaching and detaching, touches neither the calls of the
entry point nor the devices that it is attached to.
-/
namespace EdgeControl.Kernel

open EdgeControl.Action

/-- A kind of change that takes in whatever happens to the tables of the services. -/
class Tabular (change : Kernel → Kernel → Prop) : Prop where
  tables (k k' : Kernel) : k'.calls = k.calls → k'.attached = k.attached → change k k'

instance : Tabular (Same calls) := ⟨fun _ _ calls _ => calls⟩

variable {change : Kernel → Kernel → Prop} [Tabular change] {α : Type} {call : String}

theorem unchanged (k : Kernel) : change k k := Tabular.tables k k rfl rfl

theorem reading_within {f : Kernel → Except TableError α} : Confined change (reading call f) :=
  fun k => .get_bind (.ofExcept (fun _ _ => unchanged k) fun _ _ => unchanged k)

theorem writing_within {f : Kernel → Except TableError Kernel}
    (h : ∀ k k', f k = .ok k' → k'.calls = k.calls ∧ k'.attached = k.attached) :
    Confined change (writing call f) := by
  refine fun k => .bind (.get_bind (.ofExcept (fun k' written _ => ?_) fun _ _ => unchanged k))
  obtain ⟨calls, attached⟩ := h k k' written
  exact Tabular.tables k k' calls attached

theorem storing_within {store : Kernel → Except TableError α} {put : Kernel → α → Kernel}
    (h : ∀ k a, (put k a).calls = k.calls ∧ (put k a).attached = k.attached) :
    Confined change (writing call fun k => do return put k (← store k)) := by
  refine writing_within fun k k' written => ?_
  obtain ⟨a, -, same⟩ := bind_eq_ok.mp written
  cases same
  exact h k a

instance : FirewallTables.Within change where
  insertRule _ _ := storing_within fun _ _ => ⟨rfl, rfl⟩
  removeRule _ := storing_within fun _ _ => ⟨rfl, rfl⟩
  matcher? _ := reading_within
  setMatcher _ _ := storing_within fun _ _ => ⟨rfl, rfl⟩
  insertAdvRule _ _ := storing_within fun _ _ => ⟨rfl, rfl⟩
  removeAdvRule _ := storing_within fun _ _ => ⟨rfl, rfl⟩
  dropCount? _ := reading_within
  removeDropCounter _ := storing_within fun _ _ => ⟨rfl, rfl⟩

instance : BalancerTables.Within change where
  setFrontend _ := storing_within fun _ _ => ⟨rfl, rfl⟩
  allowRedirect ifindex := by
    refine writing_within fun k k' written => ?_
    obtain ⟨-, written⟩ := unless_eq_ok.mp written
    obtain ⟨redirect, -, same⟩ := bind_eq_ok.mp written
    cases same
    exact ⟨rfl, rfl⟩
  revokeRedirect _ := storing_within fun _ _ => ⟨rfl, rfl⟩
  backendInfo? _ := reading_within
  setBackendInfo _ _ := storing_within fun _ _ => ⟨rfl, rfl⟩
  removeBackendInfo _ := storing_within fun _ _ => ⟨rfl, rfl⟩
  setBackendIfindex _ _ := storing_within fun _ _ => ⟨rfl, rfl⟩
  removeBackendIfindex _ := storing_within fun _ _ => ⟨rfl, rfl⟩
  setSlot _ _ := storing_within fun _ _ => ⟨rfl, rfl⟩

instance : FloodCounters.Within change where
  counters := by
    refine fun k => .get_bind ?_
    split
    · exact .pure (unchanged k)
    · exact .note_bind (.pure (unchanged k))

instance : FlowTable.Within change where
  flows := by
    refine fun k => .get_bind ?_
    split
    · exact .pure (unchanged k)
    · exact .pure (unchanged k)
  removeFlow _ := storing_within fun _ _ => ⟨rfl, rfl⟩

instance : Neighbors.Within change where
  probe _ := .onPart (fun k host => Tabular.tables k {k with host} rfl rfl) _
  resolve _ := .onPart (fun k host => Tabular.tables k {k with host} rfl rfl) _

instance [Trans change change change] : PacketCounters.Within change where
  packetCount _ := by
    have : Std.Refl change := ⟨unchanged⟩
    exact .bind reading_within fun _ => .pure _

end EdgeControl.Kernel
