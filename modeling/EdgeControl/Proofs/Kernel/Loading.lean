import EdgeControl.Agent.Lifecycle
import EdgeControl.Proofs.Except

/-!
What a kernel is like that has just been set up: no device carries the packet program, and the table
of the entry point's calls, which the agent had open only while it filled it, is empty.
-/
namespace EdgeControl

namespace Kernel

namespace Loading

variable {α β : Type} {load : Loading α} {next : α → Loading β}

def Gives (load : Loading α) (post : α → Prop) : Prop :=
  ∀ log a, (load.run log).1 = .ok a → post a

namespace Gives

theorem pure {post : α → Prop} {a : α} (h : post a) : Gives (Pure.pure a) post := by
  rintro log b answer
  cases answer
  exact h

theorem bind {mid : α → Prop} {post : β → Prop} (h : load.Gives mid)
    (h' : ∀ a, mid a → (next a).Gives post) : (load >>= next).Gives post := by
  intro log b answer
  have first := h log
  have run : (load >>= next).run log =
      ExceptT.bindCont next (load.run log).1 (load.run log).2 := rfl
  rw [run] at answer
  cases loaded : (load.run log).1 with
  | error e =>
    rw [loaded] at answer
    cases answer
  | ok a =>
    rw [loaded] at answer
    exact h' a (first a loaded) _ b answer

theorem skip {post : β → Prop} (h : ∀ a, (next a).Gives post) : (load >>= next).Gives post := by
  have loaded : load.Gives fun _ => True := fun _ _ _ => trivial
  exact loaded.bind fun a _ => h a

theorem foldlM {items : List α} {step : β → α → Loading β} {inv : β → Prop}
    (h : ∀ b item, inv b → (step b item).Gives inv) (b : β) (start : inv b) :
    (items.foldlM step b).Gives inv := by
  induction items generalizing b with
  | nil => exact pure start
  | cons item items ih => exact bind (h b item start) ih

theorem ofExcept {stage : Stage} {x : Except Failure α} {post : α → Prop}
    (h : ∀ a, x = .ok a → post a) : (Loading.ofExcept stage x).Gives post := by
  cases x with
  | error f =>
    intro log a answer
    cases answer
  | ok a => exact pure (h a rfl)

end Gives
end Loading

open Loading

theorem registerCall_handles {c : Calls} (once : c.handles = 1) (i : Nat) (p : Program) :
    (registerCall c i p).Gives fun c' => c'.handles = 1 := by
  refine .bind (.ofExcept fun written set => ?_) fun written same => .skip fun _ => .pure same
  rw [mapError_eq_ok, Calls.set] at set
  split at set
  · cases set
  split at set
  · cases set
    exact once
  · cases set

/-- The table of calls is open once while it is filled, and then not any more. -/
theorem registerCalls_empty (o : Object) : (registerCalls o).Gives fun c => c.targets = ∅ := by
  refine .skip fun spec => ?_
  have filled : (Program.tailCalls.foldlM (fun c (i, p) => registerCall c i p)
      (Calls.ofSpec spec)).Gives fun c => c.handles = 1 :=
    .foldlM (fun c (i, p) once => registerCall_handles once i p) _ rfl
  refine filled.bind fun c once => .pure ?_
  simp [Calls.close, once]

theorem start_blank (host : Host) (file : ObjectFile) :
    (start host file).Gives fun k => k.calls.targets = ∅ ∧ k.attached = ∅ := by
  refine .skip fun o => .skip fun _ => .bind (registerCalls_empty o) fun calls empty => ?_
  repeat refine .skip fun _ => ?_
  exact .pure ⟨empty, rfl⟩

end Kernel

namespace Agent

structure Blank (a : Agent Kernel) : Prop where
  held : a.held = none
  links : a.balancer.links = ∅
  targets : a.base.calls.targets = ∅
  attached : a.base.attached = ∅

theorem setUp_blank (c : Config) (h : Host) (file : Except Refusal Kernel.ObjectFile) :
    (setUp c h file).Gives Blank := by
  refine .skip fun frontend => .skip fun _ => .skip fun file => ?_
  exact .bind (Kernel.start_blank _ file) fun k blank => .pure ⟨rfl, rfl, blank.1, blank.2⟩

end Agent
end EdgeControl
