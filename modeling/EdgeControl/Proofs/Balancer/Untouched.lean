import EdgeControl.Proofs.Balancer.Frames
import EdgeControl.Proofs.Balancer.Run

/-!
The operations on backends and on the frontend leave the tracked flows and the settings alone,
whatever fails during them. Only a pass over the flows changes the tracker.
-/
namespace EdgeControl.Balancer

open EdgeControl.Action

namespace Service

variable {α : Type}

structure Untouched (s t : Service Memory) : Prop where
  tracker : t.tracker = s.tracker
  settings : t.settings = s.settings

theorem Untouched.refl (s : Service Memory) : Untouched s s := ⟨rfl, rfl⟩

theorem Untouched.trans {s t u : Service Memory} (h : Untouched s t) (h' : Untouched t u) :
    Untouched s u :=
  ⟨h'.tracker.trans h.tracker, h'.settings.trans h.settings⟩

instance : Std.Refl Untouched := ⟨.refl⟩

instance : Trans Untouched Untouched Untouched := ⟨.trans⟩

def Spares (act : Action (Service Memory) α) : Prop :=
  ∀ s, act.Ensures s fun _ t => Untouched s t

theorem lifts_untouched : Lifts Anything Untouched := ⟨fun _ _ _ => ⟨rfl, rfl⟩⟩

theorem covers_untouched : Covers Anything Untouched where
  toLifts := lifts_untouched
  registry _ _ := ⟨rfl, rfl⟩
  attachDevice _ _ := attachDevice_confined (lifts_untouched.onBase (confined_anything _))
    fun _ _ => ⟨rfl, rfl⟩
  detachDevice _ := detachDevice_confined (fun _ => lifts_untouched.onBase (confined_anything _))
    fun _ _ => ⟨rfl, rfl⟩

theorem start_spares : Spares start := lifts_untouched.start

theorem attachFrontend_spares : Spares attachFrontend :=
  attachFrontend_confined fun _ => lifts_untouched.onBase (confined_anything _)

theorem setBackend_spares (spec : Spec) : Spares (setBackend spec) :=
  covers_untouched.setBackend spec

theorem drain_spares (id : UInt32) : Spares (drain id) := covers_untouched.drain id

theorem delete_spares (id : UInt32) : Spares (delete id) := covers_untouched.delete id

theorem deleteAll_spares : Spares deleteAll := covers_untouched.deleteAll

theorem shutdown_spares : Spares shutdown :=
  covers_untouched.shutdown (fun _ _ => ⟨rfl, rfl⟩) fun _ => confined_anything _

end Service

open Service

theorem Circumstances.untouched (c : Circumstances) {α : Type} (s : Service Memory)
    {act : Action (Service Memory) α} (h : Spares act) : Untouched s (c.outcome s act).state := by
  obtain ⟨tracker, settings⟩ := h (s.under c) #[]
  exact ⟨tracker, settings⟩

theorem Call.untouched (c : Call) (s : Service Memory) : Untouched s (c.after s) := by
  unfold Call.after
  cases c.request with
  | start => exact c.during.untouched s start_spares
  | setBackend spec => exact c.during.untouched s (setBackend_spares spec)
  | drain id => exact c.during.untouched s (drain_spares id)
  | delete id => exact c.during.untouched s (delete_spares id)
  | deleteAll => exact c.during.untouched s deleteAll_spares

end EdgeControl.Balancer
