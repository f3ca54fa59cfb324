import EdgeControl.Proofs.Balancer.Mirror

/-!
Drains after failures. A drain that stops half way has moved slots that the rotation knows nothing
of, and a later drain of another backend writes only from its own slot on. So what a drain leaves
in the slots is right exactly when the slots before its backend were right already.
-/
namespace EdgeControl.Balancer

namespace Snapshot

variable {may : Operation → Prop} {v w : Snapshot} {id : UInt32}

theorem Sound.drained_slots (h : v.Sound) (step : Draining may v id (.ok ()) w) :
    (w.Mirrored ↔ ∀ j (below : j < 64), j < v.registry.rotation.idxOf id →
      v.registry.rotation[j]? = some v.slots[j]) ∧
    (∀ j (below : j < 64), w.registry.rotation.length ≤ j → w.slots[j] = emptySlot) ∧
    (w.Mirrored → ∀ j (below : j < 64), w.slots[j] ≠ emptySlot →
      ∃ b, w.registry.get? w.slots[j] = some b ∧ b.status = .available) := by
  have sound := h.draining step
  refine ⟨?_, sound.tail, sound.available_of_mirrored⟩
  cases step with
  | drained b known ws writes => exact h.mirrored_retire_iff writes

end Snapshot

namespace Service

/-- After a drain that succeeds, in any run: the slots past the rotation are empty. The slots hold
the rotation if and only if the slots before the drained backend's did before the drain, and then
no slot names a backend that was drained or deleted. -/
theorem drain_mirrored_iff (frontend : Frontend) (settings : Flow.Settings) (calls : List Call)
    (few : (fresh frontend settings).allocations calls < UInt32.size - 1)
    (c : Circumstances) (id : UInt32)
    (answered : (c.outcome ((fresh frontend settings).run calls) (drain id)).answer = .ok ()) :
    let s := (fresh frontend settings).run calls
    let t := (c.outcome s (drain id)).state
    (t.snapshot.Mirrored ↔ ∀ j (below : j < 64), j < s.registry.rotation.idxOf id →
      s.registry.rotation[j]? = some s.base.slots[j]) ∧
    (∀ j (below : j < 64), t.registry.rotation.length ≤ j → t.base.slots[j] = emptySlot) ∧
    (t.snapshot.Mirrored → ∀ j (below : j < 64), t.base.slots[j] ≠ emptySlot →
      ∃ b, t.registry.get? t.base.slots[j] = some b ∧ b.status = .available) := by
  intro s t
  have step := c.draining s id
  rw [show (c.outcome s (drain id)).answer = .ok () from answered] at step
  exact (run_sound frontend settings calls few).drained_slots step

/-- Three backends. The drain of the first stops at the second slot; once the host works again the
second is drained, and stays in the first slot. -/
theorem drain_leaves_drained_backend :
    let s := Sample.service.run [⟨.setBackend Sample.spec, Sample.host⟩,
      ⟨.setBackend Sample.spec, Sample.host⟩, ⟨.setBackend Sample.spec, Sample.host⟩,
      ⟨.drain 1, Sample.without (.slot 1)⟩]
    let o := Circumstances.outcome {} s (drain 2)
    o.answer = .ok () ∧ o.state.registry.rotation = [1, 3] ∧
      o.state.base.slots.toList.take 3 = [2, 3, 0] ∧
      (o.state.registry.get? 2).map Backend.status = some .unavailable ∧
      ¬ o.state.snapshot.Mirrored := by
  refine ⟨rfl, by decide +kernel, by decide +kernel, by decide +kernel, fun mirrored => ?_⟩
  exact absurd (mirrored 0 (by decide)) (by decide +kernel)

/-- The same failure, and the drain of the same backend repeated. -/
theorem drain_mirrored_iff_repeated :
    (Circumstances.outcome {} (Sample.service.run [⟨.setBackend Sample.spec, Sample.host⟩,
      ⟨.setBackend Sample.spec, Sample.host⟩, ⟨.setBackend Sample.spec, Sample.host⟩,
      ⟨.drain 1, Sample.without (.slot 1)⟩]) (drain 1)).state.snapshot.Mirrored := by
  refine (drain_mirrored_iff Sample.frontend {} _ (by decide +kernel) {} 1 rfl).1.mpr ?_
  intro j _ before
  have first : (Sample.service.run [⟨.setBackend Sample.spec, Sample.host⟩,
      ⟨.setBackend Sample.spec, Sample.host⟩, ⟨.setBackend Sample.spec, Sample.host⟩,
      ⟨.drain 1, Sample.without (.slot 1)⟩]).registry.rotation.idxOf 1 = 0 := by
    decide +kernel
  exact absurd (first ▸ before) (Nat.not_lt_zero j)

end Service
end EdgeControl.Balancer
