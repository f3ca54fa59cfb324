import EdgeControl.Proofs.Balancer.IdReuse

/-!
Drains that stop half way and are repeated. A drain sets slots without reading any, so the writes
made before it stopped are made again, and what they left is written over: the second drain ends
where a single one does.
-/
namespace EdgeControl

/-- How many slots a drain writes before one of its writes fails, if any does: that of a slot, or
after all of them that of the record. -/
def Faults.stop? : Faults → List Balancer.SlotWrite → Option Nat
  | f, [] => if f.fails .setBackendInfo then some 0 else .none
  | f, w :: ws =>
    if f.fails (.slot w.slot) || f.next.fails .setSlot then some 0
    else (f.next.next.stop? ws).map (· + 1)

/-- Each slot write asks for two operations, so a plan can let any of the writes fail. -/
theorem Faults.stop?_at {k : Nat} (asked : Nat) {ws : List Balancer.SlotWrite}
    (within : k ≤ ws.length) :
    Faults.stop? {asked, plan := fun n _ => n == asked + 2 * k} ws = some k := by
  induction ws generalizing asked k with
  | nil =>
    obtain rfl : k = 0 := Nat.le_zero.mp within
    simp [stop?, fails]
  | cons w ws ih =>
    cases k with
    | zero => simp [stop?, fails]
    | succ k =>
      have rest := ih (asked + 2) (Nat.le_of_succ_le_succ within)
      have shift : asked + 2 + 2 * k = asked + 2 * (k + 1) := by omega
      rw [shift] at rest
      have first : (asked == asked + 2 * (k + 1)) = false := beq_eq_false_iff_ne.mpr (by omega)
      have second : (asked + 1 == asked + 2 * (k + 1)) = false := beq_eq_false_iff_ne.mpr (by omega)
      simp only [stop?, fails, next, first, second, Bool.or_self, Bool.false_eq_true, if_false]
      change (Faults.stop? {asked := asked + 2, plan := _} ws).map (· + 1) = _
      rw [rest]
      rfl

theorem Faults.stop?_none (asked : Nat) (ws : List Balancer.SlotWrite) :
    Faults.stop? {asked} ws = .none := by
  induction ws generalizing asked with
  | nil => rfl
  | cons w ws ih => exact congrArg (Option.map (· + 1)) (ih (asked + 2))

namespace Balancer

namespace Snapshot

variable (v : Snapshot) (ws us : List SlotWrite)

theorem slots_writeAll (j : Nat) (below : j < 64) : (v.writeAll ws).slots[j] =
    ((ws.reverse.find? (·.slot == j)).map (·.backendId)).getD v.slots[j] := by
  induction ws generalizing v with
  | nil => rfl
  | cons w ws ih =>
    change ((v.write w).writeAll ws).slots[j] = _
    rw [ih, List.reverse_cons, List.find?_append]
    cases ws.reverse.find? (·.slot == j) with
    | some last => rfl
    | none =>
      change (v.slots.setIfInBounds w.slot w.backendId)[j] = _
      rw [Vector.getElem_setIfInBounds, Option.none_or, List.find?_singleton]
      by_cases same : w.slot = j
      · simp [same]
      · simp [same]

theorem writeAll_writeAll (before : us ⊆ ws) : (v.writeAll us).writeAll ws = v.writeAll ws := by
  have slots : ((v.writeAll us).writeAll ws).slots = (v.writeAll ws).slots := by
    ext j below
    rw [slots_writeAll, slots_writeAll v ws]
    cases last : ws.reverse.find? (·.slot == j) with
    | some w => rfl
    | none =>
      have untouched : us.reverse.find? (·.slot == j) = none := by
        rw [List.find?_eq_none] at last ⊢
        intro w member
        exact last w (List.mem_reverse.mpr (before (List.mem_reverse.mp member)))
      rw [Option.map_none, Option.getD_none, slots_writeAll, untouched]
      rfl
  rw [writeAll_eq, slots, writeAll_eq v us, writeAll_eq v ws]

end Snapshot

namespace Service

open EdgeControl.Action

theorem writeSlots_stop (ws : List SlotWrite) (s : Service Memory)
    (inside : ∀ w ∈ ws, w.slot < 64) :
    (ws.forM fun w => onBase (BalancerTables.setSlot w.slot w.backendId)).Ensures s fun r t =>
      (∃ e k, k ≤ ws.length ∧ r = .error e ∧ s.base.faults.stop? ws = some k ∧
        t.snapshot = s.snapshot.writeAll (ws.take k)) ∨
      (r = .ok () ∧ t.snapshot = s.snapshot.writeAll ws ∧ s.base.faults.stop? ws =
        if t.base.faults.fails .setBackendInfo then some ws.length else none) := by
  induction ws generalizing s with
  | nil => exact .pure (.inr ⟨rfl, rfl, rfl⟩)
  | cons w ws ih =>
    rw [List.forall_mem_cons] at inside
    obtain ⟨bound, others⟩ := inside
    refine .bind (.onPart (Memory.ensures_setSlot_now (fun fault => ?_) (fun fault => ?_)
      (fun beyond => absurd bound (Nat.not_lt.mpr beyond)) fun _ first second => ?_))
    · exact .inl ⟨_, 0, Nat.zero_le _, rfl, by simp [Faults.stop?, fault], rfl⟩
    · exact .inl ⟨_, 0, Nat.zero_le _, rfl, by simp [Faults.stop?, fault], rfl⟩
    · have later : s.base.faults.stop? (w :: ws) =
          (s.base.faults.next.next.stop? ws).map (· + 1) := by
        simp [Faults.stop?, first, second]
      rw [later]
      refine (ih _ others).mono ?_
      rintro r t (⟨e, k, within, rfl, stopped, left⟩ | ⟨rfl, left, stopped⟩)
      · exact .inl ⟨e, k + 1, Nat.succ_le_succ within, rfl, congrArg _ stopped, left⟩
      · refine .inr ⟨rfl, left, ?_⟩
        rw [show s.base.faults.next.next.stop? ws = _ from stopped]
        split <;> rfl

theorem drain_stop {s : Service Memory} {id : UInt32} {b : Backend} {ws : List SlotWrite}
    (known : s.registry.get? id = some b) (writes : s.registry.drainWrites id = .ok ws)
    (inside : ∀ w ∈ ws, w.slot < 64) :
    (drain id).Ensures s fun r t =>
      (∃ e k, k ≤ ws.length ∧ r = .error e ∧ s.base.faults.stop? ws = some k ∧
        t.snapshot = s.snapshot.writeAll (ws.take k)) ∨
      (r = .ok () ∧ s.base.faults.stop? ws = none ∧
        t.snapshot = (s.snapshot.writeAll ws).retire b id) := by
  refine .get_bind (.bind ?_)
  simp only [balancer, writes, Action.ofExcept]
  refine .pure (.get_bind ?_)
  simp only [known]
  refine .bind ((writeSlots_stop ws s inside).mono ?_)
  rintro r t (⟨e, k, within, rfl, stopped, left⟩ | ⟨rfl, left, stopped⟩)
  · exact .inl ⟨e, k, within, rfl, stopped, left⟩
  · refine .bind (.onPart (.bind (Memory.ensures_ask_now (fun fault => ?_) fun works => ?_)))
    · rw [if_pos fault] at stopped
      refine .inl ⟨_, ws.length, Nat.le_refl _, rfl, stopped, ?_⟩
      rw [List.take_length]
      exact left
    · rw [works, if_neg Bool.false_ne_true] at stopped
      refine .modify (.get_bind ?_)
      have kept : t.registry = s.registry :=
        (congrArg Snapshot.registry left).trans (Snapshot.registry_writeAll _ ws)
      have known' : t.registry.get? id = some b := kept ▸ known
      simp only [Registry.commitDrain, known']
      refine .bind (.pure (.set_bind (.note (.inr ⟨rfl, stopped, ?_⟩))))
      change t.snapshot.retire b id = _
      rw [left]

/-- A drain of a backend from `s` can stop at any of its writes, and be repeated. -/
structure Resumable (s : Service Memory) (id : UInt32) (b : Backend) (ws : List SlotWrite) :
    Prop where
  points : ∀ k ≤ ws.length, ∃ c : Circumstances, c.faults.stop? ws = some k
  stopped : ∀ (c : Circumstances) k, c.faults.stop? ws = some k →
    k ≤ ws.length ∧ (∃ e, (c.outcome s (drain id)).answer = .error e) ∧
      (c.outcome s (drain id)).state.snapshot =
        {s.snapshot with slots := (s.snapshot.writeAll (ws.take k)).slots}
  finished : ∀ c : Circumstances, c.faults.stop? ws = none →
    (c.outcome s (drain id)).answer = .ok () ∧
      (c.outcome s (drain id)).state.snapshot.Mirrored ∧
      (c.outcome s (drain id)).state.registry = {s.registry with
        backends := s.registry.backends.insert id {b with status := .unavailable}
        rotation := s.registry.rotation.filter (· != id)}
  resumed : ∀ (c again once : Circumstances) k, c.faults.stop? ws = some k →
    again.faults.stop? ws = none → once.faults.stop? ws = none →
      (again.outcome (c.outcome s (drain id)).state (drain id)).answer = .ok () ∧
        (again.outcome (c.outcome s (drain id)).state (drain id)).state.snapshot =
          (once.outcome s (drain id)).state.snapshot

section

variable {s : Service Memory} {id : UInt32} {b : Backend} {ws : List SlotWrite}
  (known : s.registry.get? id = some b) (writes : s.registry.drainWrites id = .ok ws)
  (inside : ∀ w ∈ ws, w.slot < 64) (c : Circumstances)
include known writes inside

theorem drain_of_stop {k : Nat} (stops : c.faults.stop? ws = some k) :
    k ≤ ws.length ∧ (∃ e, (c.outcome s (drain id)).answer = .error e) ∧
      (c.outcome s (drain id)).state.snapshot = s.snapshot.writeAll (ws.take k) := by
  rcases drain_stop (s := s.under c) known writes inside #[] with
    ⟨e, k', within, failed, stopped, left⟩ | ⟨-, through, -⟩
  · cases stops.symm.trans stopped
    exact ⟨within, ⟨e, failed⟩, left⟩
  · cases stops.symm.trans through

theorem drain_of_through (through : c.faults.stop? ws = none) :
    (c.outcome s (drain id)).answer = .ok () ∧
      (c.outcome s (drain id)).state.snapshot = (s.snapshot.writeAll ws).retire b id := by
  rcases drain_stop (s := s.under c) known writes inside #[] with
    ⟨e, k, -, -, stopped, -⟩ | ⟨ok, -, left⟩
  · cases through.symm.trans stopped
  · exact ⟨ok, left⟩

theorem resumable (sound : s.snapshot.Sound) (mirrored : s.snapshot.Mirrored) :
    Resumable s id b ws := by
  constructor
  case points =>
    intro k within
    exact ⟨{faults := {plan := fun n _ => n == 0 + 2 * k}}, Faults.stop?_at 0 within⟩
  case stopped =>
    intro c k stops
    obtain ⟨within, failed, left⟩ := drain_of_stop known writes inside c stops
    exact ⟨within, failed, left.trans (Snapshot.writeAll_eq _ _)⟩
  case finished =>
    intro c through
    obtain ⟨ok, left⟩ := drain_of_through known writes inside c through
    refine ⟨ok, ?_, ?_⟩
    · rw [left]
      exact mirrored.retire sound writes
    · refine (congrArg Snapshot.registry left).trans ?_
      rw [Snapshot.retire, Snapshot.registry_writeAll]
      rfl
  case resumed =>
    intro c again once k stops through through'
    obtain ⟨-, -, left⟩ := drain_of_stop known writes inside c stops
    obtain ⟨-, single⟩ := drain_of_through known writes inside once through'
    have kept : (c.outcome s (drain id)).state.registry = s.registry :=
      (congrArg Snapshot.registry left).trans (Snapshot.registry_writeAll _ _)
    obtain ⟨ok, repeated⟩ := drain_of_through (kept ▸ known) (kept ▸ writes) inside again through
    refine ⟨ok, ?_⟩
    rw [repeated, single, left, Snapshot.writeAll_writeAll _ _ _ (List.take_subset k ws)]

end

theorem drain_of_twice {s : Service Memory} {b : Backend} (known : s.registry.get? 1 = some b)
    (twice : s.registry.rotation = [1, 1]) (c : Circumstances) (reliable : c.faults = .none) :
    (c.outcome s (drain 1)).answer = .ok () ∧
      (c.outcome s (drain 1)).state.snapshot.registry.rotation = [] ∧
      (c.outcome s (drain 1)).state.snapshot.slots.get 0 = 1 ∧
      ¬ (c.outcome s (drain 1)).state.snapshot.Mirrored := by
  have writes : s.registry.drainWrites 1 = .ok [⟨0, 1⟩, ⟨1, 0⟩] := by
    have registered : s.registry.backends.contains 1 = true := by
      rw [Std.ExtTreeMap.contains_eq_isSome_getElem?]
      exact Option.isSome_iff_exists.mpr ⟨b, known⟩
    rw [Registry.drainWrites, if_pos registered, twice]
    rfl
  have through : c.faults.stop? [⟨0, 1⟩, ⟨1, 0⟩] = none := reliable ▸ Faults.stop?_none 0 _
  obtain ⟨ok, left⟩ := drain_of_through known writes (by decide) c through
  have rotation : ((s.snapshot.writeAll [⟨0, 1⟩, ⟨1, 0⟩]).retire b 1).registry.rotation = [] := by
    simp only [Snapshot.retire, Snapshot.registry_writeAll, registry_snapshot, twice]
    rfl
  have slot : ((s.snapshot.writeAll [⟨0, 1⟩, ⟨1, 0⟩]).retire b 1).slots[0] = 1 :=
    Snapshot.slots_writeAll s.snapshot [⟨0, 1⟩, ⟨1, 0⟩] 0 (by decide)
  rw [left]
  refine ⟨ok, rotation, slot, fun mirrored => ?_⟩
  have empty := mirrored 0 (by decide)
  rw [rotation, slot] at empty
  exact absurd empty (by decide)

/-- In any run that leaves the slots as the rotation has them. The counter of the ids does not
overflow: `few`. -/
theorem run_drain_resumable (frontend : Frontend) (settings : Flow.Settings) (calls : List Call)
    (few : (fresh frontend settings).allocations calls < UInt32.size - 1)
    (mirrored : ((fresh frontend settings).run calls).snapshot.Mirrored) (id : UInt32) (b : Backend)
    (known : ((fresh frontend settings).run calls).registry.get? id = some b) :
    ∃ ws, ((fresh frontend settings).run calls).registry.drainWrites id = .ok ws ∧
      Resumable ((fresh frontend settings).run calls) id b ws := by
  have sound := run_sound frontend settings calls few
  cases writes : ((fresh frontend settings).run calls).registry.drainWrites id with
  | error e =>
    rw [(drainWrites_error writes).1] at known
    cases known
  | ok ws =>
    refine ⟨ws, rfl, resumable known writes (fun w member => ?_) sound mirrored⟩
    exact Nat.lt_of_lt_of_le (sound.inside_drainWrites writes w member).1 sound.room

/-- Three backends. The drain of the first stops at the second slot. -/
theorem run_drain_resumable_second_slot :
    let s := Sample.service.run [⟨.setBackend Sample.spec, Sample.host⟩,
      ⟨.setBackend Sample.spec, Sample.host⟩, ⟨.setBackend Sample.spec, Sample.host⟩]
    let t := ((Sample.without (.slot 1)).outcome s (drain 1)).state
    let o := Circumstances.outcome {} t (drain 1)
    t.base.slots.toList.take 4 = [2, 2, 3, 0] ∧ o.answer = .ok () ∧
      o.state.snapshot = (Circumstances.outcome {} s (drain 1)).state.snapshot ∧
      o.state.base.slots.toList.take 4 = [2, 3, 0, 0] := by
  intro s t o
  have few : Sample.service.allocations [⟨.setBackend Sample.spec, Sample.host⟩,
      ⟨.setBackend Sample.spec, Sample.host⟩, ⟨.setBackend Sample.spec, Sample.host⟩] <
        UInt32.size - 1 := by
    decide +kernel
  have mirrored : s.snapshot.Mirrored :=
    run_mirrored Sample.frontend {} _ few (by simp)
  obtain ⟨b, known⟩ : ∃ b, s.registry.get? 1 = some b :=
    Option.isSome_iff_exists.mp (by decide +kernel)
  obtain ⟨ws, writes, resumable⟩ := run_drain_resumable Sample.frontend {} _ few mirrored 1 b known
  have three : s.registry.drainWrites 1 = .ok [⟨0, 2⟩, ⟨1, 3⟩, ⟨2, 0⟩] := by rfl
  cases three.symm.trans writes
  obtain ⟨ok, same⟩ := resumable.resumed (Sample.without (.slot 1)) {} {} 1 rfl rfl rfl
  exact ⟨by decide +kernel, ok, same, by decide +kernel⟩

/-- Without a bound on the ids: one that is given out twice rotates twice, and the drain that takes
both out of the rotation leaves one in the slots. -/
theorem drain_leaves_reused_id :
    let s := Sample.service.run Sample.reuse
    let o := Circumstances.outcome {} s (drain 1)
    s.snapshot.Mirrored ∧ o.answer = .ok () ∧ o.state.snapshot.registry.rotation = [] ∧
      o.state.snapshot.slots.get 0 = 1 ∧
      ¬ ∃ b ws, s.registry.get? 1 = some b ∧ s.registry.drainWrites 1 = .ok ws ∧
        Resumable s 1 b ws := by
  dsimp only
  obtain ⟨twice, ⟨b, known⟩, mirrored⟩ := Sample.run_reuse
  obtain ⟨ok, rotation, slot, astray⟩ := drain_of_twice known twice {} rfl
  refine ⟨mirrored, ok, rotation, slot, ?_⟩
  rintro ⟨b, ws, -, -, resumable⟩
  exact astray (resumable.finished {} (Faults.stop?_none 0 ws)).2.1

end Service
end Balancer
end EdgeControl
