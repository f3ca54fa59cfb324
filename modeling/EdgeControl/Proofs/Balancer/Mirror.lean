import EdgeControl.Proofs.Balancer.SoundSteps

/-!
When the slots hold the rotation and nothing else. Only a drain that fails can make the two differ,
and a drain that succeeds makes them agree again from its own backend's slot on.
-/
namespace EdgeControl.Balancer

namespace Snapshot

/-- The slots hold the rotation in order, and the slots past it are empty. -/
def Mirrored (v : Snapshot) : Prop :=
  ∀ j (h : j < 64), v.slots[j] = v.registry.rotation[j]?.getD emptySlot

variable {may : Operation → Prop} {v w : Snapshot} {b : Backend} {id : UInt32}

theorem Mirrored.congr (h : v.Mirrored) (slots : w.slots = v.slots)
    (rotation : w.registry.rotation = v.registry.rotation) : w.Mirrored := by
  intro j below
  rw [rotation, ← h j below]
  exact congrArg (·[j]) slots

theorem Mirrored.fresh (frontend : Frontend) (settings : Flow.Settings) :
    (Service.fresh frontend settings).snapshot.Mirrored :=
  fun _ below => Vector.getElem_replicate below

theorem Mirrored.place (h : v.Mirrored) : (v.place id).Mirrored := by
  intro j below
  change (v.slots.setIfInBounds v.registry.rotation.length id)[j] =
    (v.registry.rotation ++ [id])[j]?.getD emptySlot
  rw [Vector.getElem_setIfInBounds]
  split
  · rename_i last
    rw [← last, List.getElem?_concat_length]
    rfl
  · rename_i other
    rw [h j below]
    rcases Nat.lt_or_gt_of_ne other with past | before
    · rw [List.getElem?_eq_none (by omega), List.getElem?_eq_none (by simp; omega)]
    · rw [List.getElem?_append_left before]

theorem Mirrored.placed (h : v.Mirrored) (b : Backend) : (v.placed b).Mirrored :=
  place (v := v.allowed b) (h.congr rfl rfl)

theorem Mirrored.registered (h : v.Mirrored) (b : Backend) : (v.registered b).Mirrored := by
  unfold Snapshot.registered
  split
  · exact h.placed b
  · exact (h.placed b).congr rfl rfl

theorem Mirrored.registering {spec : Spec} {r : Except ServiceError UInt32} (h : v.Mirrored)
    (step : Registering may v spec r w) : w.Mirrored := by
  cases step with
  | unattached b => exact h.placed b
  | registered b => exact h.registered b
  | _ => exact h.congr rfl rfl

theorem Mirrored.deleting {r : Except ServiceError Unit} (h : v.Mirrored)
    (step : Deleting may v id r w) : w.Mirrored := by
  have forgotten (b : Backend) : (v.forgotten b id).Mirrored :=
    h.congr (slots_forgotten v b id) (congrArg _ (registry_forgotten v b id))
  cases step with
  | unforgotten b =>
    exact h.congr (slots_vacated v b) (congrArg _ (registry_vacated v b))
  | notHandedOver b | handedOver b | pointed b | unrevoked b => exact (forgotten b).congr rfl rfl
  | withdrawn b =>
    exact h.congr (slots_withdrawn v b id) (congrArg (·.rotation) (registry_withdrawn v b id))
  | _ => exact h.congr rfl rfl

/-- A drain that gets through writes every slot from its backend's on. So the slots mirror the
rotation after it if they did before its backend. -/
theorem Sound.mirrored_retire_iff (h : v.Sound) {ws : List SlotWrite}
    (writes : v.registry.drainWrites id = .ok ws) :
    ((v.writeAll ws).retire b id).Mirrored ↔
      ∀ j (below : j < 64), j < v.registry.rotation.idxOf id →
        v.registry.rotation[j]? = some v.slots[j] := by
  have slots := slots_drainWrites h.distinct h.tail writes
  have rotation : ((v.writeAll ws).retire b id).registry.rotation =
      v.registry.rotation.filter (· != id) :=
    congrArg (fun r : Registry => r.rotation.filter (· != id)) (registry_writeAll v ws)
  have kept {j : Nat} (before : j < v.registry.rotation.idxOf id) :
      (v.registry.rotation.filter (· != id))[j]? = v.registry.rotation[j]? ∧
        j < v.registry.rotation.length := by
    rw [filter_ne_eq_eraseIdx h.distinct, List.getElem?_eraseIdx_of_lt before]
    exact ⟨rfl, Nat.lt_of_lt_of_le before List.idxOf_le_length⟩
  -- Before the backend's index the drain changes neither the slots nor the rotation.
  constructor
  · intro mirrored j below before
    have same := mirrored j below
    rw [rotation, (kept before).1, List.getElem?_eq_getElem (kept before).2,
      Option.getD_some] at same
    rw [List.getElem?_eq_getElem (kept before).2, ← same]
    exact congrArg some ((slots j below).trans (if_pos before))
  · intro prior j below
    rw [rotation]
    refine (slots j below).trans ?_
    split
    · rename_i before
      rw [(kept before).1, prior j below before, Option.getD_some]
    · rfl

theorem writing_works {ws : List SlotWrite} {e : ServiceError}
    (works : ∀ op : Operation, op.Writes → ¬ may op) (room : v.registry.rotation.length ≤ 64)
    (inside : ∀ u ∈ ws, u.slot < v.registry.rotation.length ∧
      u.backendId < v.registry.nextId) : ¬ Writing may v ws (.error e) w := by
  intro writing
  generalize failed : (Except.error e : Except ServiceError Unit) = r at writing
  induction writing with
  | done => cases failed
  | halted v u ws e fault =>
    rcases fault with fault | fault | beyond
    · exact absurd fault (works _ trivial)
    · exact absurd fault (works _ trivial)
    · have := (inside u List.mem_cons_self).1
      omega
  | @next v w u ws r rest ih =>
    exact ih room (fun u' member => inside u' (List.mem_cons_of_mem u member)) failed

theorem Draining.works {r : Except ServiceError Unit} (step : Draining may v id r w)
    (works : ∀ op : Operation, op.Writes → ¬ may op) (h : v.Sound) :
    (v.registry.get? id = none ∧ w = v) ∨ ∃ b ws, v.registry.get? id = some b ∧
      v.registry.drainWrites id = .ok ws ∧ r = .ok () ∧ w = (v.writeAll ws).retire b id := by
  cases step with
  | unknown absent => exact .inl ⟨absent, rfl⟩
  | halted b known ws writes e u writing =>
    exact absurd writing (writing_works works h.room (h.inside_drainWrites writes))
  | unmarked _ _ _ _ fault => exact absurd fault (works _ trivial)
  | drained b known ws writes => exact .inr ⟨b, ws, known, writes, rfl, rfl⟩

theorem Mirrored.retire (h : v.Mirrored) (sound : v.Sound) {ws : List SlotWrite}
    (writes : v.registry.drainWrites id = .ok ws) : ((v.writeAll ws).retire b id).Mirrored := by
  refine (sound.mirrored_retire_iff writes).mpr fun j below before => ?_
  have inside := Nat.lt_of_lt_of_le before List.idxOf_le_length
  rw [h j below, List.getElem?_eq_getElem inside]
  rfl

theorem Mirrored.step {request : Request} (h : v.Mirrored) (sound : v.Sound)
    (drains : ∀ id, request = .drain id → ∀ op : Operation, op.Writes → ¬ may op)
    (step : Step may v request w) : w.Mirrored := by
  cases request with
  | start =>
    obtain ⟨r, step⟩ := step
    cases step <;> exact h.congr rfl rfl
  | setBackend spec =>
    obtain ⟨r, step⟩ := step
    exact h.registering step
  | drain id =>
    obtain ⟨r, step⟩ := step
    obtain ⟨-, rfl⟩ | ⟨b, ws, -, writes, -, rfl⟩ := step.works (drains id rfl) sound
    · exact h
    · exact h.retire sound writes
  | delete id =>
    obtain ⟨r, step⟩ := step
    exact h.deleting step
  | deleteAll =>
    obtain ⟨es, steps⟩ := step
    -- The deletions are for the ids at the start, whatever is registered when their turn comes.
    clear drains
    generalize v.registry.ids = ids at steps
    induction steps with
    | done => exact h
    | deleted first _ ih | failed first _ ih =>
      exact ih (h.deleting first) (sound.deleting first)

theorem Sound.available_of_mirrored (h : v.Sound) (mirrored : v.Mirrored) (j : Nat)
    (below : j < 64) (taken : v.slots[j] ≠ emptySlot) :
    ∃ b, v.registry.get? v.slots[j] = some b ∧ b.status = .available := by
  apply h.rotating
  rw [mirrored j below] at taken ⊢
  cases there : v.registry.rotation[j]? with
  | none => exact absurd (by rw [there]; rfl) taken
  | some i => exact List.mem_of_getElem? there

end Snapshot

namespace Service

theorem run_mirrored (frontend : Frontend) (settings : Flow.Settings) (calls : List Call)
    (few : (fresh frontend settings).allocations calls < UInt32.size - 1)
    (drains : ∀ c ∈ calls, ∀ id, c.request = .drain id → c.during.Writable) :
    ((fresh frontend settings).run calls).snapshot.Mirrored := by
  have start : (fresh frontend settings).registry.nextId.toNat = 1 := rfl
  have whole := run_induction (motive := fun v => v.Sound ∧ v.Mirrored)
    (fresh frontend settings) calls (by omega)
    ⟨Snapshot.Sound.fresh frontend settings, Snapshot.Mirrored.fresh frontend settings⟩
    fun c member v w h left step =>
      ⟨h.1.step step left, h.2.step h.1 (drains c member) step⟩
  exact whole.1.2

end Service
end EdgeControl.Balancer
