import EdgeControl.Proofs.Balancer.Mirror

/-!
What can be done with a backend whose registration failed after its record was written. It can
always be drained. It can be deleted if another backend is left on its device, or if the
registration got far enough to write all that a deletion removes.
-/
namespace EdgeControl.Balancer

def Circumstances.Reliable (c : Circumstances) : Prop := ∀ op, ¬ c.faults.MayFail op

namespace Snapshot

variable {may : Operation → Prop} {v w : Snapshot} {b : Backend} {id : UInt32}

def Shared (v : Snapshot) (b : Backend) : Prop :=
  ∃ i c, v.registry.get? i = some c ∧ i ≠ b.id ∧ c.ifindex = b.ifindex

def Removable (v : Snapshot) (b : Backend) : Prop :=
  v.Shared b ∨ (b.ifindex ∈ v.backendIfindex ∧
    (b.ifindex = v.frontend.ifindex ∨ b.ifindex ∈ v.redirect))

theorem shared_of_sibling (h : v.Sound) {c : Backend} (found : v.sibling? b = some c) :
    v.Shared b := by
  obtain ⟨known, other, on⟩ := h.sibling_known found
  exact ⟨c.id, c, known, other, on⟩

theorem not_shared_of_alone (h : v.Sound) (alone : v.sibling? b = none) : ¬ v.Shared b := by
  rintro ⟨i, c, known, other, on⟩
  rw [← (h.ids i c known).1] at other
  exact alone_on_device alone known other on

/-! ### Deleting when nothing fails -/

theorem Deleting.ok_iff {r : Except ServiceError Unit} (step : Deleting may v id r w)
    (reliable : ∀ op, ¬ may op) (h : v.Sound) (known : v.registry.get? id = some b)
    (drained : v.Drained b) : r = .ok () ↔ v.Removable b := by
  have same {c : Backend} (there : v.registry.get? id = some c) : c = b :=
    Option.some.inj (there.symm.trans known)
  cases step with
  | unknown absent => rw [known] at absent; cases absent
  | refused c there e why =>
    rcases why with fault | undrained
    · exact absurd fault (reliable _)
    · exact absurd drained (same there ▸ undrained)
  | undetached _ _ _ _ _ _ fault => exact absurd fault (reliable _)
  | unforgotten c there _ e fault recorded =>
    rcases fault with fault | absent
    · exact absurd fault (reliable _)
    · rw [(h.ids id c there).1] at recorded
      exact absurd recorded (Bool.eq_false_iff.mp absent)
  | notHandedOver _ _ _ _ _ fault => exact absurd fault (reliable _)
  | handedOver c there _ other shared =>
    obtain rfl := same there
    exact iff_of_true rfl (.inl (shared_of_sibling h shared))
  | pointed c there _ alone e fault =>
    obtain rfl := same there
    refine iff_of_false (fun ok => by cases ok) ?_
    rintro (shared | ⟨pointed, -⟩)
    · exact not_shared_of_alone h alone shared
    · rcases fault with fault | absent
      · exact absurd fault (reliable _)
      · exact Bool.eq_false_iff.mp absent (Std.ExtTreeMap.contains_iff_mem.mpr pointed)
  | unrevoked c there _ alone e _ inner fault =>
    obtain rfl := same there
    refine iff_of_false (fun ok => by cases ok) ?_
    rintro (shared | ⟨-, outer | allowed⟩)
    · exact not_shared_of_alone h alone shared
    · exact inner outer
    · rcases fault with fault | absent
      · exact absurd fault (reliable _)
      · exact Bool.eq_false_iff.mp absent (Std.ExtTreeSet.contains_iff_mem.mpr allowed)
  | withdrawn c there _ alone pointed allowed =>
    obtain rfl := same there
    exact iff_of_true rfl (.inr ⟨Std.ExtTreeMap.contains_iff_mem.mp pointed,
      allowed.imp_right Std.ExtTreeSet.contains_iff_mem.mp⟩)

theorem Deleting.gone (step : Deleting may v id (.ok ()) w) (h : v.Sound)
    (known : v.registry.get? id = some b) :
    w.registry.get? id = none ∧ w.slots = v.slots ∧ id ∉ w.backendInfo ∧
      (¬ v.Shared b → b.ifindex ∉ w.backendIfindex ∧
        (b.ifindex ≠ v.frontend.ifindex → b.ifindex ∉ w.redirect)) := by
  have same {c : Backend} (there : v.registry.get? id = some c) : c = b :=
    Option.some.inj (there.symm.trans known)
  obtain rfl := (h.ids id b known).1
  cases step with
  | unknown absent => rw [known] at absent; cases absent
  | handedOver c there _ other shared =>
    obtain rfl := same there
    refine ⟨get?_remove_self, slots_forgotten v c c.id, ?_, ?_⟩
    · change c.id ∉ (v.forgotten c c.id).backendInfo
      rw [backendInfo_forgotten]
      exact Table.not_mem_erase_self _ _
    · exact fun single => absurd (shared_of_sibling h shared) single
  | withdrawn c there =>
    obtain rfl := same there
    refine ⟨get?_remove_self, slots_withdrawn v c c.id, ?_, fun _ => ?_⟩
    · change c.id ∉ (v.withdrawn c c.id).backendInfo
      rw [backendInfo_withdrawn, backendInfo_forgotten]
      exact Table.not_mem_erase_self _ _
    · change c.ifindex ∉ (v.withdrawn c c.id).backendIfindex ∧
        (_ → c.ifindex ∉ (v.withdrawn c c.id).redirect)
      rw [backendIfindex_withdrawn, redirect_withdrawn]
      refine ⟨Table.not_mem_erase_self _ _, fun inner => ?_⟩
      rw [if_neg inner]
      exact fun member => (Std.ExtTreeSet.mem_erase.mp member).1 Std.compare_self

/-! ### A registration that fails -/

/-- What a registration leaves that fails after the record was written. -/
structure HalfRegistered (v : Snapshot) (b : Backend) (e : ServiceError) (w : Snapshot) : Prop where
  id_eq : b.id = v.registry.nextId
  known : w.registry.get? b.id = some b
  unnamed : ∀ j (below : j < 64), j < w.registry.rotation.idxOf b.id → w.slots[j] ≠ b.id
  /-- The device has been allowed unless an earlier step failed. -/
  removable : w.Removable b ↔ w.Shared b ∨ (e ≠ Operation.setBackendIfindex.failure ∧
    (e = Operation.allowRedirect.failure → b.ifindex = w.frontend.ifindex))

theorem slot_failure_ne (n : Nat) :
    (Operation.slot n).failure ≠ Operation.setBackendIfindex.failure ∧
      (Operation.slot n).failure ≠ Operation.allowRedirect.failure := by
  constructor
  · intro same
    have text := congrArg String.toList (ServiceError.engine.inj same)
    simp [Operation.name, ToString.toString] at text
  · intro same
    have text := congrArg String.toList (ServiceError.engine.inj same)
    simp [Operation.name, ToString.toString] at text

namespace Sound

theorem slots_ne_nextId (h : v.Sound) (j : Nat) (below : j < 64) :
    v.slots[j] ≠ v.registry.nextId :=
  UInt32.ne_of_lt (h.slots j below)

theorem shared_of_uses (h : v.Sound) {spec : Spec} (admitted : v.Admitted b spec)
    (used : v.Uses b.ifindex) : (v.recorded b).Shared b := by
  obtain ⟨i, c, known, on⟩ := used
  refine ⟨i, c, known_enrol (v := v.allocate) (admitted.absent h) known, ?_, on⟩
  rintro rfl
  rw [admitted.absent h] at known
  cases known

theorem halfRegistered {spec : Spec} {e : ServiceError} (h : v.Sound)
    (step : Registering may v spec (.error e) w) (written : v.registry.nextId ∈ w.backendInfo) :
    ∃ b, HalfRegistered v b e w := by
  have unwritten : v.registry.nextId ∉ v.backendInfo := by
    intro member
    obtain ⟨c, known, -⟩ := h.records _ _ (Std.ExtTreeMap.getElem?_eq_some_getElem member)
    exact UInt32.lt_irrefl _ (h.ids _ c known).2
  have unnamed (b : Backend) (admitted : v.Admitted b spec) (j : Nat) (below : j < 64) :
      v.slots[j] ≠ b.id := by
    rw [admitted.id_eq]
    exact h.slots_ne_nextId j below
  have allowed (b : Backend) : b.ifindex ∈ (v.allowed b).backendIfindex ∧
      (b.ifindex = v.frontend.ifindex ∨ b.ifindex ∈ (v.allowed b).redirect) :=
    ⟨Std.ExtTreeMap.mem_insert_self, .inr Std.ExtTreeSet.mem_insert_self⟩
  cases step with
  | refused => exact absurd written unwritten
  | unrecorded => exact absurd written unwritten
  -- A key of the device that the registration did not write is there for another backend on it, or
  -- for the frontend.
  | unpointed b admitted =>
    refine ⟨b, admitted.id_eq, Admitted.known_recorded, fun j below _ => unnamed b admitted j below,
      ?_, ?_⟩
    · rintro (shared | ⟨pointed, -⟩)
      · exact .inl shared
      · exact .inl (h.shared_of_uses admitted (h.uses_of_pointed pointed))
    · exact Or.imp_right fun later => absurd rfl later.1
  | disallowed b admitted =>
    refine ⟨b, admitted.id_eq, Admitted.known_recorded, fun j below _ => unnamed b admitted j below,
      ?_, ?_⟩
    · rintro (shared | ⟨-, outer | allowed⟩)
      · exact .inl shared
      · exact .inr ⟨by decide +kernel, fun _ => outer⟩
      · rcases h.redirects b.ifindex allowed with outer | used
        · exact .inr ⟨by decide +kernel, fun _ => outer⟩
        · exact .inl (h.shared_of_uses admitted used)
    · exact Or.imp_right fun later => ⟨Std.ExtTreeMap.mem_insert_self, .inl (later.2 rfl)⟩
  | unplaced b admitted op which =>
    have later : op.failure ≠ Operation.setBackendIfindex.failure ∧
        op.failure ≠ Operation.allowRedirect.failure := by
      rcases which with rfl | rfl
      · exact slot_failure_ne _
      · exact ⟨by decide +kernel, by decide +kernel⟩
    exact ⟨b, admitted.id_eq, Admitted.known_recorded, fun j below _ => unnamed b admitted j below,
      iff_of_true (.inr (allowed b)) (.inr ⟨later.1, fun same => absurd same later.2⟩)⟩
  | unattached b admitted =>
    refine ⟨b, admitted.id_eq, Admitted.known_recorded, fun j below before => ?_,
      iff_of_true (.inr (allowed b))
        (.inr ⟨by decide +kernel, fun same => absurd same (by decide +kernel)⟩)⟩
    -- The slot that names the backend is its own, at the end of the rotation.
    have outside : b.id ∉ v.registry.rotation := fun member =>
      UInt32.lt_irrefl _ (admitted.above h b.id member)
    change j < (v.registry.rotation ++ [b.id]).idxOf b.id at before
    rw [List.idxOf_append, if_neg outside, List.idxOf_cons_self] at before
    change (v.slots.setIfInBounds v.registry.rotation.length b.id)[j] ≠ b.id
    rw [Vector.getElem_setIfInBounds, if_neg (by omega)]
    exact unnamed b admitted j below

end Sound

/-! ### Removing it -/

theorem shared_retire_iff (ws : List SlotWrite) :
    ((v.writeAll ws).retire b b.id).Shared {b with status := .unavailable} ↔ v.Shared b := by
  have get {i : UInt32} (other : i ≠ b.id) :
      ((v.writeAll ws).retire b b.id).registry.get? i = v.registry.get? i := by
    rw [get?_retire, if_neg other.symm, registry_writeAll]
  constructor
  · rintro ⟨i, c, known, other, on⟩
    exact ⟨i, c, get other ▸ known, other, on⟩
  · rintro ⟨i, c, known, other, on⟩
    exact ⟨i, c, (get other).trans known, other, on⟩

theorem removable_retire_iff {ws : List SlotWrite} :
    ((v.writeAll ws).retire b b.id).Removable {b with status := .unavailable} ↔ v.Removable b := by
  refine or_congr (shared_retire_iff ws) ?_
  rw [writeAll_eq]
  exact Iff.rfl

theorem drained_retire : (v.retire b b.id).Drained {b with status := .unavailable} :=
  (drained_some (v := v.retire b b.id) (b := {b with status := .unavailable})
    Std.ExtTreeMap.getElem?_insert_self).mpr
      (show Status.ofNumber Status.unavailable.number = .unavailable by decide)

theorem Sound.slots_ne_of_drained (h : v.Sound) {ws : List SlotWrite} (taken : id ≠ emptySlot)
    (writes : v.registry.drainWrites id = .ok ws)
    (unnamed : ∀ j (below : j < 64), j < v.registry.rotation.idxOf id → v.slots[j] ≠ id)
    (j : Nat) (below : j < 64) : (v.writeAll ws).slots[j] ≠ id := by
  rw [slots_drainWrites h.distinct h.tail writes j below]
  split
  · rename_i before
    exact unnamed j below before
  · cases there : (v.registry.rotation.filter (· != id))[j]? with
    | none => exact taken.symm
    | some i => exact bne_iff_ne.mp (List.mem_filter.mp (List.mem_of_getElem? there)).2

theorem HalfRegistered.removal {may' : Operation → Prop} {u x : Snapshot} {e : ServiceError}
    {r r' : Except ServiceError Unit} (half : HalfRegistered v b e w) (h : v.Sound)
    (sound : w.Sound) (named : b.id = id)
    (draining : Draining may w id r u) (works : ∀ op, ¬ may op)
    (deleting : Deleting may' u id r' x) (works' : ∀ op, ¬ may' op) :
    r = .ok () ∧
      (r' = .ok () ↔ w.Shared b ∨ (e ≠ Operation.setBackendIfindex.failure ∧
        (e = Operation.allowRedirect.failure → b.ifindex = w.frontend.ifindex))) ∧
      (r' = .ok () → x.registry.get? id = none ∧ (∀ j (below : j < 64), x.slots[j] ≠ id) ∧
        id ∉ x.backendInfo ∧ (¬ w.Shared b → b.ifindex ∉ x.backendIfindex ∧
          (b.ifindex ≠ w.frontend.ifindex → b.ifindex ∉ x.redirect))) := by
  subst named
  have sound' := sound.draining draining
  obtain ⟨absent, -⟩ | ⟨c, ws, there, writes, rfl, rfl⟩ :=
    draining.works (fun op _ => works op) sound
  · rw [half.known] at absent
    cases absent
  rw [half.known] at there
  cases there
  have retired : ((w.writeAll ws).retire b b.id).registry.get? b.id =
      some {b with status := .unavailable} := get?_retire_self
  refine ⟨rfl, ?_, ?_⟩
  · rw [deleting.ok_iff works' sound' retired drained_retire, ← half.removable]
    exact removable_retire_iff
  · rintro rfl
    obtain ⟨gone, slots, unrecorded, left⟩ := deleting.gone sound' retired
    refine ⟨gone, fun j below => ?_, unrecorded, fun single => ?_⟩
    · have taken : b.id ≠ emptySlot := by
        rw [half.id_eq]
        exact (UInt32.ne_of_lt h.nextId_pos).symm
      rw [slots]
      exact sound.slots_ne_of_drained taken writes half.unnamed j below
    · rw [← shared_retire_iff ws] at single
      have same : ((w.writeAll ws).retire b b.id).frontend = w.frontend := by
        rw [writeAll_eq]
        rfl
      exact same ▸ left single

end Snapshot

namespace Service

/-- In any run, a registration that fails after its record was written leaves a registered backend.
When the host works again the backend can be drained. It can then be deleted if and only if another
backend is left on its device, or setting the pointer of the device had worked and so had allowing
the device, unless that is the frontend's. A deletion that succeeds leaves nothing of it. -/
theorem failed_registration_removable_iff (frontend : Frontend) (settings : Flow.Settings)
    (calls : List Call)
    (few : (fresh frontend settings).allocations calls < UInt32.size - 2)
    (spec : Spec) (c d₁ d₂ : Circumstances) (e : ServiceError)
    (failed : (c.outcome ((fresh frontend settings).run calls) (setBackend spec)).answer = .error e)
    (written : ((fresh frontend settings).run calls).registry.nextId ∈
      (c.outcome ((fresh frontend settings).run calls) (setBackend spec)).state.base.backendInfo)
    (works₁ : d₁.Reliable) (works₂ : d₂.Reliable) :
    let s := (fresh frontend settings).run calls
    let id := s.registry.nextId
    let t := (c.outcome s (setBackend spec)).state
    let drained := d₁.outcome t (drain id)
    let deleted := d₂.outcome drained.state (delete id)
    ∃ b, t.registry.get? id = some b ∧ drained.answer = .ok () ∧
      (deleted.answer = .ok () ↔ t.snapshot.Shared b ∨
        (e ≠ Operation.setBackendIfindex.failure ∧
          (e = Operation.allowRedirect.failure → b.ifindex = t.frontend.ifindex))) ∧
      (deleted.answer = .ok () → deleted.state.registry.get? id = none ∧
        (∀ j (below : j < 64), deleted.state.base.slots[j] ≠ id) ∧
        id ∉ deleted.state.base.backendInfo ∧
        (¬ t.snapshot.Shared b → b.ifindex ∉ deleted.state.base.backendIfindex ∧
          (b.ifindex ≠ t.frontend.ifindex → b.ifindex ∉ deleted.state.base.redirect))) := by
  intro s id t drained deleted
  have sound : s.snapshot.Sound := run_sound frontend settings calls (by omega)
  have given : s.registry.nextId.toNat = 1 + (fresh frontend settings).allocations calls :=
    run_nextId frontend settings calls (by omega)
  have room : s.snapshot.IdsLeft t.snapshot := .inr (by
    change s.registry.nextId.toNat + 1 < _
    omega)
  have step : Snapshot.Registering c.faults.MayFail s.snapshot spec (.error e) t.snapshot :=
    failed ▸ c.registering s spec
  have draining : Snapshot.Draining d₁.faults.MayFail t.snapshot id drained.answer
    drained.state.snapshot := d₁.draining t id
  have deleting : Snapshot.Deleting d₂.faults.MayFail drained.state.snapshot id deleted.answer
    deleted.state.snapshot := d₂.deleting drained.state id
  have written : s.snapshot.registry.nextId ∈ t.snapshot.backendInfo := written
  have named : s.snapshot.registry.nextId = id := rfl
  -- What the three operations compute is of no use from here on.
  clear_value deleted drained t id
  have soundT : t.snapshot.Sound := sound.registering step room
  obtain ⟨b, half⟩ := sound.halfRegistered step written
  have id_eq : b.id = id := half.id_eq.trans named
  exact ⟨b, id_eq ▸ half.known, half.removal sound soundT id_eq draining works₁ deleting works₂⟩

/-- The pointer of the device cannot be set, and no other backend is on the device. The backend is
drained, but its deletion fails. -/
theorem failed_registration_not_removable :
    let t := ((Sample.without .setBackendIfindex).outcome Sample.service
      (setBackend Sample.spec)).state
    let drained := Sample.host.outcome t (drain 1)
    let deleted := Sample.host.outcome drained.state (delete 1)
    t.base.backendInfo.contains 1 = true ∧ drained.answer = .ok () ∧
      deleted.answer = .error (Memory.missing "backend_ifindex") ∧
      deleted.state.registry.ids = [1] :=
  ⟨by decide +kernel, rfl, rfl, by decide +kernel⟩

/-- The slot cannot be written. Everything that a deletion removes has been written by then. -/
theorem failed_registration_removable_iff_unplaced :
    let t := ((Sample.without .setSlot).outcome Sample.service (setBackend Sample.spec)).state
    let drained := Sample.host.outcome t (drain 1)
    (Sample.host.outcome drained.state (delete 1)).answer = .ok () := by
  obtain ⟨b, known, drained, removable, gone⟩ := failed_registration_removable_iff Sample.frontend
    {} [] (by decide) Sample.spec (Sample.without .setSlot) Sample.host Sample.host
    Operation.setSlot.failure rfl (by decide +kernel) Faults.not_mayFail_none
    Faults.not_mayFail_none
  exact removable.mpr (.inr ⟨by decide +kernel, fun same => absurd same (by decide +kernel)⟩)

end Service
end EdgeControl.Balancer
