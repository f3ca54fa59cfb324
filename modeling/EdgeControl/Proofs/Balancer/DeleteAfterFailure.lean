import EdgeControl.Proofs.Balancer.Consistent
import EdgeControl.Proofs.Balancer.Removable

/-!
Deletions that are repeated after a failure. A second deletion skips what the first one has already
removed, with one exception: it removes the pointer of the device once more. So a deletion can be
resumed unless it stopped at the last table, where the pointer is gone already.
-/
namespace EdgeControl.Balancer

namespace Snapshot

variable {may may' : Operation → Prop} {u v w : Snapshot} {b : Backend} {id ifindex : UInt32}
  {op : Operation} {e : ServiceError}

theorem uses_congr (same : w.registry = v.registry) : w.Uses ifindex ↔ v.Uses ifindex := by
  unfold Uses
  rw [same]

/-! ### The keys of the devices in use -/

/-- Every device in use has the keys that the deletion of its last backend removes. -/
structure Provisioned (v : Snapshot) : Prop where
  pointed : ∀ ifindex, v.Uses ifindex → ifindex ∈ v.backendIfindex
  allowed : ∀ ifindex, v.Uses ifindex → ifindex ∈ v.redirect

namespace Provisioned

theorem pointer (h : v.Provisioned) (known : v.registry.get? id = some b) :
    v.backendIfindex.contains b.ifindex = true :=
  Std.ExtTreeMap.contains_iff_mem.mpr (h.pointed b.ifindex ⟨id, b, known, rfl⟩)

theorem allowance (h : v.Provisioned) (known : v.registry.get? id = some b) :
    v.redirect.contains b.ifindex = true :=
  Std.ExtTreeSet.contains_iff_mem.mpr (h.allowed b.ifindex ⟨id, b, known, rfl⟩)

theorem fresh (frontend : Frontend) (settings : Flow.Settings) :
    (Service.fresh frontend settings).snapshot.Provisioned := by
  have unused (d : UInt32) : ¬ (Service.fresh frontend settings).snapshot.Uses d := by
    rintro ⟨i, c, known, -⟩
    cases known
  exact ⟨fun d used => absurd used (unused d), fun d used => absurd used (unused d)⟩

theorem starting {r : Except ServiceError Unit} (h : v.Provisioned) (step : Starting may v r w) :
    w.Provisioned := by
  cases step with
  | refused | unrecorded => exact h
  | disallowed => exact ⟨h.pointed, h.allowed⟩
  | started => exact ⟨h.pointed, fun d used => Std.ExtTreeSet.mem_insert.mpr (.inr (h.allowed d used))⟩

theorem registered (h : v.Provisioned) : (v.registered b).Provisioned := by
  have uses {d : UInt32} (used : (v.recorded b).Uses d) : b.ifindex = d ∨ v.Uses d :=
    (uses_of_recorded used).imp_left Eq.symm
  rw [registered_eq]
  constructor
  · intro d used
    change d ∈ v.backendIfindex.insert b.ifindex b.id
    rw [Std.ExtTreeMap.mem_insert, Std.compare_eq_iff_eq]
    exact (uses used).imp_right (h.pointed d)
  · intro d used
    change d ∈ v.redirect.insert b.ifindex
    rw [Std.ExtTreeSet.mem_insert, Std.compare_eq_iff_eq]
    exact (uses used).imp_right (h.allowed d)

theorem registering {spec : Spec} {r : Except ServiceError UInt32} (h : v.Provisioned)
    (works : ∀ o : Operation, o.Writes → ¬ may o) (step : Registering may v spec r w) :
    w.Provisioned := by
  cases step with
  | refused => exact h
  | unrecorded _ _ fault | unpointed _ _ fault | disallowed _ _ fault =>
    exact absurd fault (works _ trivial)
  | unattached _ _ _ fault => exact absurd fault (works _ trivial)
  | unplaced _ _ _ which fault =>
    rcases which with rfl | rfl
    · exact absurd fault (works _ trivial)
    · exact absurd fault (works _ trivial)
  | registered b => exact h.registered

theorem draining {r : Except ServiceError Unit} (h : v.Provisioned) (sound : v.Sound)
    (works : ∀ o : Operation, o.Writes → ¬ may o) (step : Draining may v id r w) :
    w.Provisioned := by
  obtain ⟨-, rfl⟩ | ⟨b, ws, known, -, -, rfl⟩ := step.works works sound
  · exact h
  · rw [writeAll_eq]
    have uses {d : UInt32} (used : (v.retire b id).Uses d) : v.Uses d := uses_of_retire known used
    exact ⟨fun d used => h.pointed d (uses used), fun d used => h.allowed d (uses used)⟩

theorem deleting {r : Except ServiceError Unit} (h : v.Provisioned) (sound : v.Sound)
    (works : ∀ o : Operation, o.Writes → ¬ may o) (step : Deleting may v id r w) :
    w.Provisioned := by
  cases step with
  | unknown | refused => exact h
  | undetached _ _ _ _ _ _ fault => exact absurd fault (works _ trivial)
  | unforgotten b known _ _ fault recorded =>
    rcases fault with fault | absent
    · exact absurd fault (works _ trivial)
    · rw [(sound.ids id b known).1, absent] at recorded
      cases recorded
  | notHandedOver _ _ _ _ _ fault => exact absurd fault (works _ trivial)
  | pointed b known _ _ _ fault =>
    rcases fault with fault | absent
    · exact absurd fault (works _ trivial)
    · cases (h.pointer known).symm.trans absent
  | unrevoked b known _ _ _ _ _ fault =>
    rcases fault with fault | absent
    · exact absurd fault (works _ trivial)
    · cases (h.allowance known).symm.trans absent
  | handedOver b known _ other =>
    have uses {d : UInt32}
        (used : (((v.forgotten b id).point b.ifindex other.id).remove id).Uses d) : v.Uses d :=
      (uses_congr (registry_forgotten v b id)).mp (uses_of_remove used)
    constructor
    · intro d used
      change d ∈ (v.forgotten b id).backendIfindex.insert b.ifindex other.id
      rw [backendIfindex_forgotten]
      exact Std.ExtTreeMap.mem_insert.mpr (.inr (h.pointed d (uses used)))
    · intro d used
      change d ∈ (v.forgotten b id).redirect
      rw [redirect_forgotten]
      exact h.allowed d (uses used)
  | withdrawn b known _ alone =>
    have same : ((v.withdrawn b id).remove id).registry = (v.remove id).registry :=
      congrArg (·.erase id) (registry_withdrawn v b id)
    -- The keys of the device go, but nothing is left on it.
    have uses {d : UInt32} (used : ((v.withdrawn b id).remove id).Uses d) :
        b.ifindex ≠ d ∧ v.Uses d := by
      rw [uses_congr same] at used
      exact ⟨(sound.ne_of_uses_remove known alone used).symm, uses_of_remove used⟩
    constructor
    · intro d used
      change d ∈ (v.withdrawn b id).backendIfindex
      rw [backendIfindex_withdrawn, Std.ExtTreeMap.mem_erase, ne_eq, Std.compare_eq_iff_eq]
      exact ⟨(uses used).1, h.pointed d (uses used).2⟩
    · intro d used
      change d ∈ (v.withdrawn b id).redirect
      rw [redirect_withdrawn]
      split
      · exact h.allowed d (uses used).2
      · rw [Std.ExtTreeSet.mem_erase, ne_eq, Std.compare_eq_iff_eq]
        exact ⟨(uses used).1, h.allowed d (uses used).2⟩

theorem step {request : Request} (h : v.Provisioned) (sound : v.Sound)
    (works : ∀ o : Operation, o.Writes → ¬ may o) (step : Step may v request w) :
    w.Provisioned := by
  cases request with
  | start =>
    obtain ⟨r, step⟩ := step
    exact h.starting step
  | setBackend spec =>
    obtain ⟨r, step⟩ := step
    exact h.registering works step
  | drain id =>
    obtain ⟨r, step⟩ := step
    exact h.draining sound works step
  | delete id =>
    obtain ⟨r, step⟩ := step
    exact h.deleting sound works step
  | deleteAll =>
    obtain ⟨es, steps⟩ := step
    generalize v.registry.ids = ids at steps
    induction steps with
    | done => exact h
    | deleted first _ ih | failed first _ ih =>
      exact ih (h.deleting sound works first) (sound.deleting first)

theorem removable (h : v.Provisioned) (known : v.registry.get? id = some b) : v.Removable b :=
  have used : v.Uses b.ifindex := ⟨id, b, known, rfl⟩
  .inr ⟨h.pointed _ used, .inr (h.allowed _ used)⟩

end Provisioned

/-! ### What a deletion leaves when it gets through -/

/-- The backend is gone, and its device with it unless there is another backend on it. -/
def deleted (v : Snapshot) (b : Backend) : Snapshot :=
  match v.sibling? b with
  | some other => ((v.forgotten b b.id).point b.ifindex other.id).remove b.id
  | none => (v.withdrawn b b.id).remove b.id

theorem Deleting.eq_deleted (step : Deleting may v id (.ok ()) w) (named : b.id = id)
    (known : v.registry.get? id = some b) : w = v.deleted b := by
  subst named
  have same {c : Backend} (there : v.registry.get? b.id = some c) : c = b :=
    Option.some.inj (there.symm.trans known)
  unfold deleted
  cases step with
  | unknown absent =>
    rw [known] at absent
    cases absent
  | handedOver c there _ other shared =>
    obtain rfl := same there
    rw [shared]
  | withdrawn c there _ alone =>
    obtain rfl := same there
    rw [alone]

theorem deleted_congr (same : w.forgotten b b.id = v.forgotten b b.id) :
    w.deleted b = v.deleted b := by
  have registry : w.registry = v.registry := by
    rw [← registry_forgotten w b b.id, same, registry_forgotten]
  have frontend : w.frontend = v.frontend := by
    rw [← frontend_forgotten w b b.id, same, frontend_forgotten]
  have sibling : w.sibling? b = v.sibling? b := congrArg (Service.sibling? · b) registry
  unfold deleted withdrawn unpointed
  rw [sibling, same, frontend]

theorem vacated_of_unlinked (unlinked : v.links[b.ifindex]? = none) : v.vacated b = v := by
  unfold vacated
  rw [unlinked]
  cases v.sibling? b <;> rfl

theorem vacated_eq_self (registry : w.registry = v.registry)
    (links : w.links = (v.vacated b).links) : w.vacated b = w := by
  cases found : v.sibling? b with
  | some other =>
    have shared : w.sibling? b = some other := (congrArg (Service.sibling? · b) registry).trans found
    exact vacated_of_shared shared
  | none =>
    apply vacated_of_unlinked
    rw [links, links_vacated_of_alone found, Std.ExtTreeMap.getElem?_erase_self]

theorem forgotten_vacated : (v.vacated b).forgotten b b.id = v.forgotten b b.id := by
  rw [forgotten_eq, forgotten_eq, vacated_eq_self (registry_vacated v b) rfl, backendInfo_vacated]

theorem forgotten_forgotten : (v.forgotten b b.id).forgotten b b.id = v.forgotten b b.id := by
  have absent : (v.backendInfo.erase b.id)[b.id]? = none := Std.ExtTreeMap.getElem?_erase_self
  have vacated : (v.forgotten b b.id).vacated b = v.forgotten b b.id :=
    vacated_eq_self (registry_forgotten v b b.id) (links_forgotten v b b.id)
  rw [forgotten_eq (v := v.forgotten b b.id), vacated, backendInfo_forgotten,
    Table.erase_of_absent absent, ← backendInfo_forgotten]

/-! ### What a deletion leaves when it stops -/

theorem drained_of_unavailable (h : v.Sound) (known : v.registry.get? b.id = some b)
    (unavailable : b.status = .unavailable) : v.Drained b := by
  cases found : v.backendInfo[b.id]? with
  | none => exact (drained_none found).mpr unavailable
  | some info =>
    obtain ⟨c, there, rfl⟩ := h.records b.id info found
    rw [known] at there
    cases there
    refine (drained_some found).mpr ?_
    change Status.ofNumber b.status.number = .unavailable
    rw [unavailable]
    decide

theorem removable_congr (registry : w.registry = v.registry)
    (pointers : w.backendIfindex = v.backendIfindex) (redirect : w.redirect = v.redirect)
    (frontend : w.frontend = v.frontend) : w.Removable b ↔ v.Removable b := by
  unfold Removable Shared
  rw [registry, pointers, redirect, frontend]

theorem not_removable_unpointed (h : v.Sound) (alone : v.sibling? b = none) :
    ¬ (v.unpointed b id).Removable b := by
  have registry : (v.unpointed b id).registry = v.registry := registry_forgotten v b id
  rintro (⟨i, c, known, other, on⟩ | ⟨pointed, -⟩)
  · rw [registry] at known
    exact not_shared_of_alone h alone ⟨i, c, known, other, on⟩
  · exact Table.not_mem_erase_self _ _ pointed

/-- One operation fails, and the deletion stops there. What it leaves is on the way of the deletion
that never fails, but the last operation cannot be reached again. -/
theorem Deleting.stopped (step : Deleting may v b.id (.error e) u) (h : v.Sound)
    (provisioned : v.Provisioned) (known : v.registry.get? b.id = some b)
    (unavailable : b.status = .unavailable) (only : ∀ o, may o → o = op) (table : op ≠ .detach) :
    u.registry = v.registry ∧ u.Drained b ∧ (u.Removable b ↔ op ≠ .revokeRedirect) ∧
      (op ≠ .revokeRedirect → u.forgotten b b.id = v.forgotten b b.id) := by
  have same {c : Backend} (there : v.registry.get? b.id = some c) : c = b :=
    Option.some.inj (there.symm.trans known)
  have drained := drained_of_unavailable h known unavailable
  have removable := provisioned.removable known
  have unrecorded {x : Snapshot} (erased : x.backendInfo = v.backendInfo.erase b.id) :
      x.Drained b := by
    refine (drained_none ?_).mpr unavailable
    rw [erased, Std.ExtTreeMap.getElem?_erase_self]
  have forgotten : (v.forgotten b b.id).Removable b :=
    (removable_congr (registry_forgotten v b b.id) (backendIfindex_forgotten v b b.id)
      (redirect_forgotten v b b.id) (frontend_forgotten v b b.id)).mpr removable
  cases step with
  | refused c there e why =>
    obtain rfl := same there
    rcases why with fault | undrained
    · obtain rfl := only _ fault
      exact ⟨rfl, drained, iff_of_true removable (by decide), fun _ => rfl⟩
    · exact absurd drained undrained
  | undetached c there _ _ _ _ fault => exact absurd (only _ fault).symm table
  | unforgotten c there _ e fault recorded =>
    obtain rfl := same there
    rcases fault with fault | absent
    · obtain rfl := only _ fault
      have kept : (v.vacated c).Removable c :=
        (removable_congr (registry_vacated v c) (backendIfindex_vacated v c) (redirect_vacated v c)
          (frontend_vacated v c)).mpr removable
      refine ⟨registry_vacated v c, ?_, iff_of_true kept (by decide), fun _ => forgotten_vacated⟩
      unfold Drained at drained ⊢
      rwa [backendInfo_vacated]
    · rw [absent] at recorded
      cases recorded
  | notHandedOver c there _ other shared fault =>
    obtain rfl := same there
    obtain rfl := only _ fault
    exact ⟨registry_forgotten v c c.id, unrecorded backendInfo_forgotten,
      iff_of_true forgotten (by decide), fun _ => forgotten_forgotten⟩
  | pointed c there _ alone e fault =>
    obtain rfl := same there
    rcases fault with fault | absent
    · obtain rfl := only _ fault
      exact ⟨registry_forgotten v c c.id, unrecorded backendInfo_forgotten,
        iff_of_true forgotten (by decide), fun _ => forgotten_forgotten⟩
    · cases (provisioned.pointer known).symm.trans absent
  | unrevoked c there _ alone e _ inner fault =>
    obtain rfl := same there
    rcases fault with fault | absent
    · obtain rfl := only _ fault
      exact ⟨registry_forgotten v c c.id, unrecorded backendInfo_forgotten,
        iff_of_false (not_removable_unpointed h alone) (fun ne => ne rfl), fun ne => absurd rfl ne⟩
    · cases (provisioned.allowance known).symm.trans absent

end Snapshot

namespace Service

theorem run_provisioned (frontend : Frontend) (settings : Flow.Settings) (calls : List Call)
    (few : (fresh frontend settings).allocations calls < UInt32.size - 1)
    (writable : ∀ c ∈ calls, c.during.Writable) :
    ((fresh frontend settings).run calls).snapshot.Provisioned := by
  have start : (fresh frontend settings).registry.nextId.toNat = 1 := rfl
  have whole := run_induction (motive := fun v => v.Sound ∧ v.Provisioned)
    (fresh frontend settings) calls (by omega)
    ⟨Snapshot.Sound.fresh frontend settings, Snapshot.Provisioned.fresh frontend settings⟩
    fun c member v w h left step =>
      ⟨h.1.step step left, h.2.step h.1 (writable c member) step⟩
  exact whole.1.2

/-- In any run in which no write fails, a drained backend can be deleted. When one operation on the
tables fails and stops the deletion, a second one succeeds if and only if it was not the last
operation, the revocation of the device; and then it leaves what the deletion without a failure
leaves. -/
theorem delete_resumes_iff (frontend : Frontend) (settings : Flow.Settings) (calls : List Call)
    (few : (fresh frontend settings).allocations calls < UInt32.size - 1)
    (writable : ∀ c ∈ calls, c.during.Writable) (id : UInt32) (b : Backend)
    (known : ((fresh frontend settings).run calls).registry.get? id = some b)
    (drained : b.status = .unavailable) (op : Operation) (table : op ≠ .detach)
    (c d : Circumstances) (only : ∀ o, c.faults.MayFail o → o = op) (e : ServiceError)
    (failed : (c.outcome ((fresh frontend settings).run calls) (delete id)).answer = .error e)
    (works : d.Reliable) :
    let s := (fresh frontend settings).run calls
    let t := (c.outcome s (delete id)).state
    let undisturbed := d.outcome s (delete id)
    let resumed := d.outcome t (delete id)
    undisturbed.answer = .ok () ∧ (resumed.answer = .ok () ↔ op ≠ .revokeRedirect) ∧
      (resumed.answer = .ok () → resumed.state.snapshot = undisturbed.state.snapshot) := by
  intro s t undisturbed resumed
  have sound : s.snapshot.Sound := run_sound frontend settings calls few
  have provisioned : s.snapshot.Provisioned := run_provisioned frontend settings calls few writable
  have first : Snapshot.Deleting c.faults.MayFail s.snapshot id (.error e) t.snapshot :=
    failed ▸ c.deleting s id
  have whole : Snapshot.Deleting d.faults.MayFail s.snapshot id undisturbed.answer
    undisturbed.state.snapshot := d.deleting s id
  have second : Snapshot.Deleting d.faults.MayFail t.snapshot id resumed.answer
    resumed.state.snapshot := d.deleting t id
  have known : s.snapshot.registry.get? id = some b := known
  have named : b.id = id := (sound.ids id b known).1
  -- What the deletions compute is of no use from here on.
  clear_value undisturbed resumed t s
  subst named
  obtain ⟨registry, drainedT, removable, same⟩ :=
    first.stopped sound provisioned known drained only table
  have knownT : t.snapshot.registry.get? b.id = some b := registry ▸ known
  have succeeds : resumed.answer = .ok () ↔ op ≠ .revokeRedirect :=
    (second.ok_iff works (sound.deleting first) knownT drainedT).trans removable
  have undisturbed_ok : undisturbed.answer = .ok () :=
    (whole.ok_iff works sound known (Snapshot.drained_of_unavailable sound known drained)).mpr
      (provisioned.removable known)
  refine ⟨undisturbed_ok, succeeds, fun ok => ?_⟩
  rw [undisturbed_ok] at whole
  have reachable := succeeds.mp ok
  rw [ok] at second
  calc resumed.state.snapshot = t.snapshot.deleted b := second.eq_deleted rfl knownT
    _ = s.snapshot.deleted b := Snapshot.deleted_congr (same reachable)
    _ = undisturbed.state.snapshot := (whole.eq_deleted rfl known).symm

/-- The device of the only backend on it cannot be revoked. When it can, the deletion fails at the
pointer that the first one removed. -/
theorem delete_not_resumed :
    let s := Sample.service.run [⟨.start, {}⟩, ⟨.setBackend Sample.spec, Sample.host⟩,
      ⟨.drain 1, {}⟩]
    let t := (Circumstances.outcome (Sample.without .revokeRedirect) s (delete 1)).state
    let resumed := Sample.host.outcome t (delete 1)
    (Circumstances.outcome (Sample.without .revokeRedirect) s (delete 1)).answer =
        .error Operation.revokeRedirect.failure ∧
      resumed.answer = .error (Memory.missing "backend_ifindex") ∧
      resumed.state.registry.ids = [1] ∧ resumed.state.base.redirect.toList = [2, 7] :=
  ⟨rfl, rfl, by decide +kernel, by decide +kernel⟩

/-- The pointer of the device cannot be removed. The second deletion finds the record gone. -/
theorem delete_resumes_iff_pointed :
    let s := Sample.service.run [⟨.start, {}⟩, ⟨.setBackend Sample.spec, Sample.host⟩,
      ⟨.drain 1, {}⟩]
    let t := (Circumstances.outcome (Sample.without .removeBackendIfindex) s (delete 1)).state
    (Sample.host.outcome t (delete 1)).answer = .ok () ∧
      (Sample.host.outcome t (delete 1)).state.snapshot =
        (Sample.host.outcome s (delete 1)).state.snapshot := by
  intro s t
  have status : (s.registry.get? 1).map Backend.status = some .unavailable := by decide +kernel
  obtain ⟨b, known, drained⟩ := Option.map_eq_some_iff.mp status
  have whole := delete_resumes_iff Sample.frontend {} _ (by decide +kernel) (fun c member => by
      simp only [List.mem_cons, List.not_mem_nil, or_false] at member
      rcases member with rfl | rfl | rfl
      · exact Circumstances.writable_of_reliable rfl
      · exact Circumstances.writable_of_reliable rfl
      · exact Circumstances.writable_of_reliable rfl) 1 b known drained .removeBackendIfindex
    (by decide) (Sample.without .removeBackendIfindex) Sample.host
    (fun o ⟨_, fails⟩ => beq_iff_eq.mp fails) Operation.removeBackendIfindex.failure rfl
    Faults.not_mayFail_none
  have resumed := whole.2.1.mpr (by decide)
  exact ⟨resumed, whole.2.2 resumed⟩

end Service
end EdgeControl.Balancer
