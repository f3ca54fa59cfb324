import EdgeControl.Proofs.Balancer.Mirror

/-!
The tables, the registry and the attachments of a balancer agree as long as no write fails. Reads
and probes may fail: what they keep from happening changes nothing. In a sound snapshot the tables
say nothing that the registry does not, so what is left to show is that they say all of it.
-/
namespace EdgeControl.Balancer

namespace Snapshot

variable {may : Operation → Prop} {v w : Snapshot} {b c : Backend} {id ifindex : UInt32}

/-! ### The devices in use -/

theorem uses_of_recorded (used : (v.recorded b).Uses ifindex) :
    ifindex = b.ifindex ∨ v.Uses ifindex := by
  obtain ⟨i, c, known, rfl⟩ := used
  change (v.registry.allocateId.2.insert b).get? i = some c at known
  rw [Registry.get?_insert] at known
  split at known
  · cases known
    exact .inl rfl
  · exact .inr ⟨i, c, known, rfl⟩

theorem uses_of_retire (known : v.registry.get? id = some b)
    (used : (v.retire b id).Uses ifindex) : v.Uses ifindex := by
  obtain ⟨i, c, found, rfl⟩ := used
  rw [get?_retire] at found
  split at found
  · cases found
    exact ⟨id, b, known, rfl⟩
  · exact ⟨i, c, found, rfl⟩

theorem uses_of_remove (used : (v.remove id).Uses ifindex) : v.Uses ifindex := by
  obtain ⟨i, c, found, on⟩ := used
  exact ⟨i, c, Table.getElem?_of_erase found, on⟩

theorem Sound.ne_of_uses_remove (h : v.Sound) (known : v.registry.get? id = some b)
    (alone : v.sibling? b = none) (used : (v.remove id).Uses ifindex) : ifindex ≠ b.ifindex := by
  obtain ⟨i, c, found, rfl⟩ := used
  rw [get?_remove] at found
  split at found
  · cases found
  · rename_i other
    rw [← (h.ids i c found).1, ← (h.ids id b known).1] at other
    exact alone_on_device alone found (Ne.symm other)

/-- The tables say of the registered backends what the registry says, and nothing more. -/
structure Consistent (v : Snapshot) (frontend : Frontend) : Prop where
  configured : v.frontend = frontend
  recordedFrontend : ∃ info, frontend.info = .ok info ∧ v.frontendInfo = some info
  keyed : ∀ id b, v.registry.get? id = some b → b.id = id
  records : ∀ id : UInt32, v.backendInfo[id]? = (v.registry.get? id).map Backend.info
  devices : ∀ ifindex, ifindex ∈ v.backendIfindex ↔ v.Uses ifindex
  pointers : ∀ ifindex id, v.backendIfindex[ifindex]? = some id →
    ∃ b, v.registry.get? id = some b ∧ b.ifindex = ifindex
  redirect : ∀ ifindex, ifindex ∈ v.redirect ↔ ifindex = frontend.ifindex ∨ v.Uses ifindex
  rotation : ∀ id, id ∈ v.registry.rotation ↔
    ∃ b, v.registry.get? id = some b ∧ b.status = .available
  ascending : v.registry.rotation.Pairwise (· < ·)
  room : v.registry.rotation.length ≤ 64
  mirrored : v.Mirrored
  links : ∀ ifindex, ifindex ∈ v.links ↔ v.Uses ifindex
  /-- Each link is to its own device, so there is one for each device in use. -/
  linked : ∀ (ifindex : UInt32) (link : Link), v.links[ifindex]? = some link →
    link.ifindex = ifindex
  attached : ∀ ifindex, ifindex ∈ v.attached ↔ v.Uses ifindex

structure Complete (v : Snapshot) (frontend : Frontend) : Prop where
  configured : v.frontend = frontend
  recordedFrontend : ∃ info, frontend.info = .ok info ∧ v.frontendInfo = some info
  records : ∀ id b, v.registry.get? id = some b → v.backendInfo[id]? = some b.info
  devices : ∀ ifindex, v.Uses ifindex → ifindex ∈ v.backendIfindex
  redirect : ∀ ifindex, ifindex = frontend.ifindex ∨ v.Uses ifindex → ifindex ∈ v.redirect
  rotation : ∀ id b, v.registry.get? id = some b → b.status = .available →
    id ∈ v.registry.rotation
  links : ∀ ifindex, v.Uses ifindex → ifindex ∈ v.links
  attached : ∀ ifindex, ifindex ∈ v.attached ↔ ifindex ∈ v.links

namespace Complete

variable {frontend : Frontend}

theorem consistent (h : v.Complete frontend) (sound : v.Sound) (mirrored : v.Mirrored) :
    v.Consistent frontend := by
  have linked (d : UInt32) : d ∈ v.links ↔ v.Uses d :=
    ⟨fun member => (sound.links d _ (Std.ExtTreeMap.getElem?_eq_some_getElem member)).2, h.links d⟩
  constructor
  case configured => exact h.configured
  case recordedFrontend => exact h.recordedFrontend
  case keyed => exact fun i b known => (sound.ids i b known).1
  case records =>
    intro i
    cases known : v.registry.get? i with
    | some b => exact h.records i b known
    | none =>
      cases found : v.backendInfo[i]? with
      | none => rfl
      | some info =>
        obtain ⟨b, there, -⟩ := sound.records i info found
        rw [known] at there
        cases there
  case devices => exact fun d => ⟨sound.uses_of_pointed, h.devices d⟩
  case pointers => exact sound.pointers
  case redirect =>
    refine fun d => ⟨fun member => ?_, h.redirect d⟩
    rw [← h.configured]
    exact sound.redirects d member
  case rotation =>
    refine fun i => ⟨sound.rotating i, ?_⟩
    rintro ⟨b, known, available⟩
    exact h.rotation i b known available
  case ascending => exact sound.ascending
  case room => exact sound.room
  case mirrored => exact mirrored
  case links => exact linked
  case linked => exact fun d link found => (sound.links d link found).1
  case attached => exact fun d => (h.attached d).trans (linked d)

/-! ### Each operation leaves the tables complete -/

theorem started {info : FrontendInfo} (settings : Flow.Settings)
    (valid : frontend.info = .ok info) :
    Complete ({(Service.fresh frontend settings).snapshot with frontendInfo := some info}.allow
      frontend.ifindex) frontend := by
  have unused (d : UInt32) : ¬ Uses ({(Service.fresh frontend settings).snapshot with
      frontendInfo := some info}.allow frontend.ifindex) d := by
    rintro ⟨i, b, known, -⟩
    cases known
  constructor
  case configured => rfl
  case recordedFrontend => exact ⟨info, valid, rfl⟩
  case records => exact fun i b known => nomatch known
  case devices => exact fun d used => absurd used (unused d)
  case redirect =>
    rintro d (rfl | used)
    · exact Std.ExtTreeSet.mem_insert_self
    · exact absurd used (unused d)
  case rotation => exact fun i b known => nomatch known
  case links => exact fun d used => absurd used (unused d)
  case attached =>
    exact fun d => iff_of_false Std.ExtTreeSet.not_mem_empty Std.ExtTreeMap.not_mem_empty

theorem starting {r : Except ServiceError Unit} (h : v.Complete frontend)
    (works : ∀ op : Operation, op.Writes → ¬ may op) (step : Starting may v r w) :
    w.Complete frontend := by
  cases step with
  | refused => exact h
  | unrecorded fault => exact absurd fault (works _ trivial)
  | disallowed _ _ fault => exact absurd fault (works _ trivial)
  | started info valid =>
    exact {h with
      recordedFrontend := ⟨info, h.configured ▸ valid, rfl⟩
      redirect := fun d used => Std.ExtTreeSet.mem_insert.mpr (.inr (h.redirect d used))}

theorem registered (h : v.Complete frontend) : (v.registered b).Complete frontend := by
  have uses {d : UInt32} : (v.recorded b).Uses d → d = b.ifindex ∨ v.Uses d := uses_of_recorded
  rw [registered_eq]
  constructor
  case configured => exact h.configured
  case recordedFrontend => exact h.recordedFrontend
  case records =>
    intro i c known
    change (v.registry.allocateId.2.insert b).get? i = some c at known
    change (v.backendInfo.insert b.id b.info)[i]? = some c.info
    rw [Registry.get?_insert] at known
    rw [Table.getElem?_insert]
    by_cases same : b.id = i
    · rw [if_pos same] at known
      cases known
      exact if_pos same
    · rw [if_neg same] at known
      rw [if_neg same]
      exact h.records i c known
  case devices =>
    intro d used
    change d ∈ v.backendIfindex.insert b.ifindex b.id
    rw [Std.ExtTreeMap.mem_insert, Std.compare_eq_iff_eq]
    exact (uses used).imp Eq.symm (h.devices d)
  case redirect =>
    intro d used
    change d ∈ v.redirect.insert b.ifindex
    rw [Std.ExtTreeSet.mem_insert, Std.compare_eq_iff_eq]
    rcases used with outer | used
    · exact .inr (h.redirect d (.inl outer))
    · exact (uses used).imp Eq.symm fun before => h.redirect d (.inr before)
  case rotation =>
    intro i c known available
    change (v.registry.allocateId.2.insert b).get? i = some c at known
    change i ∈ v.registry.rotation ++ [b.id]
    rw [Registry.get?_insert] at known
    rw [List.mem_append, List.mem_singleton]
    split at known
    · rename_i same
      exact .inr same.symm
    · exact .inl (h.rotation i c known available)
  case links =>
    intro d used
    dsimp only
    split
    · rename_i present
      rcases uses used with rfl | before
      · exact present
      · exact h.links d before
    · rw [Std.ExtTreeMap.mem_insert, Std.compare_eq_iff_eq]
      exact (uses used).imp Eq.symm (h.links d)
  case attached =>
    intro d
    dsimp only
    split
    · exact h.attached d
    · rw [Std.ExtTreeSet.mem_insert, Std.ExtTreeMap.mem_insert, h.attached d]

theorem registering {spec : Spec} {r : Except ServiceError UInt32} (h : v.Complete frontend)
    (works : ∀ op : Operation, op.Writes → ¬ may op) (step : Registering may v spec r w) :
    w.Complete frontend := by
  cases step with
  | refused => exact h
  | unrecorded _ _ fault | unpointed _ _ fault | disallowed _ _ fault =>
    exact absurd fault (works _ trivial)
  | unattached _ _ _ fault => exact absurd fault (works _ trivial)
  | unplaced _ _ _ which fault =>
    rcases which with rfl | rfl
    · exact absurd fault (works _ trivial)
    · exact absurd fault (works _ trivial)
  | registered b => exact h.registered

theorem writeAll (h : v.Complete frontend) (ws : List SlotWrite) :
    (v.writeAll ws).Complete frontend := by
  rw [writeAll_eq]
  exact {h with}

theorem retire (h : v.Complete frontend) (known : v.registry.get? id = some b) :
    (v.retire b id).Complete frontend := by
  have uses {d : UInt32} : (v.retire b id).Uses d → v.Uses d := uses_of_retire known
  constructor
  case configured => exact h.configured
  case recordedFrontend => exact h.recordedFrontend
  case records =>
    intro i c found
    rw [get?_retire] at found
    change (v.backendInfo.insert id _)[i]? = some c.info
    rw [Table.getElem?_insert]
    by_cases same : id = i
    · rw [if_pos same] at found
      cases found
      exact if_pos same
    · rw [if_neg same] at found
      rw [if_neg same]
      exact h.records i c found
  case devices => exact fun d used => h.devices d (uses used)
  case redirect => exact fun d used => h.redirect d (used.imp_right uses)
  case rotation =>
    intro i c found available
    rw [get?_retire] at found
    split at found
    · cases found
      cases available
    · rename_i other
      exact List.mem_filter.mpr ⟨h.rotation i c found available, bne_iff_ne.mpr (Ne.symm other)⟩
  case links => exact fun d used => h.links d (uses used)
  case attached => exact h.attached

theorem draining {r : Except ServiceError Unit} (h : v.Complete frontend) (sound : v.Sound)
    (works : ∀ op : Operation, op.Writes → ¬ may op) (step : Draining may v id r w) :
    w.Complete frontend := by
  obtain ⟨-, rfl⟩ | ⟨b, ws, known, -, -, rfl⟩ := step.works works sound
  · exact h
  · exact (h.writeAll ws).retire ((registry_writeAll v ws).symm ▸ known)

theorem found (h : v.Complete frontend) (known : v.registry.get? id = some b) :
    v.backendInfo.contains id = true ∧ v.backendIfindex.contains b.ifindex = true ∧
      v.redirect.contains b.ifindex = true := by
  have used : v.Uses b.ifindex := ⟨id, b, known, rfl⟩
  refine ⟨?_, ?_, ?_⟩
  · rw [Std.ExtTreeMap.contains_eq_isSome_getElem?, h.records id b known]
    rfl
  · exact Std.ExtTreeMap.contains_iff_mem.mpr (h.devices b.ifindex used)
  · exact Std.ExtTreeSet.contains_iff_mem.mpr (h.redirect b.ifindex (.inr used))

theorem records_remove (h : v.Complete frontend) {i : UInt32}
    (known : (v.remove id).registry.get? i = some c) :
    (v.backendInfo.erase id)[i]? = some c.info := by
  rw [get?_remove] at known
  split at known
  · cases known
  · rename_i other
    rw [Table.getElem?_erase, if_neg other]
    exact h.records i c known

theorem handedOver (h : v.Complete frontend) (shared : v.sibling? b = some c) :
    (((v.forgotten b b.id).point b.ifindex c.id).remove b.id).Complete frontend := by
  rw [forgotten_eq, vacated_of_shared shared]
  have uses {d : UInt32} : (v.remove b.id).Uses d → v.Uses d := uses_of_remove
  constructor
  case configured => exact h.configured
  case recordedFrontend => exact h.recordedFrontend
  case records => exact fun i c known => h.records_remove known
  case devices => exact fun d used => Std.ExtTreeMap.mem_insert.mpr (.inr (h.devices d (uses used)))
  case redirect => exact fun d used => h.redirect d (used.imp_right uses)
  case rotation => exact fun i c known => h.rotation i c (Table.getElem?_of_erase known)
  case links => exact fun d used => h.links d (uses used)
  case attached => exact h.attached

theorem withdrawn_eq (h : v.Complete frontend) (sound : v.Sound)
    (known : v.registry.get? b.id = some b) (alone : v.sibling? b = none) :
    v.withdrawn b b.id = {v with
      links := v.links.erase b.ifindex
      attached := v.attached.erase b.ifindex
      backendInfo := v.backendInfo.erase b.id
      backendIfindex := v.backendIfindex.erase b.ifindex
      redirect := if b.ifindex = frontend.ifindex then v.redirect
        else v.redirect.erase b.ifindex} := by
  have linked : b.ifindex ∈ v.links := h.links b.ifindex ⟨b.id, b, known, rfl⟩
  have found : v.links[b.ifindex]? = some v.links[b.ifindex] :=
    Std.ExtTreeMap.getElem?_eq_some_getElem linked
  have vacated : v.vacated b =
      {v with links := v.links.erase b.ifindex, attached := v.attached.erase b.ifindex} := by
    unfold Snapshot.vacated
    rw [alone, found]
    change (v.unlink b.ifindex).detach v.links[b.ifindex] = _
    unfold Snapshot.detach
    rw [(sound.links _ _ found).1]
    rfl
  unfold withdrawn unpointed
  rw [forgotten_eq, vacated, ← h.configured]
  split <;> rfl

theorem removedAlone (h : v.Complete frontend) (sound : v.Sound)
    (known : v.registry.get? b.id = some b) (alone : v.sibling? b = none) :
    ((v.withdrawn b b.id).remove b.id).Complete frontend := by
  rw [h.withdrawn_eq sound known alone]
  have uses {d : UInt32} (used : (v.remove b.id).Uses d) : v.Uses d ∧ b.ifindex ≠ d :=
    ⟨uses_of_remove used, (sound.ne_of_uses_remove known alone used).symm⟩
  constructor
  case configured => exact h.configured
  case recordedFrontend => exact h.recordedFrontend
  case records => exact fun i c known => h.records_remove known
  case devices =>
    intro d used
    change d ∈ v.backendIfindex.erase b.ifindex
    rw [Std.ExtTreeMap.mem_erase, ne_eq, Std.compare_eq_iff_eq]
    exact ⟨(uses used).2, h.devices d (uses used).1⟩
  case redirect =>
    intro d used
    have before : d ∈ v.redirect := h.redirect d (used.imp_right fun used => (uses used).1)
    dsimp only [Snapshot.remove]
    split
    · exact before
    · rename_i inner
      rw [Std.ExtTreeSet.mem_erase, ne_eq, Std.compare_eq_iff_eq]
      rcases used with rfl | used
      · exact ⟨inner, before⟩
      · exact ⟨(uses used).2, before⟩
  case rotation => exact fun i c known => h.rotation i c (Table.getElem?_of_erase known)
  case links =>
    intro d used
    change d ∈ v.links.erase b.ifindex
    rw [Std.ExtTreeMap.mem_erase, ne_eq, Std.compare_eq_iff_eq]
    exact ⟨(uses used).2, h.links d (uses used).1⟩
  case attached =>
    intro d
    change d ∈ v.attached.erase b.ifindex ↔ d ∈ v.links.erase b.ifindex
    rw [Std.ExtTreeSet.mem_erase, Std.ExtTreeMap.mem_erase, h.attached d]

theorem deleting {r : Except ServiceError Unit} (h : v.Complete frontend) (sound : v.Sound)
    (works : ∀ op : Operation, op.Writes → ¬ may op) (step : Deleting may v id r w) :
    w.Complete frontend := by
  cases step with
  | unknown | refused => exact h
  | undetached _ _ _ _ _ _ fault => exact absurd fault (works _ trivial)
  | unforgotten b known _ _ fault =>
    rcases fault with fault | absent
    · exact absurd fault (works _ trivial)
    · exact absurd (h.found known).1 (Bool.eq_false_iff.mp absent)
  | notHandedOver _ _ _ _ _ fault => exact absurd fault (works _ trivial)
  | handedOver b known _ other shared =>
    obtain rfl := (sound.ids id b known).1
    exact h.handedOver shared
  | pointed b known _ _ _ fault =>
    rcases fault with fault | absent
    · exact absurd fault (works _ trivial)
    · exact absurd (h.found known).2.1 (Bool.eq_false_iff.mp absent)
  | unrevoked b known _ _ _ _ _ fault =>
    rcases fault with fault | absent
    · exact absurd fault (works _ trivial)
    · exact absurd (h.found known).2.2 (Bool.eq_false_iff.mp absent)
  | withdrawn b known _ alone =>
    obtain rfl := (sound.ids id b known).1
    exact h.removedAlone sound known alone

theorem deletingAll {ids : List UInt32} {es : List ServiceError} (h : v.Complete frontend)
    (sound : v.Sound) (works : ∀ op : Operation, op.Writes → ¬ may op)
    (steps : DeletingAll may v ids es w) : w.Complete frontend := by
  induction steps with
  | done => exact h
  | deleted first _ ih | failed first _ ih =>
    exact ih (h.deleting sound works first) (sound.deleting first)

theorem step {request : Request} (h : v.Complete frontend) (sound : v.Sound)
    (works : ∀ op : Operation, op.Writes → ¬ may op) (step : Step may v request w) :
    w.Complete frontend := by
  cases request with
  | start =>
    obtain ⟨r, step⟩ := step
    exact h.starting works step
  | setBackend spec =>
    obtain ⟨r, step⟩ := step
    exact h.registering works step
  | drain id =>
    obtain ⟨r, step⟩ := step
    exact h.draining sound works step
  | delete id =>
    obtain ⟨r, step⟩ := step
    exact h.deleting sound works step
  | deleteAll =>
    obtain ⟨es, steps⟩ := step
    exact h.deletingAll sound works steps

end Complete
end Snapshot

namespace Service

/-- After a start that succeeds, the tables agree with the registry as long as no write fails and
the ids do not run out. -/
theorem run_consistent (frontend : Frontend) (settings : Flow.Settings) (first : Circumstances)
    (calls : List Call)
    (started : (first.outcome (fresh frontend settings) start).answer = .ok ())
    (writable : ∀ c ∈ calls, c.during.Writable)
    (few : (fresh frontend settings).allocations (⟨.start, first⟩ :: calls) < UInt32.size - 1) :
    ((fresh frontend settings).run (⟨.start, first⟩ :: calls)).snapshot.Consistent frontend := by
  have mirrored := run_mirrored frontend settings (⟨.start, first⟩ :: calls) few
    fun c member id draining => by
      rcases List.mem_cons.mp member with rfl | later
      · cases draining
      · exact writable c later
  have sound := run_sound frontend settings (⟨.start, first⟩ :: calls) few
  refine Snapshot.Complete.consistent ?_ sound mirrored
  clear mirrored sound
  have step := first.starting (fresh frontend settings)
  rw [started] at step
  generalize reached : (first.outcome (fresh frontend settings) start).state = s at step
  have rest : (fresh frontend settings).run (⟨.start, first⟩ :: calls) = s.run calls :=
    congrArg (run · calls) reached
  have unallocated : (fresh frontend settings).allocations (⟨.start, first⟩ :: calls) =
      (if s.registry.nextId = 1 then 0 else 1) + s.allocations calls :=
    congrArg (fun t : Service Memory =>
      (if t.registry.nextId = 1 then 0 else 1) + t.allocations calls) reached
  have sound := (Snapshot.Sound.fresh frontend settings).starting step
  generalize left : s.snapshot = v at step
  cases step with
  | started info valid =>
    have nextId : s.registry.nextId = 1 := congrArg (·.registry.nextId) left
    rw [unallocated, if_pos nextId, Nat.zero_add] at few
    rw [rest]
    have base : s.snapshot.Sound ∧ s.snapshot.Complete frontend :=
      ⟨sound, left ▸ Snapshot.Complete.started settings valid⟩
    have whole := run_induction (motive := fun v => v.Sound ∧ v.Complete frontend) s calls
      (by rw [nextId]; change 1 + _ < _; omega) base
      fun c member v w h left step =>
        ⟨h.1.step step left, h.2.step h.1 (writable c member) step⟩
    exact whole.1.2

/-- Two backends behind one device, the second one registered although its probe fails; the first
one is drained and deleted. -/
theorem run_consistent_shared_device :
    (Sample.service.run [⟨.start, {}⟩, ⟨.setBackend Sample.spec, Sample.host⟩,
      ⟨.setBackend Sample.spec, Sample.without .probe⟩, ⟨.drain 1, {}⟩,
      ⟨.delete 1, {}⟩]).snapshot.Consistent Sample.frontend := by
  refine run_consistent Sample.frontend {} {} _ rfl ?_ (by decide +kernel)
  intro c member
  simp only [List.mem_cons, List.not_mem_nil, or_false] at member
  rcases member with rfl | rfl | rfl | rfl
  · exact Circumstances.writable_of_reliable rfl
  · rintro op writes ⟨n, fails⟩
    rw [beq_iff_eq.mp fails] at writes
    exact writes
  · exact Circumstances.writable_of_reliable rfl
  · exact Circumstances.writable_of_reliable rfl

example : (Sample.service.run [⟨.start, {}⟩, ⟨.setBackend Sample.spec, Sample.host⟩,
    ⟨.setBackend Sample.spec, Sample.without .probe⟩, ⟨.drain 1, {}⟩,
    ⟨.delete 1, {}⟩]).base.backendIfindex.toList = [(7, 2)] := by
  decide +kernel

end Service
end EdgeControl.Balancer
