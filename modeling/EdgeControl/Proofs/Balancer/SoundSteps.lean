import EdgeControl.Proofs.Balancer.Rotation
import EdgeControl.Proofs.Balancer.Sound

/-!
Every operation of a balancer keeps a sound snapshot sound, whatever fails in it and wherever it
stops. So what a run leaves is sound as long as its ids do not run out.
-/
namespace EdgeControl.Balancer.Snapshot

variable {may : Operation → Prop} {v w : Snapshot} {b : Backend} {spec : Spec} {id : UInt32}

/-! ### Registering -/

namespace Admitted

theorem id_eq (admitted : v.Admitted b spec) : b.id = v.registry.nextId := by
  obtain ⟨neighbor, rfl⟩ := admitted.specified
  rfl

theorem available (admitted : v.Admitted b spec) : b.status = .available := by
  obtain ⟨neighbor, rfl⟩ := admitted.specified
  rfl

theorem absent (admitted : v.Admitted b spec) (h : v.Sound) : v.registry.get? b.id = none := by
  cases known : v.registry.get? b.id with
  | none => rfl
  | some c =>
    have below := (h.ids b.id c known).2
    rw [admitted.id_eq] at below
    exact absurd below (UInt32.lt_irrefl _)

theorem above (admitted : v.Admitted b spec) (h : v.Sound) :
    ∀ i ∈ v.registry.rotation, i < b.id := by
  intro i member
  obtain ⟨c, known, -⟩ := h.rotating i member
  rw [admitted.id_eq]
  exact (h.ids i c known).2

theorem known_recorded : (v.recorded b).registry.get? b.id = some b :=
  (Registry.get?_insert _ b b.id).trans (if_pos rfl)

theorem uses_recorded : (v.recorded b).Uses b.ifindex := ⟨b.id, b, known_recorded, rfl⟩

variable (admitted : v.Admitted b spec) (h : v.Sound)
  (room : v.registry.nextId.toNat + 1 < UInt32.size)
include admitted h room

theorem sound_recorded : (v.recorded b).Sound := by
  refine (h.allocate room).enrol (admitted.absent h) ?_
  rw [admitted.id_eq]
  exact lt_succ_of_le room (UInt32.le_refl _)

theorem sound_pointed : (v.pointed b).Sound :=
  (admitted.sound_recorded h room).point known_recorded

theorem sound_allowed : (v.allowed b).Sound :=
  (admitted.sound_pointed h room).allow (.inr uses_recorded)

theorem sound_placed : (v.placed b).Sound :=
  (admitted.sound_allowed h room).place known_recorded admitted.available (admitted.above h)
    admitted.room

theorem sound_registered : (v.registered b).Sound := by
  unfold registered
  split
  · exact admitted.sound_placed h room
  · exact (admitted.sound_placed h room).attach uses_recorded

end Admitted

theorem IdsLeft.room (left : v.IdsLeft w)
    (moved : w.registry.nextId = v.registry.nextId + 1) :
    v.registry.nextId.toNat + 1 < UInt32.size := by
  rcases left with same | room
  · rw [same] at moved
    simp at moved
  · exact room

namespace Sound

theorem fresh (frontend : Frontend) (settings : Flow.Settings) :
    (Service.fresh frontend settings).snapshot.Sound where
  ids i b known := by cases known
  ascending := .nil
  rotating i member := by cases member
  room := Nat.zero_le _
  tail j below _ := Vector.getElem_replicate below
  slots j below := by
    change (Vector.replicate 64 (0 : UInt32))[j] < 1
    rw [Vector.getElem_replicate]
    decide
  records i info found := by cases found
  recorded i b known := by cases known
  pointers d i found := by cases found
  redirects d member := absurd member Std.ExtTreeSet.not_mem_empty
  links d link found := by cases found

theorem starting {r : Except ServiceError Unit} (h : v.Sound) (step : Starting may v r w) :
    w.Sound := by
  cases step with
  | refused | unrecorded => exact h
  | disallowed => exact {h with}
  | started info => exact allow (v := {v with frontendInfo := some info}) {h with} (.inl rfl)

theorem registering {r : Except ServiceError UInt32} (h : v.Sound)
    (step : Registering may v spec r w) (left : v.IdsLeft w) : w.Sound := by
  cases step with
  | refused => exact h
  | unrecorded => exact h.allocate (left.room rfl)
  | unpointed b admitted => exact admitted.sound_recorded h (left.room rfl)
  | disallowed b admitted => exact admitted.sound_pointed h (left.room rfl)
  | unplaced b admitted => exact admitted.sound_allowed h (left.room rfl)
  | unattached b admitted => exact admitted.sound_placed h (left.room rfl)
  | registered b admitted =>
    refine admitted.sound_registered h (left.room ?_)
    unfold registered
    split <;> rfl

/-! ### Draining -/

theorem distinct (h : v.Sound) : v.registry.rotation.Nodup :=
  h.ascending.imp UInt32.ne_of_lt

theorem writing {ws : List SlotWrite} {r : Except ServiceError Unit} (h : v.Sound)
    (writing : Writing may v ws r w)
    (inside : ∀ u ∈ ws, u.slot < v.registry.rotation.length ∧ u.backendId < v.registry.nextId) :
    w.Sound := by
  induction writing with
  | done => exact h
  | halted => exact h
  | @next v u w ws r rest ih =>
    have first := inside w List.mem_cons_self
    exact ih (h.write first.1 first.2) fun u member => inside u (List.mem_cons_of_mem w member)

theorem inside_drainWrites (h : v.Sound) {ws : List SlotWrite}
    (writes : v.registry.drainWrites id = .ok ws) :
    ∀ u ∈ ws, u.slot < v.registry.rotation.length ∧ u.backendId < v.registry.nextId := by
  intro u member
  rcases Registry.drainWrites_ok writes with ⟨-, rfl⟩ | ⟨rotating, rfl⟩
  · cases member
  · obtain ⟨inside, moved | emptied⟩ :=
      Registry.mem_removalWrites (List.idxOf_lt_length_of_mem rotating) member
    · obtain ⟨c, known, -⟩ := h.rotating _ moved
      exact ⟨inside, (h.ids _ c known).2⟩
    · rw [emptied]
      exact ⟨inside, h.nextId_pos⟩

theorem draining {r : Except ServiceError Unit} (h : v.Sound) (step : Draining may v id r w) :
    w.Sound := by
  cases step with
  | unknown => exact h
  | halted b known ws writes e u writing => exact h.writing writing (h.inside_drainWrites writes)
  | unmarked b known ws writes =>
    exact h.writing (writing_writeAll may v ws) (h.inside_drainWrites writes)
  | drained b known ws writes =>
    have written := h.writing (writing_writeAll may v ws) (h.inside_drainWrites writes)
    -- What is new is that one more slot past the rotation is empty.
    refine written.retire ((registry_writeAll v ws).symm ▸ known) fun j below past => ?_
    rw [registry_writeAll] at past
    rw [slots_drainWrites h.distinct h.tail writes j below]
    have kept : v.registry.rotation.idxOf id ≤ (v.registry.rotation.filter (· != id)).length := by
      rw [filter_ne_eq_eraseIdx h.distinct, List.length_eraseIdx]
      have := List.idxOf_le_length (a := id) (l := v.registry.rotation)
      split <;> omega
    rw [if_neg (by omega), List.getElem?_eq_none past]
    rfl

/-! ### Deleting -/

theorem unavailable_of_drained (h : v.Sound) (known : v.registry.get? id = some b)
    (drained : v.Drained b) : b.status = .unavailable := by
  cases found : v.backendInfo[b.id]? with
  | none => exact (drained_none found).mp drained
  | some info =>
    obtain ⟨c, same, rfl⟩ := h.records b.id info found
    rw [(h.ids id b known).1, known] at same
    cases same
    have retired := (drained_some found).mp drained
    change Status.ofNumber b.status.number = .unavailable at retired
    cases status : b.status with
    | unavailable => rfl
    | available =>
      rw [status] at retired
      exact absurd retired (by decide)

theorem waiting (h : v.Sound) (known : v.registry.get? id = some b)
    (unavailable : b.status = .unavailable) : id ∉ v.registry.rotation := by
  intro member
  obtain ⟨c, same, available⟩ := h.rotating id member
  rw [known] at same
  cases same
  rw [unavailable] at available
  cases available

theorem vacated (h : v.Sound) : (v.vacated b).Sound := by
  unfold Snapshot.vacated
  split
  · exact {h.unlink with}
  · exact h

theorem forgotten (h : v.Sound) (known : v.registry.get? id = some b) (drained : v.Drained b) :
    (v.forgotten b id).Sound := by
  have retired : ∀ c, (v.vacated b).registry.get? id = some c → c.status = .unavailable := by
    intro c same
    rw [registry_vacated, known] at same
    cases same
    exact h.unavailable_of_drained known drained
  unfold Snapshot.forgotten
  split
  · exact h.vacated.forget retired
  · exact h.vacated

theorem withdrawn (h : v.Sound) (known : v.registry.get? id = some b) (drained : v.Drained b) :
    (v.withdrawn b id).Sound := by
  unfold Snapshot.withdrawn
  split
  · exact (h.forgotten known drained).unpoint
  · exact (h.forgotten known drained).unpoint.revoke

theorem handedOver (h : v.Sound) (known : v.registry.get? id = some b) (drained : v.Drained b)
    {c : Backend} (shared : v.sibling? b = some c) :
    (((v.forgotten b id).point b.ifindex c.id).remove id).Sound := by
  obtain ⟨there, other, on⟩ := h.sibling_known shared
  obtain rfl := (h.ids id b known).1
  have there' : (v.forgotten b b.id).registry.get? c.id = some c := by rwa [registry_forgotten]
  have known' : (v.forgotten b b.id).registry.get? b.id = some b := by rwa [registry_forgotten]
  have sound := (h.forgotten known drained).point there'
  rw [on] at sound
  have used : (((v.forgotten b b.id).point b.ifindex c.id).remove b.id).Uses b.ifindex :=
    ⟨c.id, c, known_remove other.symm there', on⟩
  have hidden : (v.forgotten b b.id).backendInfo[b.id]? = none := by
    rw [backendInfo_forgotten, Std.ExtTreeMap.getElem?_erase_self]
  refine sound.remove known' ?_ hidden (fun d pointed => ?_) (fun _ => .inr used) fun _ _ => used
  · change b.id ∉ (v.forgotten b b.id).registry.rotation
    rw [registry_forgotten]
    exact h.waiting known (h.unavailable_of_drained known drained)
  · -- The only pointer to the backend was that of its device, which names the sibling now.
    change ((v.forgotten b b.id).backendIfindex.insert b.ifindex c.id)[d]? = some b.id at pointed
    rw [Table.getElem?_insert] at pointed
    split at pointed
    · exact other (Option.some.inj pointed)
    · rename_i elsewhere
      rw [backendIfindex_forgotten] at pointed
      obtain ⟨e, same, on⟩ := h.pointers d b.id pointed
      rw [known] at same
      cases same
      exact elsewhere on

theorem removedAlone (h : v.Sound) (known : v.registry.get? id = some b) (drained : v.Drained b)
    (alone : v.sibling? b = none) : ((v.withdrawn b id).remove id).Sound := by
  obtain rfl := (h.ids id b known).1
  have known' : (v.withdrawn b b.id).registry.get? b.id = some b := by rwa [registry_withdrawn]
  refine (h.withdrawn known drained).remove known' ?_ ?_ (fun d pointed => ?_) (fun member => ?_)
    fun link linked => ?_
  · rw [registry_withdrawn]
    exact h.waiting known (h.unavailable_of_drained known drained)
  · rw [backendInfo_withdrawn, backendInfo_forgotten, Std.ExtTreeMap.getElem?_erase_self]
  · rw [backendIfindex_withdrawn] at pointed
    obtain ⟨e, same, on⟩ := h.pointers d b.id (Table.getElem?_of_erase pointed)
    rw [known] at same
    cases same
    rw [on, Std.ExtTreeMap.getElem?_erase_self] at pointed
    cases pointed
  · -- The device stays allowed only if it is the frontend's.
    rw [redirect_withdrawn] at member
    split at member
    · rename_i outer
      exact .inl (outer.trans (congrArg _ (frontend_withdrawn v b b.id)).symm)
    · exact absurd Std.compare_self (Std.ExtTreeSet.mem_erase.mp member).1
  · rw [links_withdrawn, links_vacated_of_alone alone, Std.ExtTreeMap.getElem?_erase_self] at linked
    cases linked

theorem deleting {r : Except ServiceError Unit} (h : v.Sound) (step : Deleting may v id r w) :
    w.Sound := by
  cases step with
  | unknown | refused => exact h
  | undetached => exact h.unlink
  | unforgotten => exact h.vacated
  | notHandedOver b known drained | pointed b known drained => exact h.forgotten known drained
  | handedOver b known drained other shared => exact h.handedOver known drained shared
  | unrevoked b known drained => exact (h.forgotten known drained).unpoint
  | withdrawn b known drained alone => exact h.removedAlone known drained alone

theorem deletingAll {ids : List UInt32} {es : List ServiceError} (h : v.Sound)
    (steps : DeletingAll may v ids es w) : w.Sound := by
  induction steps with
  | done => exact h
  | deleted first _ ih => exact ih (h.deleting first)
  | failed first _ ih => exact ih (h.deleting first)

theorem step {request : Request} (h : v.Sound) (step : Step may v request w)
    (left : v.IdsLeft w) : w.Sound := by
  cases request with
  | start =>
    obtain ⟨r, step⟩ := step
    exact h.starting step
  | setBackend spec =>
    obtain ⟨r, step⟩ := step
    exact h.registering step left
  | drain id =>
    obtain ⟨r, step⟩ := step
    exact h.draining step
  | delete id =>
    obtain ⟨r, step⟩ := step
    exact h.deleting step
  | deleteAll =>
    obtain ⟨es, steps⟩ := step
    exact h.deletingAll steps

end Sound
end EdgeControl.Balancer.Snapshot

namespace EdgeControl.Balancer

theorem Service.run_sound (frontend : Frontend) (settings : Flow.Settings) (calls : List Call)
    (few : (Service.fresh frontend settings).allocations calls < UInt32.size - 1) :
    ((Service.fresh frontend settings).run calls).snapshot.Sound := by
  have start : (Service.fresh frontend settings).registry.nextId.toNat = 1 := rfl
  exact (run_induction (Service.fresh frontend settings) calls (by omega)
    (Snapshot.Sound.fresh frontend settings) fun _ _ _ _ h left step => h.step step left).1

end EdgeControl.Balancer
