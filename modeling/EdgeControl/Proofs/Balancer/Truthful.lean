import EdgeControl.Proofs.Balancer.IdReuse

/-!
What can be read off a balancer after any calls, whatever failed in them: every record, pointer,
allowance and link is about a registered backend, and the rotation holds available backends only.
-/
namespace EdgeControl.Balancer

namespace Snapshot

variable {may : Operation → Prop} {v w : Snapshot} {id : UInt32}

/-- The tables and the rotation say nothing that the registry does not bear out. -/
structure Truthful (v : Snapshot) (frontend : Frontend) : Prop where
  records : ∀ id info, v.backendInfo[id]? = some info → ∃ b, v.registry.get? id = some b ∧
    b.id = id ∧ (Status.ofNumber info.status = .unavailable ↔ b.status = .unavailable)
  pointers : ∀ ifindex id, v.backendIfindex[ifindex]? = some id →
    ∃ b, v.registry.get? id = some b ∧ b.ifindex = ifindex
  redirects : ∀ ifindex, ifindex ∈ v.redirect → ifindex = frontend.ifindex ∨ v.Uses ifindex
  links : ∀ ifindex link, v.links[ifindex]? = some link → link.ifindex = ifindex ∧ v.Uses ifindex
  ascending : v.registry.rotation.Pairwise (· < ·)
  room : v.registry.rotation.length ≤ 64
  rotating : ∀ id ∈ v.registry.rotation,
    ∃ b, v.registry.get? id = some b ∧ b.status = .available

theorem Deleting.frontend_eq {r : Except ServiceError Unit} (h : Deleting may v id r w) :
    w.frontend = v.frontend := by
  cases h with
  | unknown | refused | undetached => rfl
  | unforgotten b => exact frontend_vacated v b
  | notHandedOver b | handedOver b | pointed b | unrevoked b => exact frontend_forgotten v b id
  | withdrawn b => exact frontend_withdrawn v b id

theorem Writing.frontend_eq {ws : List SlotWrite} {r : Except ServiceError Unit}
    (h : Writing may v ws r w) : w.frontend = v.frontend := by
  induction h with
  | done | halted => rfl
  | next _ ih => exact ih

theorem Step.frontend_eq {request : Request} (h : Step may v request w) :
    w.frontend = v.frontend := by
  cases request with
  | start =>
    obtain ⟨r, h⟩ := h
    cases h <;> rfl
  | setBackend spec =>
    obtain ⟨r, h⟩ := h
    cases h with
    | registered b =>
      unfold registered
      split <;> rfl
    | _ => rfl
  | drain id =>
    obtain ⟨r, h⟩ := h
    have written (ws : List SlotWrite) : (v.writeAll ws).frontend = v.frontend :=
      (writing_writeAll may v ws).frontend_eq
    cases h with
    | unknown => rfl
    | halted b known ws writes e u writing => exact writing.frontend_eq
    | unmarked b known ws | drained b known ws => exact written ws
  | delete id =>
    obtain ⟨r, h⟩ := h
    exact h.frontend_eq
  | deleteAll =>
    obtain ⟨es, h⟩ := h
    generalize v.registry.ids = ids at h
    induction h with
    | done => rfl
    | deleted first _ ih | failed first _ ih => exact ih.trans first.frontend_eq

theorem ofNumber_number (status : Status) : Status.ofNumber status.number = status := by
  cases status <;> decide

theorem Sound.truthful (h : v.Sound) : v.Truthful v.frontend where
  records id info found := by
    obtain ⟨b, known, rfl⟩ := h.records id info found
    refine ⟨b, known, (h.ids id b known).1, ?_⟩
    change Status.ofNumber b.status.number = .unavailable ↔ _
    rw [ofNumber_number]
  pointers := h.pointers
  redirects := h.redirects
  links := h.links
  ascending := h.ascending
  room := h.room
  rotating := h.rotating

end Snapshot

namespace Service

/-- Any calls in any order, any operations of the host failing in them at any point. The counter of
the ids does not overflow: `few`. -/
theorem run_truthful (frontend : Frontend) (settings : Flow.Settings) (calls : List Call)
    (few : (fresh frontend settings).allocations calls < UInt32.size - 1) :
    ((fresh frontend settings).run calls).snapshot.Truthful frontend := by
  have start : (fresh frontend settings).registry.nextId.toNat = 1 := rfl
  have whole := run_induction (motive := fun v => v.Sound ∧ v.frontend = frontend)
    (fresh frontend settings) calls (by omega)
    ⟨Snapshot.Sound.fresh frontend settings, rfl⟩
    fun c _ v w h left step => ⟨h.1.step step left, step.frontend_eq.trans h.2⟩
  obtain ⟨sound, configured⟩ := whole.1
  have truthful := sound.truthful
  rw [configured] at truthful
  exact truthful

/-- Two backends on one device. The slot of the second one is never written, the drain of the first
stops before its status is, and its deletion is refused. -/
theorem run_truthful_interrupted : (Sample.service.run [⟨.start, {}⟩,
    ⟨.setBackend Sample.spec, Sample.host⟩, ⟨.setBackend Sample.spec, Sample.without .setSlot⟩,
    ⟨.drain 1, Sample.without .setBackendInfo⟩, ⟨.delete 1, {}⟩]).snapshot.Truthful
      Sample.frontend :=
  run_truthful Sample.frontend {} _ (by decide +kernel)

/-- Without a bound on the ids: one that is given out twice rotates twice. -/
theorem reused_id_rotates_twice :
    (Sample.service.run Sample.reuse).registry.rotation = [1, 1] ∧
      ¬ (Sample.service.run Sample.reuse).snapshot.Truthful Sample.frontend := by
  obtain ⟨rotation, -, -⟩ := Sample.run_reuse
  refine ⟨rotation, fun truthful => ?_⟩
  have ascending := truthful.ascending
  rw [registry_snapshot, rotation] at ascending
  exact absurd ascending (by decide)

end Service
end EdgeControl.Balancer
