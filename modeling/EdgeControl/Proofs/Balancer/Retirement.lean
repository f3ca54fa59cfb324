import Mathlib.Data.List.Induction
import EdgeControl.Proofs.Balancer.IdReuse
import EdgeControl.Proofs.InTurn

/-!
How backends leave a balancer. Only a drain that succeeds marks a backend unavailable, in the
registry and in its record, and that mark is what a deletion asks for. So nothing is deleted that
was not drained before, whatever failed in the meantime.
-/
namespace EdgeControl.Balancer

namespace Snapshot

variable {may : Operation → Prop} {v w : Snapshot} {b c : Backend} {id i : UInt32}

/-! ### What an operation can take out of the registry -/

theorem Registering.known {spec : Spec} {r : Except ServiceError UInt32} (h : v.Sound)
    (step : Registering may v spec r w) (known : v.registry.get? i = some c) :
    w.registry.get? i = some c := by
  cases step with
  | refused | unrecorded => exact known
  | unpointed b admitted | disallowed b admitted | unplaced b admitted | unattached b admitted =>
    exact known_enrol (v := v.allocate) (admitted.absent h) known
  | registered b admitted =>
    rw [registered_eq]
    exact known_enrol (v := v.allocate) (admitted.absent h) known

theorem Draining.registry {r : Except ServiceError Unit} (step : Draining may v id r w) :
    (∃ e, r = .error e) ∧ w.registry = v.registry ∨
      r = .ok () ∧ ∃ b, v.registry.get? id = some b ∧ w.registry = (v.retire b id).registry := by
  cases step with
  | unknown => exact .inl ⟨⟨_, rfl⟩, rfl⟩
  | halted b known ws writes e u writing => exact .inl ⟨⟨e, rfl⟩, writing.registry_eq⟩
  | unmarked b known ws => exact .inl ⟨⟨_, rfl⟩, registry_writeAll v ws⟩
  | drained b known ws =>
    apply Or.inr
    constructor
    · rfl
    · simp only [retire, registry_writeAll]
      exact ⟨b, known, rfl⟩

theorem Deleting.registry {r : Except ServiceError Unit} (step : Deleting may v id r w) :
    w.registry = v.registry ∨
      ∃ b, v.registry.get? id = some b ∧ v.Drained b ∧ w.registry = v.registry.erase id := by
  cases step with
  | unknown | refused | undetached => exact .inl rfl
  | unforgotten b => exact .inl (registry_vacated v b)
  | notHandedOver b | pointed b | unrevoked b => exact .inl (registry_forgotten v b id)
  | handedOver b known drained =>
    exact .inr ⟨b, known, drained, congrArg (·.erase id) (registry_forgotten v b id)⟩
  | withdrawn b known drained =>
    exact .inr ⟨b, known, drained, congrArg (·.erase id) (registry_withdrawn v b id)⟩

theorem Deleting.known_of_known {r : Except ServiceError Unit} (step : Deleting may v id r w)
    (known : w.registry.get? i = some c) : v.registry.get? i = some c := by
  rcases step.registry with same | ⟨b, -, -, erased⟩
  · simpa only [same] using known
  · rw [erased] at known
    exact Table.getElem?_of_erase known

theorem Deleting.lost {r : Except ServiceError Unit} (h : v.Sound) (step : Deleting may v id r w)
    (known : v.registry.get? i = some c) (gone : w.registry.get? i = none) :
    i = id ∧ c.status = .unavailable := by
  rcases step.registry with same | ⟨b, found, drained, erased⟩
  · simp [same, known] at gone
  · by_cases same : id = i
    · rw [← same, found] at known
      cases known
      exact ⟨same.symm, h.unavailable_of_drained found drained⟩
    · simp [erased, same, known] at gone

theorem DeletingAll.lost {ids : List UInt32} {es : List ServiceError} (h : v.Sound)
    (steps : DeletingAll may v ids es w) (known : v.registry.get? i = some c)
    (gone : w.registry.get? i = none) : c.status = .unavailable := by
  induction steps with
  | done => simp [known] at gone
  | @deleted v u w id ids es first rest ih | @failed v u w id ids e es first rest ih =>
    cases next : u.registry.get? i with
    | none => exact (first.lost h known next).2
    | some d =>
      have same := first.known_of_known next
      rw [known] at same
      cases same
      exact ih (h.deleting first) next gone

/-- Only a deletion takes a backend out of the registry, and only an unavailable one. -/
theorem Step.lost {request : Request} (h : v.Sound) (step : Step may v request w)
    (known : v.registry.get? i = some c) (gone : w.registry.get? i = none) :
    (request = .delete i ∨ request = .deleteAll) ∧ c.status = .unavailable := by
  cases request with
  | start =>
    obtain ⟨r, step⟩ := step
    have same : w.registry = v.registry := by cases step <;> rfl
    simp [same, known] at gone
  | setBackend spec =>
    obtain ⟨r, step⟩ := step
    simp [step.known h known] at gone
  | drain id =>
    obtain ⟨r, step⟩ := step
    rcases step.registry with ⟨-, same⟩ | ⟨-, b, -, retired⟩
    · simp [same, known] at gone
    · rw [retired, get?_retire] at gone
      split at gone
      · cases gone
      · simp [known] at gone
  | delete id =>
    obtain ⟨r, step⟩ := step
    obtain ⟨rfl, unavailable⟩ := step.lost h known gone
    exact ⟨.inl rfl, unavailable⟩
  | deleteAll =>
    obtain ⟨es, steps⟩ := step
    exact ⟨.inr rfl, steps.lost h known gone⟩

/-! ### The mark of a drain -/

/-- Every unavailable backend was drained, and what was drained does not rotate any more. -/
structure Marked (v : Snapshot) (drained : UInt32 → Prop) : Prop where
  retired : ∀ id b, v.registry.get? id = some b → b.status = .unavailable → drained id
  given : ∀ id, drained id → id < v.registry.nextId
  waiting : ∀ id, drained id → id ∉ v.registry.rotation

namespace Marked

variable {drained : UInt32 → Prop}

theorem congr (h : v.Marked drained) (same : w.registry = v.registry) : w.Marked drained := by
  constructor
  · simpa only [same] using h.retired
  · simpa only [same] using h.given
  · simpa only [same] using h.waiting

theorem starting {r : Except ServiceError Unit} (h : v.Marked drained)
    (step : Starting may v r w) : w.Marked drained := by
  cases step with
  | refused | unrecorded | disallowed | started => exact h.congr rfl

theorem enrol (h : v.Marked drained) (room : v.registry.nextId.toNat + 1 < UInt32.size)
    {spec : Spec} (admitted : v.Admitted b spec) : (v.recorded b).Marked drained := by
  constructor
  · intro i c known unavailable
    change (v.registry.allocateId.2.insert b).get? i = some c at known
    simp only [Registry.get?_insert] at known
    split at known
    · cases known
      rw [admitted.available] at unavailable
      cases unavailable
    · exact h.retired i c known unavailable
  · intro i before
    exact lt_succ_of_le room (UInt32.le_of_lt (h.given i before))
  · exact h.waiting

theorem place (h : v.Marked drained) (room : v.registry.nextId.toNat + 1 < UInt32.size)
    {spec : Spec} (admitted : v.Admitted b spec) : (v.placed b).Marked drained := by
  have recorded := h.enrol room admitted
  constructor
  · exact recorded.retired
  · exact recorded.given
  · intro i before member
    rcases List.mem_append.mp member with member | last
    · exact h.waiting i before member
    · have below := h.given i before
      rw [List.mem_singleton.mp last, admitted.id_eq] at below
      exact absurd below (UInt32.lt_irrefl _)

theorem registering {spec : Spec} {r : Except ServiceError UInt32} (h : v.Marked drained)
    (step : Registering may v spec r w) (left : v.IdsLeft w) : w.Marked drained := by
  cases step with
  | refused => exact h
  | unrecorded =>
    have room := left.room rfl
    constructor
    · exact h.retired
    · intro i before
      exact lt_succ_of_le room (UInt32.le_of_lt (h.given i before))
    · exact h.waiting
  | unpointed b admitted | disallowed b admitted | unplaced b admitted =>
    exact (h.enrol (left.room rfl) admitted).congr rfl
  | unattached b admitted => exact h.place (left.room rfl) admitted
  | registered b admitted =>
    rw [registered_eq] at left ⊢
    exact (h.place (left.room rfl) admitted).congr rfl

theorem draining {r : Except ServiceError Unit} (h : v.Marked drained) (sound : v.Sound)
    (step : Draining may v id r w) : w.Marked fun i => drained i ∨ i = id ∧ r = .ok () := by
  rcases step.registry with ⟨⟨e, rfl⟩, same⟩ | ⟨rfl, b, known, retired⟩
  · simpa using h.congr same
  · have (i : UInt32) : w.registry.get? i = (v.retire b id).registry.get? i := by rw [retired]
    constructor
    · intro i c found unavailable
      by_cases same : id = i
      · exact .inr ⟨same.symm, rfl⟩
      · rw [this, get?_retire, if_neg same] at found
        exact .inl (h.retired i c found unavailable)
    · intro i marked
      rw [retired]
      rcases marked with before | ⟨rfl, -⟩
      · exact h.given i before
      · exact (sound.ids i b known).2
    · intro i marked
      rw [retired]
      change i ∉ v.registry.rotation.filter (· != id)
      rcases marked with before | ⟨rfl, -⟩
      · simp [h.waiting i before]
      · simp

theorem deleting {r : Except ServiceError Unit} (h : v.Marked drained)
    (step : Deleting may v id r w) : w.Marked drained := by
  rcases step.registry with same | ⟨b, found, gone, erased⟩
  · exact h.congr same
  · constructor
    · intro i c known
      exact h.retired i c (step.known_of_known known)
    · intro i before
      rw [erased]
      exact h.given i before
    · intro i before
      rw [erased]
      exact h.waiting i before

theorem deletingAll {ids : List UInt32} {es : List ServiceError} (h : v.Marked drained)
    (steps : DeletingAll may v ids es w) : w.Marked drained := by
  induction steps with
  | done => exact h
  | deleted first _ ih | failed first _ ih => exact ih (h.deleting first)

theorem undrained (h : v.Marked drained) (sound : v.Sound) (known : v.registry.get? id = some b)
    (before : ¬ drained id) : ¬ v.Drained b := by
  intro checked
  exact before (h.retired id b known (sound.unavailable_of_drained known checked))

end Marked
end Snapshot

/-! ### Drains in the course of a run -/

def Call.Drains (c : Call) (s : Service Memory) (id : UInt32) : Prop :=
  c.request = .drain id ∧ (c.during.outcome s (Service.drain id)).answer = .ok ()

/-- The service in the midst of a call that deletes backends, with `done` behind it. -/
def Circumstances.amid (c : Circumstances) (s : Service Memory) (done : List UInt32) :
    Service Memory :=
  (c.outcome s (done.mapM fun id => Service.failure? (Service.delete id))).state

namespace Service

def DrainedIn (s : Service Memory) (calls : List Call) (id : UInt32) : Prop :=
  ∃ before c after, calls = before ++ c :: after ∧ c.Drains (s.run before) id

structure Retires (s : Service Memory) (calls : List Call) : Prop where
  leaves : ∀ before c after id b, calls = before ++ c :: after →
    (s.run before).registry.get? id = some b →
    (s.run (before ++ [c])).registry.get? id = none →
    (c.request = .delete id ∨ c.request = .deleteAll) ∧ s.DrainedIn before id
  refuses : ∀ (c : Circumstances) done id b,
    (c.amid (s.run calls) done).registry.get? id = some b → ¬ s.DrainedIn calls id →
    (delete id).Ensures (c.amid (s.run calls) done) fun r t =>
      (∃ e, r = .error e) ∧
        t = {c.amid (s.run calls) done with base := (c.amid (s.run calls) done).base.asked}
  waits : ∀ id, s.DrainedIn calls id → id ∉ (s.run calls).registry.rotation

variable {s : Service Memory} {calls before after : List Call} {c : Call} {id : UInt32}
  {b : Backend}

theorem drainedIn_concat :
    s.DrainedIn (calls ++ [c]) id ↔ s.DrainedIn calls id ∨ c.Drains (s.run calls) id := by
  constructor
  · rintro ⟨before, d, after, split, drains⟩
    rcases concat_eq_append_cons split with ⟨rfl, rfl, -⟩ | ⟨rest, earlier, -⟩
    · exact .inr drains
    · exact .inl ⟨before, d, rest, earlier, drains⟩
  · rintro (⟨before, d, after, rfl, drains⟩ | drains)
    · exact ⟨before, d, after ++ [c], by simp, drains⟩
    · exact ⟨calls, c, [], rfl, drains⟩

/-! ### A deletion without a drain -/

theorem checkDrained_refuses (undrained : ¬ s.snapshot.Drained b) :
    (checkDrained b).Ensures s fun r t =>
      (∃ e, r = .error e) ∧ t = {s with base := s.base.asked} := by
  apply Action.Ensures.bind
  apply Action.Ensures.onPart
  apply Memory.ensures_backendInfo?
  · intro _
    exact ⟨⟨_, rfl⟩, rfl⟩
  · cases found : s.base.backendInfo[b.id]? with
    | some info =>
      have check : ¬ Status.ofNumber info.status = .unavailable :=
        mt (Snapshot.drained_some found).mpr undrained
      dsimp only [Action.Ensures.Then]
      rw [if_neg check]
      exact .note_bind (.throw ⟨⟨_, rfl⟩, rfl⟩)
    | none =>
      have check : ¬ b.status = .unavailable := mt (Snapshot.drained_none found).mpr undrained
      dsimp only [Action.Ensures.Then]
      rw [if_neg check]
      exact .throw ⟨⟨_, rfl⟩, rfl⟩

theorem delete_refuses (known : s.registry.get? id = some b) (undrained : ¬ s.snapshot.Drained b) :
    (delete id).Ensures s fun r t => (∃ e, r = .error e) ∧ t = {s with base := s.base.asked} := by
  apply Action.Ensures.get_bind
  simp only [known]
  refine .bind ((checkDrained_refuses undrained).mono ?_)
  rintro _ t ⟨⟨e, rfl⟩, same⟩
  exact ⟨⟨e, rfl⟩, same⟩

end Service

/-! ### Every run -/

theorem Call.marked {drained : UInt32 → Prop} (c : Call) (s : Service Memory)
    (h : s.snapshot.Marked drained) (sound : s.snapshot.Sound)
    (left : s.snapshot.IdsLeft (c.after s).snapshot) :
    (c.after s).snapshot.Marked fun id => drained id ∨ c.Drains s id := by
  obtain ⟨request, during⟩ := c
  cases request with
  | drain id =>
    have same (i : UInt32) : Call.Drains ⟨.drain id, during⟩ s i ↔
        i = id ∧ (during.outcome s (Service.drain id)).answer = .ok () := by
      constructor
      · rintro ⟨asked, answered⟩
        cases asked
        exact ⟨rfl, answered⟩
      · rintro ⟨rfl, answered⟩
        exact ⟨rfl, answered⟩
    simp only [same]
    exact h.draining sound (during.draining s id)
  | start => simpa [Call.Drains, Call.after] using h.starting (during.starting s)
  | setBackend spec =>
    simpa [Call.Drains, Call.after] using h.registering (during.registering s spec) left
  | delete id => simpa [Call.Drains, Call.after] using h.deleting (during.deleting s id)
  | deleteAll =>
    obtain ⟨es, steps⟩ := during.deletingAll s
    simpa [Call.Drains, Call.after] using h.deletingAll steps

namespace Service

theorem run_marked (frontend : Frontend) (settings : Flow.Settings) (calls : List Call)
    (few : (fresh frontend settings).allocations calls < UInt32.size - 1) :
    ((fresh frontend settings).run calls).snapshot.Marked
      ((fresh frontend settings).DrainedIn calls) := by
  induction calls using List.reverseRecOn with
  | nil =>
    have none (id : UInt32) : ¬ (fresh frontend settings).DrainedIn [] id := by
      rintro ⟨before, c, after, split, -⟩
      simp at split
    constructor
    · intro id b known
      cases known
    · intro id drained
      exact absurd drained (none id)
    · intro id drained
      exact absurd drained (none id)
  | append_singleton calls c ih =>
    have left := idsLeft_concat frontend settings calls c few
    rw [allocations_append] at few
    have sound := run_sound frontend settings calls (by omega)
    rw [run_concat, show (fresh frontend settings).DrainedIn (calls ++ [c]) = _ from
      funext fun id => propext drainedIn_concat]
    exact c.marked _ (ih (by omega)) sound left

/-- Whatever fails, and as long as the counter of the ids does not overflow (`few`): backends leave
the registry only by a deletion after a drain that succeeded, a deletion without one is refused and
changes nothing, and after one the backend never rotates again. -/
theorem run_retires (frontend : Frontend) (settings : Flow.Settings) (calls : List Call)
    (few : (fresh frontend settings).allocations calls < UInt32.size - 1) :
    (fresh frontend settings).Retires calls := by
  constructor
  case leaves =>
    rintro before c after id b rfl known gone
    rw [allocations_append] at few
    have sound := run_sound frontend settings before (by omega)
    rw [run_concat] at gone
    obtain ⟨asked, unavailable⟩ := (c.step _).lost sound known gone
    have marked := run_marked frontend settings before (by omega)
    exact ⟨asked, marked.retired id b known unavailable⟩
  case refuses =>
    intro c done id b known undrained
    have sound := run_sound frontend settings calls few
    have marked := run_marked frontend settings calls few
    obtain ⟨failures, -, steps⟩ := deleteEach_ensures done
      (((fresh frontend settings).run calls).under c) #[]
    have checked := (marked.deletingAll steps).undrained (sound.deletingAll steps) known undrained
    exact delete_refuses known checked
  case waits => exact (run_marked frontend settings calls few).waiting

/-- The drain of the first of two backends stops before its status is written, so its deletion is
refused. Both are repeated. -/
theorem run_retires_repeated : Sample.service.Retires [⟨.setBackend Sample.spec, Sample.host⟩,
    ⟨.setBackend Sample.spec, Sample.host⟩, ⟨.drain 1, Sample.without .setBackendInfo⟩,
    ⟨.delete 1, {}⟩, ⟨.drain 1, {}⟩, ⟨.delete 1, {}⟩] :=
  run_retires Sample.frontend {} _ (by decide +kernel)

/-- Without a bound on the ids: the id of a drained backend rotates again when it is given out once
more. -/
theorem reused_id_rotates_after_drain :
    let calls := [Sample.registration, ⟨.drain 1, {}⟩] ++ (Sample.lap ++ [Sample.registration])
    Sample.service.DrainedIn calls 1 ∧ (Sample.service.run calls).registry.rotation = [1] ∧
      ¬ Sample.service.Retires calls := by
  intro calls
  have drained : Sample.service.DrainedIn calls 1 :=
    ⟨[Sample.registration], ⟨.drain 1, {}⟩, _, rfl, rfl, by decide +kernel⟩
  have left :
      (Sample.service.run [Sample.registration, ⟨.drain 1, {}⟩]).registry.rotation = [] := by
    decide +kernel
  have next : (Sample.service.run [Sample.registration, ⟨.drain 1, {}⟩]).registry.nextId = 2 := by
    decide +kernel
  have rotation : (Sample.service.run calls).registry.rotation = [1] := by
    rw [run_append, Sample.rotation_lap_registration (by rw [left]; decide), left, next]
    rfl
  refine ⟨drained, rotation, fun retires => retires.waits 1 drained ?_⟩
  rw [rotation]
  exact List.mem_singleton_self 1

end Service
end EdgeControl.Balancer
