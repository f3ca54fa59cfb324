import EdgeControl.Proofs.Balancer.Admission
import EdgeControl.Proofs.Balancer.Mirror

/-!
Ids that are given out again. The counter of the ids has thirty-two bits, and a registration whose
record cannot be written takes an id and leaves nothing that would hold it. After enough of them the
counter is back where it was before a backend that is still registered.
-/
namespace EdgeControl.Balancer

namespace Snapshot

variable {may : Operation → Prop} {v w : Snapshot} {b : Backend}

def skip (v : Snapshot) (count : UInt32) : Snapshot :=
  {v with registry := {v.registry with nextId := v.registry.nextId + count}}

theorem rotation_skip (count : UInt32) :
    (v.skip count).registry.rotation = v.registry.rotation := rfl

theorem allocate_skip (count : UInt32) : (v.skip count).allocate = v.skip (count + 1) := by
  simp only [allocate, skip, Registry.allocateId, UInt32.add_assoc]

theorem Mirrored.skip (h : v.Mirrored) (count : UInt32) : (v.skip count).Mirrored :=
  h.congr rfl rfl

theorem rotation_registered :
    (v.registered b).registry.rotation = v.registry.rotation ++ [b.id] := by
  rw [registered_eq]
  rfl

theorem known_registered : (v.registered b).registry.get? b.id = some b := by
  rw [registered_eq]
  exact (Registry.get?_insert _ b b.id).trans (if_pos rfl)

theorem Registering.of_ok {spec : Spec} {r : Except ServiceError UInt32} {id : UInt32}
    (step : Registering may v spec r w) (ok : r = .ok id) :
    ∃ b, b.id = v.registry.nextId ∧ w = v.registered b := by
  cases step with
  | registered b admitted => exact ⟨b, admitted.id_eq, rfl⟩
  | _ => cases ok

end Snapshot

namespace Service

theorem registry_snapshot (s : Service Memory) : s.snapshot.registry = s.registry := rfl

theorem registry_of_snapshot {s : Service Memory} {v : Snapshot} (h : s.snapshot = v) :
    s.registry = v.registry :=
  congrArg Snapshot.registry h

theorem run_append (s : Service Memory) (before after : List Call) :
    s.run (before ++ after) = (s.run before).run after :=
  List.foldl_append

end Service

section

variable {s : Service Memory} {spec : Spec} {c : Circumstances} (valid : spec.validate = .ok ())
  (known : c.neighbors.contains spec.addr = true)
  (room : s.registry.rotation.length < rotationSlots)
include valid known room

theorem Call.after_works (works : ∀ op, ¬ c.faults.MayFail op) :
    ∃ b, b.id = s.registry.nextId ∧
      (Call.after ⟨.setBackend spec, c⟩ s).snapshot = s.snapshot.registered b := by
  have fit : Service.Fit c.neighbors s.registry.rotation.length (s.under c) := ⟨works, rfl, rfl⟩
  have answer := (fit.setBackend valid room #[]).2
  rw [Service.Answer, if_pos known] at answer
  obtain ⟨id, ok⟩ := answer
  exact (c.registering s spec).of_ok ok

variable (resolves : ¬ c.faults.MayFail .resolve)
  (unrecorded : ∀ n, c.faults.plan n .setBackendInfo = true)
include resolves unrecorded

theorem Call.after_unrecorded :
    (Call.after ⟨.setBackend spec, c⟩ s).snapshot = s.snapshot.allocate :=
  (Service.setBackend_unrecorded (s := s.under c) valid resolves known room unrecorded #[]).2

theorem Service.run_unrecorded (count : Nat) :
    (s.run (List.replicate count ⟨.setBackend spec, c⟩)).snapshot =
      s.snapshot.skip (UInt32.ofNat count) := by
  induction count with
  | zero => simp [run, Snapshot.skip, snapshot]
  | succ count ih =>
    have kept : (s.run (List.replicate count ⟨.setBackend spec, c⟩)).registry.rotation =
        s.registry.rotation := by
      rw [registry_of_snapshot ih, Snapshot.rotation_skip, registry_snapshot]
    rw [List.replicate_succ', run_concat,
      Call.after_unrecorded valid known (kept ▸ room) resolves unrecorded, ih,
      Snapshot.allocate_skip, UInt32.ofNat_add]
    rfl

end

namespace Sample

def registration : Call := ⟨.setBackend spec, host⟩

/-- As many registrations without record as it takes to set the counter of the ids back by one. -/
def lap : List Call :=
  List.replicate (UInt32.size - 1) ⟨.setBackend spec, without .setBackendInfo⟩

theorem run_lap {s : Service Memory} (room : s.registry.rotation.length < rotationSlots) :
    (s.run lap).snapshot = s.snapshot.skip (-1) := by
  have back : UInt32.ofNat (UInt32.size - 1) = -1 := by decide
  rw [← back]
  apply Service.run_unrecorded
  · rfl
  · decide +kernel
  · exact room
  · rintro ⟨n, fault⟩
    cases fault
  · intro n
    rfl

/-- The id that was given out last is given out again. -/
theorem run_lap_registration {s : Service Memory}
    (room : s.registry.rotation.length < rotationSlots) :
    ∃ b, b.id = s.registry.nextId + -1 ∧
      (s.run (lap ++ [registration])).snapshot = (s.snapshot.skip (-1)).registered b := by
  have lapped := run_lap room
  -- Nothing may compute the lap, so it becomes a variable.
  generalize lap = calls at lapped ⊢
  have registry := Service.registry_of_snapshot lapped
  have free : (s.run calls).registry.rotation.length < rotationSlots := by
    rw [registry, Snapshot.rotation_skip, Service.registry_snapshot]
    exact room
  obtain ⟨b, given, registered⟩ : ∃ b, b.id = (s.run calls).registry.nextId ∧
      (registration.after (s.run calls)).snapshot = (s.run calls).snapshot.registered b :=
    Call.after_works rfl (by decide +kernel) free Faults.not_mayFail_none
  rw [registry] at given
  rw [Service.run_concat, ← lapped]
  exact ⟨b, given, registered⟩

theorem rotation_lap_registration {s : Service Memory}
    (room : s.registry.rotation.length < rotationSlots) :
    (s.run (lap ++ [registration])).registry.rotation =
      s.registry.rotation ++ [s.registry.nextId + -1] := by
  obtain ⟨b, given, again⟩ := run_lap_registration room
  rw [Service.registry_of_snapshot again, Snapshot.rotation_registered, given,
    Snapshot.rotation_skip, Service.registry_snapshot]

def reuse : List Call := [registration] ++ (lap ++ [registration])

/-- Both backends have the same id, so only one of them is left in the registry. -/
theorem run_reuse : (service.run reuse).registry.rotation = [1, 1] ∧
    (∃ b, (service.run reuse).registry.get? 1 = some b) ∧
    (service.run reuse).snapshot.Mirrored := by
  have first : (service.run [registration]).registry.rotation = [1] := by decide +kernel
  have last : (service.run [registration]).registry.nextId + -1 = 1 := by decide +kernel
  have mirrored : (service.run [registration]).snapshot.Mirrored :=
    (Snapshot.Mirrored.fresh frontend {}).registering (host.registering service spec)
  have room : (service.run [registration]).registry.rotation.length < rotationSlots := by
    rw [first]
    decide
  rw [reuse, Service.run_append]
  refine ⟨?_, ?_⟩
  · rw [rotation_lap_registration room, first, last]
    rfl
  · obtain ⟨b, given, again⟩ := run_lap_registration room
    have known := Snapshot.known_registered (v := (service.run [registration]).snapshot.skip (-1))
      (b := b)
    rw [← Service.registry_of_snapshot again, given, last] at known
    exact ⟨⟨b, known⟩, again ▸ (mirrored.skip _).registered b⟩

end Sample
end EdgeControl.Balancer
