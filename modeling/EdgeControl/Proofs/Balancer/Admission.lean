import EdgeControl.Proofs.Balancer.Run

/-!
Registrations of backends whose neighbor the host knows. Where nothing fails they go through, and
where the record cannot be written they take an id and leave everything else as it was.
-/
namespace EdgeControl.Balancer

open EdgeControl.Action

namespace Service

variable {known : Std.ExtTreeMap Ipv4 Neighbor} {n : Nat} {s : Service Memory} {spec : Spec}

/-- Whether the probe fails makes no difference. -/
theorem findNeighbor_resolves (resolves : ¬ s.base.faults.MayFail .resolve) (addr : Ipv4) :
    (findNeighbor addr).Ensures s fun r t =>
      t = {s with base := {s.base with
        probed := s.base.probed ++ [addr]
        faults := s.base.faults.next.next}} ∧
      r = match s.base.neighbors[addr]? with
        | some neighbor => .ok neighbor
        | none => .error (BalancerError.neighborNotFound (toString addr)).toService := by
  let probed : Memory := {s.base with
    probed := s.base.probed ++ [addr]
    faults := s.base.faults.next}
  have probe : (Neighbors.probe addr : Action Memory Unit).Ensures s.base fun _ m => m = probed :=
    .modify_bind (Memory.ensures_ask (fun _ => rfl) rfl)
  have resolve : (onBase (Neighbors.resolve addr)).Ensures {s with base := probed} fun r t =>
      r = .ok s.base.neighbors[addr]? ∧ t = {s with base := probed.asked} :=
    .onPart (.bind (Memory.ensures_ask (fun fault => absurd fault resolves)
      (.get_bind (.pure ⟨rfl, rfl⟩))))
  refine .bind (.result (.onPart (probe.mono ?_)))
  rintro (e | _) _ rfl
  case' error => refine .note_bind ?_
  all_goals
    refine .bind (resolve.mono ?_)
    rintro _ _ ⟨rfl, rfl⟩
    cases s.base.neighbors[addr]? with
    | none => exact .throw ⟨rfl, rfl⟩
    | some neighbor => exact .pure ⟨rfl, rfl⟩

/-! ### Where nothing fails -/

/-- What a registration answers where nothing fails: it works when the neighbor is known, and else
says that it is not. -/
def Answer (known : Std.ExtTreeMap Ipv4 Neighbor) (spec : Spec)
    (r : Except ServiceError UInt32) : Prop :=
  if known.contains spec.addr then ∃ id, r = .ok id
  else r = .error (BalancerError.neighborNotFound (toString spec.addr)).toService

/-- A service on a host where nothing fails, with so many slots taken. -/
structure Fit (known : Std.ExtTreeMap Ipv4 Neighbor) (taken : Nat) (s : Service Memory) : Prop where
  works : ∀ op, ¬ s.base.faults.MayFail op
  neighbors : s.base.neighbors = known
  rotation : s.registry.rotation.length = taken

theorem write_bind {α : Type} {act : Action Memory Unit} {next : Unit → Action (Service Memory) α}
    {post : Except ServiceError α → Service Memory → Prop}
    (write : act.Ensures s.base fun r m => r = .ok () ∧ Fit known n {s with base := m})
    (rest : ∀ t, Fit known n t → (next ()).Ensures t post) :
    (onBase act >>= next).Ensures s post := by
  refine .bind (.onPart (write.mono ?_))
  rintro _ m ⟨rfl, fit⟩
  exact rest _ fit

namespace Fit

variable (fit : Fit known n s)
include fit

theorem findNeighbor (addr : Ipv4) :
    (findNeighbor addr).Ensures s fun r t => Fit known n t ∧
      r = match known[addr]? with
        | some neighbor => .ok neighbor
        | none => .error (BalancerError.neighborNotFound (toString addr)).toService := by
  refine (findNeighbor_resolves (fit.works _) addr).mono ?_
  rintro _ _ ⟨rfl, rfl⟩
  rw [fit.neighbors]
  exact ⟨⟨fit.works, fit.neighbors, fit.rotation⟩, rfl⟩

theorem attachDevice (id ifindex : UInt32) :
    (attachDevice id ifindex).Ensures s fun r t => r = .ok () ∧ Fit known n t := by
  refine .get_bind ?_
  split
  · exact .note ⟨rfl, fit⟩
  · refine .bind (.onPart (Memory.ensures_attach (fun fault => ?_) (.modify ?_)))
    · exact absurd fault (fit.works _)
    · exact ⟨rfl, fit.works, fit.neighbors, fit.rotation⟩

theorem setBackend (valid : spec.validate = .ok ()) (room : n < rotationSlots) :
    (setBackend spec).Ensures s fun r t => (∃ k ≤ n + 1, Fit known k t) ∧
      Answer known spec r := by
  refine .bind (.ofExcept (fun _ _ => ?_) fun e invalid => ?_)
  case refine_2 =>
    rw [valid] at invalid
    cases invalid
  refine .bind ((fit.findNeighbor spec.addr).mono ?_)
  rintro r t ⟨fit, answer⟩
  unfold Answer
  rw [Std.ExtTreeMap.contains_eq_isSome_getElem?]
  cases resolved : known[spec.addr]? with
  | none =>
    rw [resolved] at answer
    subst answer
    exact ⟨⟨n, Nat.le_succ n, fit⟩, rfl⟩
  | some neighbor =>
    rw [resolved] at answer
    subst answer
    have free : t.registry.nextSlot = .ok n := by
      rw [Registry.nextSlot, fit.rotation, if_neg (Nat.not_le.mpr room)]
    refine .get_bind (.bind ?_)
    rw [free]
    refine .pure (.get_bind (.set_bind (write_bind (Memory.ensures_setBackendInfo
      (fun fault => absurd fault (fit.works _)) ⟨rfl, fit.works, fit.neighbors, fit.rotation⟩)
      fun u fit => ?_)))
    refine .modify_bind (write_bind (Memory.ensures_setBackendIfindex
      (fun fault => absurd fault (fit.works _)) ⟨rfl, fit.works, fit.neighbors, fit.rotation⟩)
      fun v fit => ?_)
    refine write_bind (Memory.ensures_allowRedirect
      (fun fault => absurd fault (fit.works _)) ⟨rfl, fit.works, fit.neighbors, fit.rotation⟩)
      fun w fit => ?_
    refine write_bind (Memory.ensures_setSlot (fun fault => absurd fault (fit.works _))
      (fun fault => absurd fault (fit.works _)) (fun beyond => absurd room (Nat.not_lt.mpr beyond))
      fun _ => ⟨rfl, fit.works, fit.neighbors, fit.rotation⟩) fun x fit => ?_
    have placed (id : UInt32) : Fit known (n + 1) {x with registry := x.registry.pushRotation id} :=
      ⟨fit.works, fit.neighbors, by rw [← fit.rotation]; exact List.length_append⟩
    refine .modify_bind (.note_bind (.bind (((placed _).attachDevice _ _).mono ?_)))
    rintro _ y ⟨rfl, fit⟩
    exact .note_bind (.pure ⟨⟨n + 1, Nat.le_refl _, fit⟩, _, rfl⟩)

end Fit

/-! ### Where the record cannot be written -/

theorem setBackend_unrecorded (valid : spec.validate = .ok ())
    (resolves : ¬ s.base.faults.MayFail .resolve)
    (known : s.base.neighbors.contains spec.addr = true)
    (room : s.registry.rotation.length < rotationSlots)
    (unrecorded : ∀ n, s.base.faults.plan n .setBackendInfo = true) :
    (setBackend spec).Ensures s fun r t =>
      r = .error Operation.setBackendInfo.failure ∧ t.snapshot = s.snapshot.allocate := by
  rw [Std.ExtTreeMap.contains_eq_isSome_getElem?] at known
  obtain ⟨neighbor, resolved⟩ := Option.isSome_iff_exists.mp known
  have free : s.registry.nextSlot = .ok s.registry.rotation.length := by
    rw [Registry.nextSlot, if_neg (Nat.not_le.mpr room)]
  refine .bind ?_
  rw [balancer, valid]
  refine .pure (.bind ((findNeighbor_resolves resolves spec.addr).mono ?_))
  rw [resolved]
  rintro _ _ ⟨rfl, rfl⟩
  refine .get_bind (.bind ?_)
  rw [free]
  refine .pure (.get_bind (.set_bind (.bind (.onPart (.bind (Memory.ensures_ask_now ?_ ?_))))))
  · intro _
    exact ⟨rfl, rfl⟩
  · intro works
    exact absurd (unrecorded _) (Bool.eq_false_iff.mp works)

end Service
end EdgeControl.Balancer
