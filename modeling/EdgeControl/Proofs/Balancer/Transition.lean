import EdgeControl.Proofs.Balancer.Snapshot
import EdgeControl.Proofs.Memory

/-!
Everything that the operations of a balancer can do to what it holds. Each operation has one
relation between the snapshot before it, its answer and the snapshot after it, with one case for
each way through the operation. A case that needs a failure of the host names the operation of the
host that fails.
-/
namespace EdgeControl.Balancer

namespace Snapshot

variable (may : Operation → Prop) (v : Snapshot)

inductive Starting : Except ServiceError Unit → Snapshot → Prop
  | refused (e : BalancerError) (invalid : v.frontend.info = .error e) :
      Starting (.error e.toService) v
  | unrecorded (fault : may .setFrontend) : Starting (.error Operation.setFrontend.failure) v
  | disallowed (info : FrontendInfo) (valid : v.frontend.info = .ok info)
      (fault : may .allowRedirect) :
      Starting (.error Operation.allowRedirect.failure) {v with frontendInfo := some info}
  | started (info : FrontendInfo) (valid : v.frontend.info = .ok info) :
      Starting (.ok ()) ({v with frontendInfo := some info}.allow v.frontend.ifindex)

/-- Registering a backend. What was written before a failure stays. -/
inductive Registering (spec : Spec) : Except ServiceError UInt32 → Snapshot → Prop
  | refused (e : ServiceError) : Registering spec (.error e) v
  | unrecorded (b : Backend) (admitted : v.Admitted b spec) (fault : may .setBackendInfo) :
      Registering spec (.error Operation.setBackendInfo.failure) v.allocate
  | unpointed (b : Backend) (admitted : v.Admitted b spec) (fault : may .setBackendIfindex) :
      Registering spec (.error Operation.setBackendIfindex.failure) (v.recorded b)
  | disallowed (b : Backend) (admitted : v.Admitted b spec) (fault : may .allowRedirect) :
      Registering spec (.error Operation.allowRedirect.failure) (v.pointed b)
  | unplaced (b : Backend) (admitted : v.Admitted b spec) (op : Operation)
      (which : op = .slot v.registry.rotation.length ∨ op = .setSlot) (fault : may op) :
      Registering spec (.error op.failure) (v.allowed b)
  | unattached (b : Backend) (admitted : v.Admitted b spec)
      (first : v.links.contains b.ifindex = false) (fault : may .attach) :
      Registering spec (.error Operation.attach.failure) (v.placed b)
  | registered (b : Backend) (admitted : v.Admitted b spec) :
      Registering spec (.ok b.id) (v.registered b)

/-- Writing slots one after the other, up to the first one that fails. -/
inductive Writing : Snapshot → List SlotWrite → Except ServiceError Unit → Snapshot → Prop
  | done (v : Snapshot) : Writing v [] (.ok ()) v
  | halted (v : Snapshot) (w : SlotWrite) (ws : List SlotWrite) (e : ServiceError)
      (fault : may (.slot w.slot) ∨ may .setSlot ∨ 64 ≤ w.slot) :
      Writing v (w :: ws) (.error e) v
  | next {v u : Snapshot} {w : SlotWrite} {ws : List SlotWrite} {r : Except ServiceError Unit}
      (rest : Writing (v.write w) ws r u) : Writing v (w :: ws) r u

inductive Draining (id : UInt32) : Except ServiceError Unit → Snapshot → Prop
  | unknown (absent : v.registry.get? id = none) :
      Draining id (.error (BalancerError.backendNotFound id).toService) v
  | halted (b : Backend) (known : v.registry.get? id = some b) (ws : List SlotWrite)
      (writes : v.registry.drainWrites id = .ok ws) (e : ServiceError) (u : Snapshot)
      (writing : Writing may v ws (.error e) u) : Draining id (.error e) u
  | unmarked (b : Backend) (known : v.registry.get? id = some b) (ws : List SlotWrite)
      (writes : v.registry.drainWrites id = .ok ws) (fault : may .setBackendInfo) :
      Draining id (.error Operation.setBackendInfo.failure) (v.writeAll ws)
  | drained (b : Backend) (known : v.registry.get? id = some b) (ws : List SlotWrite)
      (writes : v.registry.drainWrites id = .ok ws) :
      Draining id (.ok ()) ((v.writeAll ws).retire b id)

inductive Deleting (id : UInt32) : Except ServiceError Unit → Snapshot → Prop
  | unknown (absent : v.registry.get? id = none) : Deleting id (.ok ()) v
  | refused (b : Backend) (known : v.registry.get? id = some b) (e : ServiceError)
      (why : may .backendInfo ∨ ¬ v.Drained b) : Deleting id (.error e) v
  | undetached (b : Backend) (known : v.registry.get? id = some b) (drained : v.Drained b)
      (alone : v.sibling? b = none) (link : Link) (linked : v.links[b.ifindex]? = some link)
      (fault : may .detach) :
      Deleting id (.error Operation.detach.failure) (v.unlink b.ifindex)
  | unforgotten (b : Backend) (known : v.registry.get? id = some b) (drained : v.Drained b)
      (e : ServiceError) (fault : may .removeBackendInfo ∨ v.backendInfo.contains id = false)
      (recorded : v.backendInfo.contains b.id = true) : Deleting id (.error e) (v.vacated b)
  | notHandedOver (b : Backend) (known : v.registry.get? id = some b) (drained : v.Drained b)
      (other : Backend) (shared : v.sibling? b = some other) (fault : may .setBackendIfindex) :
      Deleting id (.error Operation.setBackendIfindex.failure) (v.forgotten b id)
  | handedOver (b : Backend) (known : v.registry.get? id = some b) (drained : v.Drained b)
      (other : Backend) (shared : v.sibling? b = some other) :
      Deleting id (.ok ()) (((v.forgotten b id).point b.ifindex other.id).remove id)
  | pointed (b : Backend) (known : v.registry.get? id = some b) (drained : v.Drained b)
      (alone : v.sibling? b = none) (e : ServiceError)
      (fault : may .removeBackendIfindex ∨ v.backendIfindex.contains b.ifindex = false) :
      Deleting id (.error e) (v.forgotten b id)
  | unrevoked (b : Backend) (known : v.registry.get? id = some b) (drained : v.Drained b)
      (alone : v.sibling? b = none) (e : ServiceError)
      (pointed : v.backendIfindex.contains b.ifindex = true)
      (inner : b.ifindex ≠ v.frontend.ifindex)
      (fault : may .revokeRedirect ∨ v.redirect.contains b.ifindex = false) :
      Deleting id (.error e) (v.unpointed b id)
  | withdrawn (b : Backend) (known : v.registry.get? id = some b) (drained : v.Drained b)
      (alone : v.sibling? b = none) (pointed : v.backendIfindex.contains b.ifindex = true)
      (allowed : b.ifindex = v.frontend.ifindex ∨ v.redirect.contains b.ifindex = true) :
      Deleting id (.ok ()) ((v.withdrawn b id).remove id)

/-- Deleting one backend after the other, going on past failures. -/
inductive DeletingAll : Snapshot → List UInt32 → List ServiceError → Snapshot → Prop
  | done (v : Snapshot) : DeletingAll v [] [] v
  | deleted {v u w : Snapshot} {id : UInt32} {ids : List UInt32} {es : List ServiceError}
      (first : Deleting may v id (.ok ()) u) (rest : DeletingAll u ids es w) :
      DeletingAll v (id :: ids) es w
  | failed {v u w : Snapshot} {id : UInt32} {ids : List UInt32} {e : ServiceError}
      {es : List ServiceError} (first : Deleting may v id (.error e) u)
      (rest : DeletingAll u ids es w) : DeletingAll v (id :: ids) (e :: es) w

variable {may v}

theorem Writing.ok {u : Snapshot} {ws : List SlotWrite} (h : Writing may v ws (.ok ()) u) :
    u = v.writeAll ws := by
  generalize done : (Except.ok () : Except ServiceError Unit) = r at h
  induction h with
  | done v => rfl
  | halted => cases done
  | next rest ih => exact ih done

variable (may) in
theorem writing_writeAll (v : Snapshot) (ws : List SlotWrite) :
    Writing may v ws (.ok ()) (v.writeAll ws) := by
  induction ws generalizing v with
  | nil => exact .done v
  | cons w ws ih => exact .next (ih (v.write w))

@[simp] theorem registry_writeAll (v : Snapshot) (ws : List SlotWrite) :
    (v.writeAll ws).registry = v.registry := by
  induction ws generalizing v with
  | nil => rfl
  | cons w ws ih => exact ih (v.write w)

theorem writeAll_eq (v : Snapshot) (ws : List SlotWrite) :
    v.writeAll ws = {v with slots := (v.writeAll ws).slots} := by
  induction ws generalizing v with
  | nil => rfl
  | cons w ws ih => exact ih (v.write w)

theorem drained_some {b : Backend} {info : BackendInfo}
    (found : v.backendInfo[b.id]? = some info) :
    v.Drained b ↔ Status.ofNumber info.status = .unavailable := by
  simp only [Drained, found]

theorem drained_none {b : Backend} (missing : v.backendInfo[b.id]? = none) :
    v.Drained b ↔ b.status = .unavailable := by
  simp only [Drained, missing]

end Snapshot
end EdgeControl.Balancer
