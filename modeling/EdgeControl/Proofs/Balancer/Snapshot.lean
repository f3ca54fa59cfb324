import EdgeControl.Balancer.Service
import EdgeControl.Memory
import EdgeControl.Proofs.Table

/-!
What a balancer and its tables hold between two steps, and the single changes that its operations
make. The neighbors of the host, its plan of failures and what it counts are no part of it.
-/
namespace EdgeControl.Balancer

structure Snapshot where
  frontend : Frontend
  registry : Registry
  links : Std.ExtTreeMap UInt32 Link
  frontendInfo : Option FrontendInfo
  redirect : Std.ExtTreeSet UInt32
  backendInfo : Std.ExtTreeMap UInt32 BackendInfo
  backendIfindex : Std.ExtTreeMap UInt32 UInt32
  slots : Vector UInt32 64
  attached : Std.ExtTreeSet UInt32

namespace Service

def snapshot (s : Service Memory) : Snapshot where
  frontend := s.frontend
  registry := s.registry
  links := s.links
  frontendInfo := s.base.frontend
  redirect := s.base.redirect
  backendInfo := s.base.backendInfo
  backendIfindex := s.base.backendIfindex
  slots := s.base.slots
  attached := s.base.attached

end Service

namespace Snapshot

variable (v : Snapshot) (b : Backend)

/-! ### Single changes -/

def allocate : Snapshot := {v with registry := v.registry.allocateId.2}

def enrol : Snapshot := {v with
  registry := v.registry.insert b
  backendInfo := v.backendInfo.insert b.id b.info}

def point (ifindex id : UInt32) : Snapshot :=
  {v with backendIfindex := v.backendIfindex.insert ifindex id}

def allow (ifindex : UInt32) : Snapshot := {v with redirect := v.redirect.insert ifindex}

/-- Puts an id into the first slot past the rotation, and at the end of the rotation. -/
def place (id : UInt32) : Snapshot := {v with
  slots := v.slots.setIfInBounds v.registry.rotation.length id
  registry := v.registry.pushRotation id}

def attach (ifindex : UInt32) : Snapshot := {v with
  links := v.links.insert ifindex ⟨ifindex⟩
  attached := v.attached.insert ifindex}

def write (w : SlotWrite) : Snapshot :=
  {v with slots := v.slots.setIfInBounds w.slot w.backendId}

def writeAll (ws : List SlotWrite) : Snapshot := ws.foldl write v

def retire (id : UInt32) : Snapshot := {v with
  backendInfo := v.backendInfo.insert id {b.info with status := Status.unavailable.number}
  registry := {v.registry with
    backends := v.registry.backends.insert id {b with status := .unavailable}
    rotation := v.registry.rotation.filter (· != id)}}

def unlink (ifindex : UInt32) : Snapshot := {v with links := v.links.erase ifindex}

def detach (link : Link) : Snapshot := {v with attached := v.attached.erase link.ifindex}

def forget (id : UInt32) : Snapshot := {v with backendInfo := v.backendInfo.erase id}

def unpoint (ifindex : UInt32) : Snapshot :=
  {v with backendIfindex := v.backendIfindex.erase ifindex}

def revoke (ifindex : UInt32) : Snapshot := {v with redirect := v.redirect.erase ifindex}

def remove (id : UInt32) : Snapshot := {v with registry := v.registry.erase id}

/-! ### Stages of a registration -/

structure Admitted (spec : Spec) : Prop where
  valid : spec.validate = .ok ()
  room : v.registry.rotation.length < rotationSlots
  specified : ∃ neighbor, b = Backend.ofSpec v.registry.nextId spec neighbor

def recorded : Snapshot := v.allocate.enrol b

def pointed : Snapshot := (v.recorded b).point b.ifindex b.id

def allowed : Snapshot := (v.pointed b).allow b.ifindex

def placed : Snapshot := (v.allowed b).place b.id

/-- The last stage. Backends behind one device share its link. -/
def registered : Snapshot :=
  if v.links.contains b.ifindex then v.placed b else (v.placed b).attach b.ifindex

theorem registered_eq : v.registered b = {v.placed b with
    links := if v.links.contains b.ifindex then v.links
      else v.links.insert b.ifindex ⟨b.ifindex⟩
    attached := if v.links.contains b.ifindex then v.attached
      else v.attached.insert b.ifindex} := by
  unfold registered
  split <;> rfl

/-! ### Stages of a deletion -/

/-- The check before a deletion: the data plane's record says unavailable, or it is gone and the
registry says so. -/
def Drained : Prop :=
  match v.backendInfo[b.id]? with
  | some info => Status.ofNumber info.status = .unavailable
  | none => b.status = .unavailable

def sibling? : Option Backend := Service.sibling? v.registry b

def vacated : Snapshot :=
  match v.sibling? b, v.links[b.ifindex]? with
  | none, some link => (v.unlink b.ifindex).detach link
  | _, _ => v

def forgotten (id : UInt32) : Snapshot :=
  if v.backendInfo.contains b.id then (v.vacated b).forget id else v.vacated b

def unpointed (id : UInt32) : Snapshot := (v.forgotten b id).unpoint b.ifindex

/-- The device of a backend without sibling, with all that was allowed for it. The device that
faces the clients stays allowed. -/
def withdrawn (id : UInt32) : Snapshot :=
  if b.ifindex = v.frontend.ifindex then v.unpointed b id
  else (v.unpointed b id).revoke b.ifindex

/-! ### What the stages of a deletion leave -/

variable (id : UInt32)

@[simp] theorem registry_vacated : (v.vacated b).registry = v.registry := by
  unfold vacated
  split <;> rfl

@[simp] theorem slots_vacated : (v.vacated b).slots = v.slots := by
  unfold vacated
  split <;> rfl

@[simp] theorem backendInfo_vacated : (v.vacated b).backendInfo = v.backendInfo := by
  unfold vacated
  split <;> rfl

@[simp] theorem backendIfindex_vacated : (v.vacated b).backendIfindex = v.backendIfindex := by
  unfold vacated
  split <;> rfl

@[simp] theorem redirect_vacated : (v.vacated b).redirect = v.redirect := by
  unfold vacated
  split <;> rfl

@[simp] theorem frontend_vacated : (v.vacated b).frontend = v.frontend := by
  unfold vacated
  split <;> rfl

@[simp] theorem registry_forgotten : (v.forgotten b id).registry = v.registry := by
  unfold forgotten vacated
  split <;> split <;> rfl

@[simp] theorem slots_forgotten : (v.forgotten b id).slots = v.slots := by
  unfold forgotten vacated
  split <;> split <;> rfl

@[simp] theorem backendIfindex_forgotten :
    (v.forgotten b id).backendIfindex = v.backendIfindex := by
  unfold forgotten vacated
  split <;> split <;> rfl

@[simp] theorem redirect_forgotten : (v.forgotten b id).redirect = v.redirect := by
  unfold forgotten vacated
  split <;> split <;> rfl

@[simp] theorem frontend_forgotten : (v.forgotten b id).frontend = v.frontend := by
  unfold forgotten vacated
  split <;> split <;> rfl

@[simp] theorem links_forgotten : (v.forgotten b id).links = (v.vacated b).links := by
  unfold forgotten
  split <;> rfl

@[simp] theorem registry_withdrawn : (v.withdrawn b id).registry = v.registry := by
  unfold withdrawn
  split <;> exact registry_forgotten v b id

@[simp] theorem slots_withdrawn : (v.withdrawn b id).slots = v.slots := by
  unfold withdrawn
  split <;> exact slots_forgotten v b id

@[simp] theorem frontend_withdrawn : (v.withdrawn b id).frontend = v.frontend := by
  unfold withdrawn
  split <;> exact frontend_forgotten v b id

@[simp] theorem links_withdrawn : (v.withdrawn b id).links = (v.vacated b).links := by
  unfold withdrawn
  split <;> exact links_forgotten v b id

@[simp] theorem backendInfo_withdrawn :
    (v.withdrawn b id).backendInfo = (v.forgotten b id).backendInfo := by
  unfold withdrawn
  split <;> rfl

@[simp] theorem backendIfindex_withdrawn :
    (v.withdrawn b id).backendIfindex = v.backendIfindex.erase b.ifindex := by
  unfold withdrawn
  split <;> exact congrArg (·.erase b.ifindex) (backendIfindex_forgotten v b id)

theorem redirect_withdrawn : (v.withdrawn b id).redirect =
    if b.ifindex = v.frontend.ifindex then v.redirect else v.redirect.erase b.ifindex := by
  unfold withdrawn
  split
  · exact redirect_forgotten v b id
  · exact congrArg (·.erase b.ifindex) (redirect_forgotten v b id)

variable {v b}

theorem forgotten_eq : v.forgotten b b.id =
    {v.vacated b with backendInfo := v.backendInfo.erase b.id} := by
  unfold forgotten
  split
  · rw [← backendInfo_vacated v b]
    rfl
  · rename_i absent
    have gone := Std.ExtTreeMap.getElem?_eq_none_of_contains_eq_false
      (Bool.eq_false_iff.mpr absent)
    rw [Table.erase_of_absent gone, ← backendInfo_vacated v b]

theorem backendInfo_forgotten :
    (v.forgotten b b.id).backendInfo = v.backendInfo.erase b.id := by
  rw [forgotten_eq]

theorem links_vacated_of_alone (alone : v.sibling? b = none) :
    (v.vacated b).links = v.links.erase b.ifindex := by
  unfold vacated
  rw [alone]
  cases linked : v.links[b.ifindex]? with
  | none => exact (Table.erase_of_absent linked).symm
  | some link => rfl

theorem vacated_of_shared {c : Backend} (shared : v.sibling? b = some c) : v.vacated b = v := by
  unfold vacated
  rw [shared]

end Snapshot
end EdgeControl.Balancer
