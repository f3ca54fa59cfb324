import EdgeControl.Proofs.Balancer.Operations
import EdgeControl.Proofs.Counter

/-!
Runs of a balancer on tables in memory: calls of its operations in any order. During a call the
host may know any neighbors, and any of its operations may fail.
-/
namespace EdgeControl

def Operation.Writes : Operation → Prop
  | .setFrontend | .allowRedirect | .revokeRedirect | .setBackendInfo | .removeBackendInfo
  | .setBackendIfindex | .removeBackendIfindex | .slot _ | .setSlot | .attach | .detach => True
  | _ => False

namespace Balancer

structure Circumstances where
  neighbors : Std.ExtTreeMap Ipv4 Neighbor := ∅
  faults : Faults := .none

def Circumstances.Writable (c : Circumstances) : Prop :=
  ∀ op : Operation, op.Writes → ¬ c.faults.MayFail op

theorem Circumstances.writable_of_reliable {c : Circumstances} (reliable : c.faults = .none) :
    c.Writable :=
  fun op _ => reliable ▸ Faults.not_mayFail_none op

def Service.under (s : Service Memory) (c : Circumstances) : Service Memory :=
  {s with base := {s.base with neighbors := c.neighbors, faults := c.faults}}

namespace Circumstances

variable (c : Circumstances) (s : Service Memory)

def outcome {α : Type} (act : Action (Service Memory) α) : Outcome (Service Memory) α :=
  act.outcome (s.under c) #[]

theorem starting : Snapshot.Starting c.faults.MayFail s.snapshot
    (c.outcome s Service.start).answer (c.outcome s Service.start).state.snapshot :=
  Service.start_ensures (s.under c) #[]

theorem registering (spec : Spec) : Snapshot.Registering c.faults.MayFail s.snapshot spec
    (c.outcome s (Service.setBackend spec)).answer
    (c.outcome s (Service.setBackend spec)).state.snapshot :=
  Service.setBackend_ensures (s.under c) spec #[]

theorem draining (id : UInt32) : Snapshot.Draining c.faults.MayFail s.snapshot id
    (c.outcome s (Service.drain id)).answer (c.outcome s (Service.drain id)).state.snapshot :=
  Service.drain_ensures (s.under c) id #[]

theorem deleting (id : UInt32) : Snapshot.Deleting c.faults.MayFail s.snapshot id
    (c.outcome s (Service.delete id)).answer (c.outcome s (Service.delete id)).state.snapshot :=
  (Service.delete_ensures (s.under c) id #[]).2

theorem deletingAll : ∃ es, Snapshot.DeletingAll c.faults.MayFail s.snapshot s.registry.ids es
    (c.outcome s Service.deleteAll).state.snapshot := by
  obtain ⟨es, steps, _⟩ := Service.deleteAll_ensures (s.under c) #[]
  exact ⟨es, steps⟩

end Circumstances

inductive Request where
  | start
  | setBackend (spec : Spec)
  | drain (id : UInt32)
  | delete (id : UInt32)
  | deleteAll

structure Call where
  request : Request
  during : Circumstances := {}

def Call.after (c : Call) (s : Service Memory) : Service Memory :=
  match c.request with
  | .start => (c.during.outcome s Service.start).state
  | .setBackend spec => (c.during.outcome s (Service.setBackend spec)).state
  | .drain id => (c.during.outcome s (Service.drain id)).state
  | .delete id => (c.during.outcome s (Service.delete id)).state
  | .deleteAll => (c.during.outcome s Service.deleteAll).state

namespace Service

def fresh (frontend : Frontend) (settings : Flow.Settings) : Service Memory :=
  {frontend, settings, base := ∅}

def run (s : Service Memory) (calls : List Call) : Service Memory :=
  calls.foldl (fun t c => c.after t) s

def allocations (s : Service Memory) : List Call → Nat
  | [] => 0
  | c :: calls =>
    (if (c.after s).registry.nextId = s.registry.nextId then 0 else 1) +
      allocations (c.after s) calls

@[simp] theorem run_concat (s : Service Memory) (calls : List Call) (c : Call) :
    s.run (calls ++ [c]) = c.after (s.run calls) := by
  simp [run]

theorem allocations_append (s : Service Memory) (before after : List Call) :
    s.allocations (before ++ after) = s.allocations before + (s.run before).allocations after := by
  induction before generalizing s with
  | nil => simp [allocations, run]
  | cons c before ih =>
    have moved : s.run (c :: before) = (c.after s).run before := rfl
    simp only [List.cons_append, allocations, moved, ih, Nat.add_assoc]

end Service

namespace Snapshot

def Step (may : Operation → Prop) (v : Snapshot) : Request → Snapshot → Prop
  | .start, w => ∃ r, Starting may v r w
  | .setBackend spec, w => ∃ r, Registering may v spec r w
  | .drain id, w => ∃ r, Draining may v id r w
  | .delete id, w => ∃ r, Deleting may v id r w
  | .deleteAll, w => ∃ es, DeletingAll may v v.registry.ids es w

/-- No id is given out between two snapshots, or there is one after it. -/
def IdsLeft (v w : Snapshot) : Prop :=
  w.registry.nextId = v.registry.nextId ∨ v.registry.nextId.toNat + 1 < UInt32.size

variable {may : Operation → Prop} {v w : Snapshot}

theorem Writing.registry_eq {ws : List SlotWrite} {r : Except ServiceError Unit}
    (h : Writing may v ws r w) : w.registry = v.registry := by
  induction h with
  | done => rfl
  | halted => rfl
  | next rest ih => exact ih

theorem Deleting.nextId_eq {id : UInt32} {r : Except ServiceError Unit}
    (h : Deleting may v id r w) : w.registry.nextId = v.registry.nextId := by
  cases h with
  | unknown | refused | undetached => rfl
  | unforgotten b => exact congrArg _ (registry_vacated v b)
  | notHandedOver b | handedOver b | pointed b | unrevoked b =>
    exact congrArg (·.nextId) (registry_forgotten v b id)
  | withdrawn b => exact congrArg (·.nextId) (registry_withdrawn v b id)

theorem DeletingAll.nextId_eq {ids : List UInt32} {es : List ServiceError}
    (h : DeletingAll may v ids es w) : w.registry.nextId = v.registry.nextId := by
  induction h with
  | done => rfl
  | deleted first _ ih => exact ih.trans first.nextId_eq
  | failed first _ ih => exact ih.trans first.nextId_eq

theorem Step.nextId {request : Request} (h : Step may v request w) :
    w.registry.nextId = v.registry.nextId ∨ w.registry.nextId = v.registry.nextId + 1 := by
  cases request with
  | start =>
    obtain ⟨r, h⟩ := h
    cases h <;> exact .inl rfl
  | setBackend spec =>
    obtain ⟨r, h⟩ := h
    cases h with
    | refused => exact .inl rfl
    | registered b =>
      unfold registered
      split <;> exact .inr rfl
    | _ => exact .inr rfl
  | drain id =>
    obtain ⟨r, h⟩ := h
    cases h with
    | unknown => exact .inl rfl
    | halted b known ws writes e u writing => exact .inl (congrArg _ writing.registry_eq)
    | unmarked b known ws => exact .inl (congrArg _ (registry_writeAll v ws))
    | drained b known ws => exact .inl (congrArg (·.nextId) (registry_writeAll v ws))
  | delete id =>
    obtain ⟨r, h⟩ := h
    exact .inl h.nextId_eq
  | deleteAll =>
    obtain ⟨es, h⟩ := h
    exact .inl h.nextId_eq

end Snapshot

theorem Call.step (c : Call) (s : Service Memory) :
    s.snapshot.Step c.during.faults.MayFail c.request (c.after s).snapshot := by
  unfold Call.after
  cases c.request with
  | start => exact ⟨_, c.during.starting s⟩
  | setBackend spec => exact ⟨_, c.during.registering s spec⟩
  | drain id => exact ⟨_, c.during.draining s id⟩
  | delete id => exact ⟨_, c.during.deleting s id⟩
  | deleteAll => exact c.during.deletingAll s

namespace Service

/-- What the calls of a run keep holds after the run, as long as its ids do not run out. -/
theorem run_induction {motive : Snapshot → Prop} (s : Service Memory) (calls : List Call)
    (few : s.registry.nextId.toNat + allocations s calls < UInt32.size)
    (first : motive s.snapshot)
    (keeps : ∀ c ∈ calls, ∀ v w, motive v → v.IdsLeft w →
      v.Step c.during.faults.MayFail c.request w → motive w) :
    motive (run s calls).snapshot ∧
      (run s calls).registry.nextId.toNat = s.registry.nextId.toNat + allocations s calls := by
  induction calls generalizing s with
  | nil => exact ⟨first, rfl⟩
  | cons c calls ih =>
    simp only [allocations] at few ⊢
    have step := c.step s
    -- The ids left for the whole run leave one for this call, if it takes one.
    have left : s.snapshot.IdsLeft (c.after s).snapshot ∧
        (c.after s).registry.nextId.toNat = s.registry.nextId.toNat +
          if (c.after s).registry.nextId = s.registry.nextId then 0 else 1 := by
      split at few
      · rename_i same
        exact ⟨.inl same, by rw [if_pos same, same, Nat.add_zero]⟩
      · rename_i other
        have more : (c.after s).registry.nextId = s.registry.nextId + 1 :=
          step.nextId.resolve_left other
        have room : s.registry.nextId.toNat + 1 < UInt32.size := by omega
        refine ⟨.inr room, ?_⟩
        rw [if_neg other, more, toNat_succ room]
    have rest := ih (c.after s) (by omega)
      (keeps c List.mem_cons_self _ _ first left.1 step)
      fun d member => keeps d (List.mem_cons_of_mem _ member)
    exact ⟨rest.1, by rw [← Nat.add_assoc, ← left.2]; exact rest.2⟩

theorem run_nextId (frontend : Frontend) (settings : Flow.Settings) (calls : List Call)
    (few : (fresh frontend settings).allocations calls < UInt32.size - 1) :
    ((fresh frontend settings).run calls).registry.nextId.toNat =
      1 + (fresh frontend settings).allocations calls := by
  have start : (fresh frontend settings).registry.nextId.toNat = 1 := rfl
  exact (run_induction (motive := fun _ => True) (fresh frontend settings) calls (by omega) trivial
    fun _ _ _ _ _ _ _ => trivial).2

theorem idsLeft_concat (frontend : Frontend) (settings : Flow.Settings) (calls : List Call)
    (c : Call) (few : (fresh frontend settings).allocations (calls ++ [c]) < UInt32.size - 1) :
    ((fresh frontend settings).run calls).snapshot.IdsLeft
      (c.after ((fresh frontend settings).run calls)).snapshot := by
  rw [allocations_append] at few
  have before := run_nextId frontend settings calls (by omega)
  simp only [allocations] at few
  split at few
  · rename_i same
    exact .inl same
  · apply Or.inr
    change ((fresh frontend settings).run calls).registry.nextId.toNat + 1 < _
    omega

end Service

/-! ### A host with one neighbor -/

namespace Sample

def frontend : Frontend := ⟨.ofOctets 10 0 0 1, 2, .zero⟩

def addr : Ipv4 := .ofOctets 10 0 0 2

def host : Circumstances :=
  {neighbors := (∅ : Std.ExtTreeMap Ipv4 Neighbor).insert addr ⟨.zero, "veth0", 7, .zero⟩}

def without (op : Operation) : Circumstances :=
  {host with faults := {plan := fun _ o => o == op}}

def spec : Spec := {name := "web", addr}

def service : Service Memory := .fresh frontend {}

end Sample
end Balancer
end EdgeControl
