import EdgeControl.Flood.Service
import EdgeControl.Proofs.Balancer.Admission
import EdgeControl.Proofs.Config.Accepted
import EdgeControl.Proofs.Firewall.Installed
import EdgeControl.Proofs.Flood.Monitor
import Mathlib.Data.List.Forall2

/-!
Everything in a configuration that is accepted can be installed. The configuration and the services
check the same things in different places: the services count ids and slots as they go, the
configuration counts its lists beforehand.
-/
namespace EdgeControl

open EdgeControl.Action

/-- Calls for the items of a list, none of which fails. Each finds the service ready for the number
of its item, and leaves it ready for the next one. -/
theorem ensures_mapM_zipIdx {σ α β : Type} {items : List α} {act : α → Action σ β}
    {ready : Nat → σ → Prop} {answers : Nat → α → β → Prop} {last : Nat}
    (step : ∀ item ∈ items, ∀ k ≤ last, ∀ s, ready k s →
      (act item).Ensures s fun r t => ready (k + 1) t ∧ ∃ b, r = .ok b ∧ answers k item b)
    (k : Nat) (s : σ) (now : ready k s) (room : k + items.length ≤ last + 1) :
    (items.mapM act).Ensures s fun r _ => ∃ bs, r = .ok bs ∧
      List.Forall₂ (fun x b => answers x.2 x.1 b) (items.zipIdx k) bs := by
  induction items generalizing k s with
  | nil => exact .pure ⟨[], rfl, .nil⟩
  | cons item items ih =>
    rw [List.length_cons] at room
    rw [List.forall_mem_cons] at step
    obtain ⟨first, others⟩ := step
    rw [List.mapM_cons]
    refine .bind ((first k (by omega) s now).mono ?_)
    rintro _ t ⟨after, b, rfl, answer⟩
    refine .bind ((ih others (k + 1) t after (by omega)).mono ?_)
    rintro _ u ⟨bs, rfl, rest⟩
    exact .pure ⟨b :: bs, rfl, .cons answer rest⟩

theorem eq_firstIds {α : Type} {items : List α} {ids : List UInt32}
    (numbered : List.Forall₂ (fun x id => id = UInt32.ofNat x.2) (items.zipIdx 1) ids) :
    ids = firstIds items.length := by
  have mapped : List.Forall₂ Eq ids ((items.zipIdx 1).map fun x => UInt32.ofNat x.2) :=
    List.forall₂_map_right_iff.mpr numbered.flip
  rw [List.forall₂_eq_eq_eq] at mapped
  rw [mapped, firstIds, ← List.zipIdx_map_snd, List.map_map]
  rfl

namespace Firewall.Service

variable {s : Service Memory}

theorem setRule_works (works : ∀ op, ¬ s.base.faults.MayFail op) {given : Rule}
    (valid : given.validate = .ok ()) (room : s.registry.nextId.toNat ≤ lastRuleId) :
    (setRule given).Ensures s fun r t => r = .ok s.registry.nextId ∧
      t.registry.nextId.toNat = s.registry.nextId.toNat + 1 ∧
      t.base.faults.MayFail = s.base.faults.MayFail := by
  refine (setRule_ensures s given).mono fun r t ⟨faults, step⟩ => ?_
  have answer : r = .ok s.registry.nextId := step.ok works valid room
  subst answer
  obtain ⟨-, -, registry⟩ := step.succeeded
  have next : t.registry.nextId = s.registry.nextId + 1 := congrArg Registry.nextId registry
  refine ⟨rfl, ?_, faults⟩
  rw [next, toNat_succ]
  exact Nat.lt_of_le_of_lt (Nat.succ_le_succ room) (by decide)

theorem setRules_works {rules : List Rule} (valid : ∀ rule ∈ rules, rule.validate = .ok ())
    (room : rules.length ≤ lastRuleId) {m : Memory} (works : ∀ op, ¬ m.faults.MayFail op) :
    (rules.mapM setRule).Ensures ⟨∅, m⟩ fun r _ => r = .ok (firstIds rules.length) := by
  let ready (k : Nat) (s : Service Memory) : Prop :=
    s.registry.nextId.toNat = k ∧ ∀ op, ¬ s.base.faults.MayFail op
  have step (rule) (given : rule ∈ rules) (k : Nat) (within : k ≤ lastRuleId) (s : Service Memory)
      (now : ready k s) : (setRule rule).Ensures s fun r t =>
        ready (k + 1) t ∧ ∃ id, r = .ok id ∧ id = UInt32.ofNat k := by
    obtain ⟨rfl, works⟩ := now
    refine (setRule_works works (valid rule given) within).mono ?_
    rintro _ t ⟨rfl, next, faults⟩
    exact ⟨⟨next, faults ▸ works⟩, _, rfl, UInt32.ofNat_toNat.symm⟩
  refine (ensures_mapM_zipIdx step 1 ⟨∅, m⟩ ⟨rfl, works⟩ (by omega)).mono ?_
  rintro _ t ⟨ids, rfl, numbered⟩
  rw [eq_firstIds numbered]

end Firewall.Service

namespace Flood.Service

theorem setPolicy_works {s : Service Memory} {given : Policy} (valid : given.validate = .ok ()) :
    (setPolicy given).Ensures s fun r t => r = .ok s.monitor.nextId ∧
      t.monitor.nextId = s.monitor.nextId + 1 := by
  refine .get_bind (.bind (.ofExcept (fun found accepted => ?_) fun e invalid => ?_))
  · obtain ⟨-, id, next, -⟩ := Monitor.insert_ok accepted
    exact .set_bind (.note_bind (.pure ⟨congrArg Except.ok id, next⟩))
  · rw [Monitor.insert, valid] at invalid
    cases invalid

theorem setPolicies_works {policies : List Policy}
    (valid : ∀ policy ∈ policies, policy.validate = .ok ())
    (room : policies.length + 1 < UInt32.size) (firewall : Firewall.Service Memory) :
    (policies.mapM setPolicy).Ensures ⟨∅, firewall⟩
      fun r _ => r = .ok (firstIds policies.length) := by
  let ready (k : Nat) (s : Service Memory) : Prop := s.monitor.nextId.toNat = k
  have step (policy) (given : policy ∈ policies) (k : Nat) (within : k ≤ policies.length)
      (s : Service Memory) (now : ready k s) : (setPolicy policy).Ensures s fun r t =>
        ready (k + 1) t ∧ ∃ id, r = .ok id ∧ id = UInt32.ofNat k := by
    subst now
    refine (setPolicy_works (valid policy given)).mono ?_
    rintro _ t ⟨rfl, next⟩
    refine ⟨?_, _, rfl, UInt32.ofNat_toNat.symm⟩
    change t.monitor.nextId.toNat = _
    rw [next, toNat_succ (by omega)]
  refine (ensures_mapM_zipIdx step 1 ⟨∅, firewall⟩ rfl (by omega)).mono ?_
  rintro _ t ⟨ids, rfl, numbered⟩
  rw [eq_firstIds numbered]

end Flood.Service

namespace Balancer.Service

variable {known : Std.ExtTreeMap Ipv4 Neighbor} {s : Service Memory}

/-- Up to as many backends as there are slots are all registered, those left out whose neighbor is
not known. -/
theorem setBackends_works {specs : List Spec} (valid : ∀ spec ∈ specs, spec.validate = .ok ())
    (room : specs.length ≤ rotationSlots) (fit : Fit known 0 s) :
    (specs.mapM fun spec => (setBackend spec).result).Ensures s fun r _ =>
      ∃ answers, r = .ok answers ∧ List.Forall₂ (Answer known) specs answers := by
  let ready (k : Nat) (s : Service Memory) : Prop := ∃ taken ≤ k, Fit known taken s
  have step (spec) (given : spec ∈ specs) (k : Nat) (within : k ≤ rotationSlots - 1)
      (s : Service Memory) (now : ready k s) : (setBackend spec).result.Ensures s fun r t =>
        ready (k + 1) t ∧ ∃ answer, r = .ok answer ∧ Answer known spec answer := by
    obtain ⟨taken, small, fit⟩ := now
    have room : taken < rotationSlots := by
      unfold rotationSlots at *
      omega
    refine .result ((fit.setBackend (valid spec given) room).mono ?_)
    rintro r t ⟨⟨taken', grown, fit⟩, answer⟩
    exact ⟨⟨taken', by omega, fit⟩, r, rfl, answer⟩
  refine (ensures_mapM_zipIdx step 0 s ⟨0, Nat.le_refl 0, fit⟩ ?_).mono ?_
  · unfold rotationSlots at *
    omega
  · rintro _ t ⟨answers, rfl, each⟩
    refine ⟨answers, rfl, ?_⟩
    rw [← List.zipIdx_map_fst 0 specs]
    exact List.forall₂_map_left_iff.mpr each

end Balancer.Service

namespace Config

/-- Everything in a configuration can be installed by new services on a host on which nothing
fails. -/
structure Installable (c : Config) (m : Memory) : Prop where
  tracking : c.tracking.validate = .ok ()
  /-- The rules have their numbers in the configuration as ids. -/
  rules : ∃ rules, List.Forall₂ Rule.Describes c.rules rules ∧
    (rules.mapM Firewall.Service.setRule).Ensures ⟨∅, m⟩
      fun r _ => r = .ok (firstIds rules.length)
  policies : ∃ policies, List.Forall₂ Policy.Describes c.policies policies ∧
    (policies.mapM Flood.Service.setPolicy).Ensures ⟨∅, ⟨∅, m⟩⟩
      fun r _ => r = .ok (firstIds policies.length)
  backends (frontend : Balancer.Frontend) :
    (c.backends.mapM fun spec => (Balancer.Service.setBackend spec).result).Ensures
      {settings := c.tracking, frontend, base := m}
      fun r _ => ∃ answers, r = .ok answers ∧
        List.Forall₂ (Balancer.Service.Answer m.neighbors) c.backends answers

theorem exists_forall₂ {α β : Type} {items : List α} {describes : α → β → Prop} {valid : β → Prop}
    (each : ∀ item ∈ items, ∃ b, describes item b ∧ valid b) :
    ∃ bs, List.Forall₂ describes items bs ∧ ∀ b ∈ bs, valid b := by
  induction items with
  | nil => exact ⟨[], .nil, fun b member => (nomatch member)⟩
  | cons item items ih =>
    rw [List.forall_mem_cons] at each
    obtain ⟨⟨b, described, fine⟩, others⟩ := each
    obtain ⟨bs, rest, allFine⟩ := ih others
    exact ⟨b :: bs, .cons described rest, List.forall_mem_cons.mpr ⟨fine, allFine⟩⟩

theorem installable_of_validate {c : Config} (accepted : c.validate = .ok ()) {m : Memory}
    (works : ∀ op, ¬ m.faults.MayFail op) : c.Installable m := by
  have h : c.Accepted := validate_eq_ok.mp accepted
  constructor
  case tracking => exact h.tracking
  case rules =>
    obtain ⟨rules, described, valid⟩ := exists_forall₂ h.rules
    have count : rules.length ≤ Firewall.lastRuleId := described.length_eq ▸ h.ruleCount
    exact ⟨rules, described, Firewall.Service.setRules_works valid count works⟩
  case policies =>
    obtain ⟨policies, described, valid⟩ := exists_forall₂ h.policies
    have count : policies.length ≤ maxPolicies := described.length_eq ▸ h.policyCount
    have room : policies.length + 1 < UInt32.size := by
      unfold maxPolicies at count
      unfold UInt32.size
      omega
    exact ⟨policies, described, Flood.Service.setPolicies_works valid room _⟩
  case backends =>
    intro frontend
    exact Balancer.Service.setBackends_works h.backends h.backendCount ⟨works, rfl, rfl⟩

namespace Sample

def addr : Ipv4 := .ofOctets 10 0 0 2

def config : Config where
  device := "eth0"
  vip := .ofOctets 10 0 0 1
  backends := [{name := "web", addr}]
  rules := [{network := "192.0.2.0/24", protocol := "tcp", dstPorts := some "80-443"}]
  policies := [{protocol := "udp", limit := 1000}]

def host : Memory :=
  {neighbors := (∅ : Std.ExtTreeMap Ipv4 Balancer.Neighbor).insert addr
    ⟨.zero, "veth0", 7, .zero⟩}

end Sample

theorem installable_sample :
    Sample.config.validate = .ok () ∧ (∀ op, ¬ Sample.host.faults.MayFail op) ∧
      Sample.config.Installable Sample.host := by
  have accepted : Sample.config.validate = .ok () := by rfl
  have works (op : Operation) : ¬ Sample.host.faults.MayFail op := Faults.not_mayFail_none op
  exact ⟨accepted, works, installable_of_validate accepted works⟩

end Config
end EdgeControl
