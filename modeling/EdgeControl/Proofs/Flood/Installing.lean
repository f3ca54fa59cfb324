import EdgeControl.Proofs.Flood.Ledger

/-!
Installing mitigations as long as nothing fails and ids are left. Each one gets the next id, its
rule is the newest of the installed rules, and its policy records it.
-/
namespace EdgeControl.Flood

def numbered (n : UInt32) : List Mitigation → List (UInt32 × Mitigation)
  | [] => []
  | x :: xs => (n, x) :: numbered (n + 1) xs

theorem map_numbered {α : Type} (f : Mitigation → α) (n : UInt32) (xs : List Mitigation) :
    (numbered n xs).map (fun e => f e.2) = xs.map f := by
  induction xs generalizing n with
  | nil => rfl
  | cons x xs ih => rw [numbered, List.map_cons, ih, List.map_cons]

theorem length_numbered (n : UInt32) (xs : List Mitigation) :
    (numbered n xs).length = xs.length := by
  have mapped := congrArg List.length (map_numbered id n xs)
  rwa [List.length_map, List.length_map] at mapped

theorem snd_mem_of_mem_numbered {n : UInt32} {xs : List Mitigation} {e : UInt32 × Mitigation}
    (member : e ∈ numbered n xs) : e.2 ∈ xs := by
  have mapped := List.mem_map_of_mem (f := fun e => id e.2) member
  rwa [map_numbered id, List.map_id] at mapped

theorem numbered_ascending {n : UInt32} {xs : List Mitigation}
    (room : n.toNat + xs.length < UInt32.size) : (∀ e ∈ numbered n xs, n ≤ e.1) ∧
      ((numbered n xs).map Prod.fst).Pairwise fun i j => i < j := by
  induction xs generalizing n with
  | nil => exact ⟨fun e member => (nomatch member), .nil⟩
  | cons x xs ih =>
    rw [List.length_cons] at room
    have small : n.toNat + 1 < UInt32.size := by omega
    have next : (n + 1).toNat = n.toNat + 1 := toNat_succ small
    obtain ⟨above, ascending⟩ := ih (n := n + 1) (by omega)
    have later (e : UInt32 × Mitigation) (member : e ∈ numbered (n + 1) xs) : n < e.1 :=
      UInt32.lt_of_lt_of_le (lt_succ_of_le small (UInt32.le_refl _)) (above e member)
    constructor
    · intro e member
      rcases List.mem_cons.mp member with rfl | member
      · exact UInt32.le_refl _
      · exact UInt32.le_of_lt (later e member)
    · refine List.pairwise_cons.mpr ⟨fun i member => ?_, ascending⟩
      obtain ⟨e, listed, rfl⟩ := List.mem_map.mp member
      exact later e listed

namespace Policy

def credits (p : Policy) (entries : List (UInt32 × Mitigation)) : Policy :=
  entries.foldl (fun p e => p.credit e.1 e.2.source) p

/-- A policy has one rule for each source that it blocks, and is triggered when it has any. -/
structure Tallied (p : Policy) : Prop where
  distinct : p.ruleIds.Nodup
  length : p.ruleIds.length = p.blocked.size
  status : p.status = .triggered ↔ p.ruleIds ≠ []

variable {p : Policy} {i : UInt32} {source : Ipv4} {entries : List (UInt32 × Mitigation)}

theorem Tallied.fresh (p : Policy) (id : UInt32) : (p.fresh id).Tallied where
  distinct := .nil
  length := rfl
  status := ⟨fun h => (nomatch h), fun h => absurd rfl h⟩

theorem Tallied.credit (h : p.Tallied) (new : i ∉ p.ruleIds) (free : source ∉ p.blocked) :
    (p.credit i source).Tallied where
  distinct := List.nodup_append.mpr ⟨h.distinct, List.nodup_singleton i, fun j member k only same =>
    new (List.mem_singleton.mp only ▸ same ▸ member)⟩
  length := by
    change (p.ruleIds ++ [i]).length = (p.blocked.insert source).size
    rw [List.length_append, Std.ExtTreeSet.size_insert,
      if_neg (free ∘ Std.ExtTreeSet.mem_iff_contains.mpr), h.length]
    rfl
  status := ⟨fun _ => List.append_ne_nil_of_right_ne_nil _ (List.cons_ne_nil i []), fun _ => rfl⟩

theorem Tallied.credits (h : p.Tallied) (ids : (entries.map Prod.fst).Nodup)
    (sources : (entries.map fun e => e.2.source).Nodup) (new : ∀ e ∈ entries, e.1 ∉ p.ruleIds)
    (free : ∀ e ∈ entries, e.2.source ∉ p.blocked) : (p.credits entries).Tallied := by
  induction entries generalizing p with
  | nil => exact h
  | cons e entries ih =>
    rw [List.map_cons, List.nodup_cons] at ids sources
    refine ih (h.credit (new e List.mem_cons_self) (free e List.mem_cons_self)) ids.2 sources.2
      ?_ ?_
    · intro f member recorded
      rcases List.mem_append.mp recorded with old | same
      · exact new f (List.mem_cons_of_mem e member) old
      · exact ids.1 (List.mem_singleton.mp same ▸ List.mem_map_of_mem member)
    · intro f member recorded
      rcases mem_credit.mp recorded with same | old
      · exact sources.1 (same ▸ List.mem_map_of_mem (f := fun e => e.2.source) member)
      · exact free f (List.mem_cons_of_mem e member) old

end Policy

namespace Ledger

variable {l : Ledger} {x y : Mitigation} {xs : List Mitigation} {i id : UInt32}

/-- The rule of a mitigation under the next id, recorded for its policy if there is one. -/
def install (l : Ledger) (x : Mitigation) : Ledger where
  monitor := (l.monitor.record x.policyId l.rules.nextId x.source).toOption.getD l.monitor
  rules := {l.rules with nextId := l.rules.nextId + 1}.insert
    {x.rule with id := l.rules.nextId, dropCount := 0}

@[simp] theorem nextId_install : (l.install x).rules.nextId = l.rules.nextId + 1 := rfl

theorem rule?_install : (l.install x).rules.get? i =
    if l.rules.nextId = i then some {x.rule with id := i, dropCount := 0}
    else l.rules.get? i := by
  rw [install, Firewall.Registry.get?_insert]
  by_cases same : l.rules.nextId = i
  · subst same
    rw [if_pos rfl, if_pos rfl]
  · rw [if_neg same, if_neg same]
    rfl

theorem monitor_install (l : Ledger) (x : Mitigation) :
    (l.monitor.record x.policyId l.rules.nextId x.source = .ok (l.install x).monitor) ∨
      (l.monitor.get? x.policyId = none ∧ (l.install x).monitor = l.monitor) := by
  unfold install
  cases known : l.monitor.get? x.policyId with
  | none =>
    have refused : l.monitor.record x.policyId l.rules.nextId x.source =
        .error (.notFound x.policyId) := by
      rw [Monitor.record, known]
    rw [refused]
    exact .inr ⟨rfl, rfl⟩
  | some p =>
    have recorded : l.monitor.record x.policyId l.rules.nextId x.source = .ok _ :=
      Monitor.record_eq_ok_iff.mpr ⟨p, known, rfl⟩
    rw [recorded]
    exact .inl rfl

theorem policy?_install : (l.install x).monitor.get? id = (l.monitor.get? id).map fun p =>
    if x.policyId = id then p.credit l.rules.nextId x.source else p := by
  rcases l.monitor_install x with recorded | ⟨unknown, same⟩
  · exact Monitor.get?_record recorded id
  · rw [same]
    by_cases own : x.policyId = id
    · rw [← own, unknown, Option.map_none]
    · simp only [if_neg own, Option.map_id']

theorem install_frame : (l.install x).monitor.counts = l.monitor.counts ∧
    (l.install x).monitor.nextId = l.monitor.nextId := by
  rcases l.monitor_install x with recorded | ⟨-, same⟩
  · exact Monitor.record_frame recorded
  · rw [same]
    exact ⟨rfl, rfl⟩

theorem founded_install (founded : l.monitor.Founded y) : (l.install x).monitor.Founded y := by
  rcases l.monitor_install x with recorded | ⟨-, same⟩
  · exact founded.recorded recorded
  · rw [same]
    exact founded

theorem prepare_founded (founded : l.monitor.Founded x)
    (room : l.rules.nextId.toNat ≤ Firewall.lastRuleId) : l.rules.prepare x.rule =
      .ok ({x.rule with id := l.rules.nextId, dropCount := 0},
        {l.rules with nextId := l.rules.nextId + 1}) := by
  obtain ⟨p, -, rule⟩ := founded
  refine Firewall.Registry.prepare_eq ?_ room
  rw [rule]
  exact Firewall.Registry.blockHost_valid _ _

theorem Orderly.install (h : l.Orderly) (founded : l.monitor.Founded x)
    (room : l.rules.nextId.toNat ≤ Firewall.lastRuleId) : (l.install x).Orderly := by
  have keyed := (h.keyed.install (prepare_founded founded room)).1
  rcases l.monitor_install x with recorded | ⟨unknown, -⟩
  · exact h.recorded recorded keyed rfl
  · obtain ⟨p, known, -⟩ := founded
    cases known.symm.trans unknown

/-! ### One after the other -/

def Room (l : Ledger) (n : Nat) : Prop := l.rules.nextId.toNat + n ≤ Firewall.lastRuleId + 1

theorem Room.first {n : Nat} (room : l.Room (n + 1)) :
    l.rules.nextId.toNat ≤ Firewall.lastRuleId := by
  unfold Room at room
  omega

theorem Room.small {n : Nat} (room : l.Room (n + 1)) :
    l.rules.nextId.toNat + 1 < UInt32.size :=
  Nat.lt_of_le_of_lt (Nat.succ_le_succ room.first) (by decide)

theorem Room.next {n : Nat} (room : l.Room (n + 1)) : (l.install x).Room n := by
  have next : (l.install x).rules.nextId.toNat = l.rules.nextId.toNat + 1 :=
    toNat_succ room.small
  unfold Room at *
  omega

theorem policy?_foldl_install (xs : List Mitigation) (l : Ledger) (id : UInt32) :
    (xs.foldl install l).monitor.get? id = (l.monitor.get? id).map fun p =>
      p.credits ((numbered l.rules.nextId xs).filter fun e => e.2.policyId = id) := by
  induction xs generalizing l with
  | nil => exact (Option.map_id' ..).symm
  | cons x xs ih =>
    rw [List.foldl_cons, ih, policy?_install, Option.map_map, numbered, nextId_install]
    refine congrArg (Option.map · _) (funext fun p => ?_)
    -- The first mitigation counts for this policy, or it is filtered out.
    by_cases same : x.policyId = id
    · rw [Function.comp_apply, if_pos same, List.filter_cons, if_pos (decide_eq_true same)]
      rfl
    · rw [Function.comp_apply, if_neg same, List.filter_cons,
        if_neg (same ∘ of_decide_eq_true)]

theorem toList_foldl_install (h : l.Orderly) (founded : ∀ x ∈ xs, l.monitor.Founded x)
    (room : l.Room xs.length) : (xs.foldl install l).rules.toList = l.rules.toList ++
      (numbered l.rules.nextId xs).map fun e => {e.2.rule with id := e.1, dropCount := 0} := by
  induction xs generalizing l with
  | nil => exact (List.append_nil _).symm
  | cons x xs ih =>
    have first := founded x List.mem_cons_self
    obtain ⟨-, toList, -⟩ := h.keyed.install (prepare_founded first room.first)
    have added : (l.install x).rules.toList = _ := toList
    rw [List.foldl_cons, ih (h.install first room.first)
      (fun y member => founded_install (founded y (List.mem_cons_of_mem x member))) room.next,
      added, List.append_assoc]
    rfl

theorem foldl_install_frame (xs : List Mitigation) (l : Ledger) :
    (xs.foldl install l).monitor.counts = l.monitor.counts ∧
      (xs.foldl install l).monitor.nextId = l.monitor.nextId := by
  induction xs generalizing l with
  | nil => exact ⟨rfl, rfl⟩
  | cons x xs ih =>
    obtain ⟨counts, nextId⟩ := ih (l.install x)
    exact ⟨counts.trans install_frame.1, nextId.trans install_frame.2⟩

end Ledger

/-! ### Calls without failures -/

namespace Snapshot

open Ledger

variable {may : Operation → Prop} {v w : Snapshot}

theorem Mitigating.reliable {x : Mitigation} {b : Bool} (step : v.Mitigating may x b w)
    (works : ∀ op, ¬ may op) (founded : v.monitor.Founded x)
    (room : v.firewall.registry.nextId.toNat ≤ Firewall.lastRuleId) :
    b = true ∧ w.ledger = v.ledger.install x := by
  cases step with
  | refused e firewall step =>
    obtain ⟨p, -, rule⟩ := founded
    have answer := step.ok works (rule ▸ Firewall.Registry.blockHost_valid _ _) room
    cases answer
  | unrecorded id firewall step e unknown =>
    obtain ⟨monitor, recorded⟩ := founded.recordable id
    cases recorded.symm.trans unknown
  | installed id firewall step monitor recorded =>
    obtain ⟨rfl, -, installed⟩ := step.succeeded
    refine ⟨rfl, ?_⟩
    change Ledger.mk monitor firewall.registry = _
    rw [installed, Ledger.install, show v.ledger.monitor = v.monitor from rfl,
      show v.ledger.rules = v.firewall.registry from rfl, recorded]
    rfl

theorem MitigatingAll.reliable {xs : List Mitigation} {bs : List Bool}
    (steps : MitigatingAll may v xs bs w) (works : ∀ op, ¬ may op)
    (founded : ∀ x ∈ xs, v.monitor.Founded x) (room : v.ledger.Room xs.length) :
    bs.count true = xs.length ∧ w.ledger = xs.foldl install v.ledger := by
  induction steps with
  | done => exact ⟨rfl, rfl⟩
  | @next v u w x b xs bs first rest ih =>
    obtain ⟨rfl, installed⟩ := first.reliable works (founded x List.mem_cons_self) room.first
    have still (y : Mitigation) (member : y ∈ xs) : u.monitor.Founded y := by
      have after := founded_install (l := v.ledger) (x := x)
        (founded y (List.mem_cons_of_mem x member))
      rw [← installed] at after
      exact after
    obtain ⟨count, ledger⟩ := ih still (installed ▸ room.next)
    rw [List.count_cons_self, count, ledger, installed]
    exact ⟨rfl, rfl⟩

theorem MitigatingAll.enforced {xs : List Mitigation} {bs : List Bool}
    (steps : MitigatingAll may v xs bs w) (works : ∀ op, ¬ may op)
    (h : v.firewall.Enforced) : w.firewall.Enforced := by
  induction steps with
  | done => exact h
  | next first rest ih =>
    apply ih
    cases first with
    | refused _ _ step | unrecorded _ _ step | installed _ _ step => exact h.setting works step

theorem Step.enforced {request : Request} (step : v.Step may request w) (works : ∀ op, ¬ may op)
    (h : v.firewall.Enforced) : w.firewall.Enforced := by
  cases request with
  | setPolicy given =>
    obtain ⟨r, step⟩ := step
    cases step with
    | refused | registered => exact h
  | deletePolicy id =>
    obtain ⟨r, step⟩ := step
    cases step with
    | unknown => exact h
    | halted p known e firewall steps | deleted p known firewall steps =>
      exact (h.deletingEach works steps).2
  | tick observed =>
    obtain ⟨n, step⟩ := step
    cases step with
    | unread => exact h
    | reacted bs w steps => exact steps.enforced works h
  | setRule rule =>
    obtain ⟨r, step, -⟩ := step
    exact h.setting works step
  | deleteRule id =>
    obtain ⟨r, step, -⟩ := step
    obtain ⟨most, agrees⟩ := h
    exact ⟨most, (agrees.deleting works step).2.1⟩

end Snapshot

def Call.Reliable (c : Call) : Prop := ∀ op, ¬ c.faults.MayFail op

theorem run_enforced (calls : List Call) (reliable : ∀ c ∈ calls, c.Reliable) :
    (run calls).snapshot.firewall.Enforced := by
  induction calls using run_induction with
  | first => exact ⟨_, Firewall.Snapshot.Agrees.start⟩
  | next before c ih step =>
    refine step.enforced (reliable c (by simp)) (ih fun d member => reliable d ?_)
    exact List.mem_append_left _ member

end EdgeControl.Flood
