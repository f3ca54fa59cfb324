import EdgeControl.Proofs.Flood.Monitor
import EdgeControl.Proofs.Flood.Run

/-!
The policies and the installed rules side by side, whatever fails. The rules that policies record
are their own, and a call takes away only the rules that it names.
-/
namespace EdgeControl.Flood

/-- What a flood service and its firewall know, apart from the tables that enforce it. -/
structure Ledger where
  monitor : Monitor
  rules : Firewall.Registry

def Snapshot.ledger (v : Snapshot) : Ledger := ⟨v.monitor, v.firewall.registry⟩

def Policy.rule (p : Policy) (source : Ipv4) (id : UInt32) : Firewall.Rule :=
  {Firewall.Rule.blockHost source p.protocol with id}

theorem Policy.mem_credit {p : Policy} {ruleId : UInt32} {source a : Ipv4} :
    a ∈ (p.credit ruleId source).blocked ↔ source = a ∨ a ∈ p.blocked := by
  refine Std.ExtTreeSet.mem_insert.trans ?_
  rw [Std.LawfulEqCmp.compare_eq_iff_eq]

namespace Ledger

variable {l l' l'' : Ledger} {monitor : Monitor} {rules : Firewall.Registry} {id : UInt32}
  {source : Ipv4} {p q p' : Policy}

structure Orderly (l : Ledger) : Prop where
  keyed : l.rules.Keyed
  named : l.monitor.Named
  given : ∀ id p, l.monitor.get? id = some p → ∀ i ∈ p.ruleIds, i < l.rules.nextId
  /-- No rule is of two policies. -/
  apart : ∀ id p other q, l.monitor.get? id = some p → l.monitor.get? other = some q →
    ∀ i ∈ p.ruleIds, i ∈ q.ruleIds → id = other

theorem orderly_start : (Service.start.snapshot.ledger).Orderly where
  keyed := ⟨fun id rule known => (nomatch known), by decide, by decide⟩
  named id p known := nomatch known
  given id p known := nomatch known
  apart id p other q known := nomatch known

namespace Orderly

theorem withRules (h : l.Orderly) (keyed : rules.Keyed) (grown : l.rules.nextId ≤ rules.nextId) :
    Orderly {l with rules} where
  keyed := keyed
  named := h.named
  given id p known i member := UInt32.lt_of_lt_of_le (h.given id p known i member) grown
  apart := h.apart

theorem withMonitor (h : l.Orderly) (named : monitor.Named)
    (subset : ∀ id q, monitor.get? id = some q → ∀ i ∈ q.ruleIds,
      ∃ p, l.monitor.get? id = some p ∧ i ∈ p.ruleIds) : Orderly {l with monitor} where
  keyed := h.keyed
  named := named
  given id q known i member := by
    obtain ⟨p, before, member⟩ := subset id q known i member
    exact h.given id p before i member
  apart id q other q' known known' i member member' := by
    obtain ⟨p, before, member⟩ := subset id q known i member
    obtain ⟨p', before', member'⟩ := subset other q' known' i member'
    exact h.apart id p other p' before before' i member member'

theorem evaluated (h : l.Orderly) (observed : List (CounterKey × UInt64)) :
    Orderly {l with monitor := (l.monitor.evaluate observed).2} := by
  apply h.withMonitor
  · intro id p known
    rw [Monitor.get?_evaluate] at known
    exact h.named id p known
  · intro id p known i member
    rw [Monitor.get?_evaluate] at known
    exact ⟨p, known, member⟩

theorem inserted (h : l.Orderly) {given : Policy}
    (accepted : l.monitor.insert given = .ok (id, monitor)) : Orderly {l with monitor} := by
  apply h.withMonitor
  · intro i q known
    rcases Monitor.get?_of_insert accepted known with rfl | known
    · rfl
    · exact h.named i q known
  · intro i q known j member
    rcases Monitor.get?_of_insert accepted known with rfl | known
    · cases member
    · exact ⟨q, known, member⟩

theorem erased (h : l.Orderly) (id : UInt32) :
    Orderly {l with monitor := l.monitor.erase id} := by
  apply h.withMonitor
  · intro i q known
    exact h.named i q (Monitor.get?_of_erase known)
  · intro i q known j member
    exact ⟨q, Monitor.get?_of_erase known, member⟩

theorem recorded (h : l.Orderly)
    (recorded : l.monitor.record id l.rules.nextId source = .ok monitor) (keyed : rules.Keyed)
    (next : rules.nextId = l.rules.nextId + 1) : Orderly ⟨monitor, rules⟩ := by
  have get := Monitor.get?_record recorded
  -- What a policy has recorded now, it had before, or it is the new rule and its policy is `id`.
  have before (i : UInt32) (q : Policy) (known : monitor.get? i = some q) :
      ∃ p, l.monitor.get? i = some p ∧ q.id = p.id ∧
        ∀ j ∈ q.ruleIds, j ∈ p.ruleIds ∨ (j = l.rules.nextId ∧ i = id) := by
    rw [get, Option.map_eq_some_iff] at known
    obtain ⟨p, known, rfl⟩ := known
    refine ⟨p, known, ?_⟩
    split
    · rename_i same
      refine ⟨rfl, fun j member => ?_⟩
      rcases List.mem_append.mp member with old | new
      · exact .inl old
      · exact .inr ⟨List.mem_singleton.mp new, same.symm⟩
    · exact ⟨rfl, fun j member => .inl member⟩
  have below {i : UInt32} {p : Policy} (known : l.monitor.get? i = some p) :
      l.rules.nextId ∉ p.ruleIds :=
    fun member => UInt32.lt_irrefl _ (h.given i p known _ member)
  constructor
  case keyed => exact keyed
  case named =>
    intro i q known
    obtain ⟨p, known, same, -⟩ := before i q known
    exact same.trans (h.named i p known)
  case given =>
    intro i q known j member
    change j < rules.nextId
    rw [next]
    obtain ⟨p, known, -, ids⟩ := before i q known
    rcases ids j member with old | ⟨rfl, -⟩
    · exact lt_succ_of_le h.keyed.room (UInt32.le_of_lt (h.given i p known j old))
    · exact lt_succ_of_le h.keyed.room (UInt32.le_refl _)
  case apart =>
    intro i q other q' known known' j member member'
    obtain ⟨p, known, -, ids⟩ := before i q known
    obtain ⟨p', known', -, ids'⟩ := before other q' known'
    rcases ids j member with old | ⟨rfl, rfl⟩
    · rcases ids' j member' with old' | ⟨rfl, -⟩
      · exact h.apart i p other p' known known' j old old'
      · exact absurd old (below known)
    · rcases ids' _ member' with old' | ⟨-, rfl⟩
      · exact absurd old' (below known')
      · rfl

end Orderly

/-! ### From one ledger to the next -/

/-- A policy grows when it records new rules, each of which is installed. -/
structure Grown (l l' : Ledger) (p q : Policy) : Prop where
  protocol : q.protocol = p.protocol
  ids : ∃ more, q.ruleIds = p.ruleIds ++ more ∧ ∀ i ∈ more, l.rules.nextId ≤ i
  blocked : ∀ a ∈ q.blocked, a ∈ p.blocked ∨ ∃ i ∈ q.ruleIds, l'.rules.get? i = some (q.rule a i)

def Before (l : Ledger) (id : UInt32) (p : Policy) : Prop :=
  l.monitor.get? id = some p ∨ (p.ruleIds = [] ∧ p.blocked = ∅)

/-- From one ledger to a later one: rules that are not taken stay, and policies grow. -/
structure Follows (taken : UInt32 → Prop) (l l' : Ledger) : Prop where
  nextId : l.rules.nextId ≤ l'.rules.nextId
  rules : ∀ i < l.rules.nextId, l'.rules.get? i = l.rules.get? i ∨
    (l'.rules.get? i = none ∧ taken i)
  policies : ∀ id q, l'.monitor.get? id = some q → ∃ p, l.Before id p ∧ Grown l l' p q

theorem Grown.refl : Grown l l' p p where
  protocol := rfl
  ids := ⟨[], (List.append_nil _).symm, fun _ member => (nomatch member)⟩
  blocked _ member := .inl member

namespace Follows

variable {taken : UInt32 → Prop}

theorem of_rules (nextId : l.rules.nextId ≤ l'.rules.nextId)
    (rules : ∀ i < l.rules.nextId, l'.rules.get? i = l.rules.get? i ∨
      (l'.rules.get? i = none ∧ taken i))
    (same : ∀ id q, l'.monitor.get? id = some q → l.monitor.get? id = some q) :
    Follows taken l l' :=
  ⟨nextId, rules, fun id q known => ⟨q, .inl (same id q known), .refl⟩⟩

theorem refl : Follows taken l l :=
  of_rules (UInt32.le_refl _) (fun _ _ => .inl rfl) fun _ _ known => known

theorem kept (h : Follows (fun _ => False) l l') {i : UInt32} (below : i < l.rules.nextId) :
    l'.rules.get? i = l.rules.get? i :=
  (h.rules i below).resolve_right And.right

theorem recorded {i : UInt32} (h : Follows taken l l') (known : l'.monitor.get? id = some q)
    (member : i ∈ q.ruleIds) (below : i < l.rules.nextId) :
    ∃ p, l.monitor.get? id = some p ∧ i ∈ p.ruleIds ∧ q.protocol = p.protocol := by
  obtain ⟨p, before, grown⟩ := h.policies id q known
  obtain ⟨more, ids, new⟩ := grown.ids
  have old : i ∈ p.ruleIds := by
    rw [ids] at member
    refine (List.mem_append.mp member).resolve_right fun member => ?_
    exact UInt32.lt_irrefl _ (UInt32.lt_of_lt_of_le below (new i member))
  refine ⟨p, before.resolve_right fun none => ?_, old, grown.protocol⟩
  rw [none.1] at old
  cases old

theorem trans (first : Follows (fun _ => False) l l') (second : Follows (fun _ => False) l' l'')
    (keyed : l'.rules.Keyed) : Follows (fun _ => False) l l'' where
  nextId := UInt32.le_trans first.nextId second.nextId
  rules _ below := .inl <|
    (second.kept (UInt32.lt_of_lt_of_le below first.nextId)).trans (first.kept below)
  policies id r known := by
    obtain ⟨q, before, grown⟩ := second.policies id r known
    obtain ⟨more, ids, new⟩ := grown.ids
    -- The policy is traced back over both steps, unless it was registered in one of them.
    have above : ∀ i ∈ more, l.rules.nextId ≤ i := fun i member =>
      UInt32.le_trans first.nextId (new i member)
    rcases before with known | ⟨none, free⟩
    · obtain ⟨p, before, earlier⟩ := first.policies id q known
      obtain ⟨more', ids', new'⟩ := earlier.ids
      refine ⟨p, before, grown.protocol.trans earlier.protocol, ⟨more' ++ more, ?_, ?_⟩, ?_⟩
      · rw [ids, ids', List.append_assoc]
      · intro i member
        rcases List.mem_append.mp member with old | new
        · exact new' i old
        · exact above i new
      · intro a member
        rcases grown.blocked a member with old | new
        · refine (earlier.blocked a old).imp_right fun ⟨i, member, installed⟩ => ⟨i, ?_, ?_⟩
          · rw [ids]
            exact List.mem_append_left _ member
          · have below := (keyed.ids i _ installed).2.2
            rw [second.kept below, installed, Policy.rule, Policy.rule, grown.protocol]
        · exact .inr new
    · exact ⟨q, .inr ⟨none, free⟩, grown.protocol, ⟨more, ids, above⟩, grown.blocked⟩

end Follows
end Ledger

/-! ### The calls -/

def Request.Takes (l : Ledger) : Request → UInt32 → Prop
  | .deleteRule id, i => i = id
  | .deletePolicy id, i => ∃ p, l.monitor.get? id = some p ∧ i ∈ p.ruleIds
  | _, _ => False

namespace Snapshot

open Ledger

variable {may : Operation → Prop} {v w : Snapshot}

theorem Mitigating.follows {m : Mitigation} {b : Bool} (step : v.Mitigating may m b w)
    (h : v.ledger.Orderly) (founded : v.monitor.Founded m) :
    w.ledger.Orderly ∧ Follows (fun _ => False) v.ledger w.ledger ∧
      ∀ x, v.monitor.Founded x → w.monitor.Founded x := by
  cases step with
  | refused e firewall step =>
    obtain ⟨keyed, grown, rules⟩ := step.kept h.keyed
    exact ⟨h.withRules keyed grown,
      .of_rules grown (fun i below => .inl (rules i below)) fun _ _ known => known,
      fun _ founded => founded⟩
  | unrecorded id firewall step e unknown =>
    obtain ⟨monitor, recorded⟩ := founded.recordable id
    cases recorded.symm.trans unknown
  | installed id firewall step monitor recorded =>
    obtain ⟨rfl, -, installed⟩ := step.succeeded
    obtain ⟨keyed, grown, rules⟩ := step.kept h.keyed
    obtain ⟨p, known, rule⟩ := founded
    have new : firewall.registry.get? v.firewall.registry.nextId =
        some (p.rule m.source v.firewall.registry.nextId) := by
      rw [step.get?, if_pos rfl, rule]
      rfl
    refine ⟨h.recorded recorded keyed (congrArg (·.nextId) installed),
      ⟨grown, fun i below => .inl (rules i below), fun i q after => ?_⟩,
      fun x founded => founded.recorded recorded⟩
    rw [show Snapshot.ledger ⟨monitor, firewall⟩ = ⟨monitor, firewall.registry⟩ from rfl,
      Monitor.get?_record recorded, Option.map_eq_some_iff] at after
    obtain ⟨p', before, rfl⟩ := after
    refine ⟨p', .inl before, ?_⟩
    -- Only the policy that asked grows, by the rule that is installed now.
    split
    · rename_i same
      subst same
      rw [known] at before
      cases before
      refine ⟨rfl, ⟨[v.firewall.registry.nextId], rfl, fun j only => ?_⟩, fun a member => ?_⟩
      · rw [List.mem_singleton.mp only]
        exact UInt32.le_refl _
      · rcases Policy.mem_credit.mp member with rfl | old
        · exact .inr ⟨_, List.mem_append_right _ (List.mem_singleton_self _), new⟩
        · exact .inl old
    · exact .refl

theorem MitigatingAll.follows {ms : List Mitigation} {bs : List Bool}
    (steps : MitigatingAll may v ms bs w) (h : v.ledger.Orderly)
    (founded : ∀ m ∈ ms, v.monitor.Founded m) :
    w.ledger.Orderly ∧ Follows (fun _ => False) v.ledger w.ledger := by
  induction steps with
  | done => exact ⟨h, .refl⟩
  | @next v u w m b ms bs first rest ih =>
    obtain ⟨orderly, follows, still⟩ := first.follows h (founded m List.mem_cons_self)
    obtain ⟨orderly', follows'⟩ := ih orderly fun x member =>
      still x (founded x (List.mem_cons_of_mem m member))
    exact ⟨orderly', follows.trans follows' orderly.keyed⟩

theorem Ticking.follows {observed : List (CounterKey × UInt64)} {n : Nat}
    (step : v.Ticking may observed n w) (h : v.ledger.Orderly) :
    w.ledger.Orderly ∧ Follows (fun _ => False) v.ledger w.ledger := by
  cases step with
  | unread => exact ⟨h, .refl⟩
  | reacted bs w steps =>
    have evaluated := h.evaluated observed
    obtain ⟨orderly, follows⟩ := steps.follows evaluated
      fun m member => Monitor.evaluate_founded h.named member
    have first : Follows (fun _ => False) v.ledger (v.evaluated observed).ledger :=
      .of_rules (UInt32.le_refl _) (fun _ _ => .inl rfl) fun i q known =>
        Monitor.get?_evaluate.symm.trans known
    exact ⟨orderly, first.trans follows evaluated.keyed⟩

theorem SettingPolicy.follows {given : Policy} {r : Except ServiceError UInt32}
    (step : v.SettingPolicy given r w) (h : v.ledger.Orderly) :
    w.ledger.Orderly ∧ Follows (fun _ => False) v.ledger w.ledger := by
  cases step with
  | refused => exact ⟨h, .refl⟩
  | registered id monitor accepted =>
    refine ⟨h.inserted accepted, UInt32.le_refl _, fun i _ => .inl rfl, fun i q known => ?_⟩
    rcases Monitor.get?_of_insert accepted known with rfl | known
    · exact ⟨_, .inr ⟨rfl, rfl⟩, .refl⟩
    · exact ⟨q, .inl known, .refl⟩

theorem DeletingPolicy.follows {id : UInt32} {r : Except ServiceError Unit}
    (step : v.DeletingPolicy may id r w) (h : v.ledger.Orderly) :
    w.ledger.Orderly ∧ Follows ((Request.deletePolicy id).Takes v.ledger) v.ledger w.ledger := by
  have taken {p : Policy} {r : Except ServiceError Unit} {firewall : Firewall.Snapshot}
      (known : v.monitor.get? id = some p)
      (steps : v.firewall.DeletingEach may p.ruleIds r firewall) :
      Orderly {v.ledger with rules := firewall.registry} ∧
        v.firewall.registry.nextId ≤ firewall.registry.nextId ∧
        ∀ i, firewall.registry.get? i = v.firewall.registry.get? i ∨
          (firewall.registry.get? i = none ∧ (Request.deletePolicy id).Takes v.ledger i) := by
    obtain ⟨nextId, gone, named, -, get⟩ := steps.registry
    have grown := UInt32.le_of_eq nextId.symm
    refine ⟨h.withRules (steps.keyed h.keyed) grown, grown, fun i => ?_⟩
    rw [get]
    split
    · rename_i member
      exact .inr ⟨rfl, p, known, named member⟩
    · exact .inl rfl
  cases step with
  | unknown => exact ⟨h, .refl⟩
  | halted p known e firewall steps =>
    obtain ⟨orderly, grown, rules⟩ := taken known steps
    exact ⟨orderly, .of_rules grown (fun i _ => rules i) fun _ _ known => known⟩
  | deleted p known firewall steps =>
    obtain ⟨orderly, grown, rules⟩ := taken known steps
    exact ⟨orderly.erased id, .of_rules grown (fun i _ => rules i) fun _ _ known =>
      Monitor.get?_of_erase known⟩

/-- Whatever fails in a call, the ledger stays in order, and only the rules that the call may take
away go. -/
theorem Step.follows {request : Request} (step : v.Step may request w) (h : v.ledger.Orderly) :
    w.ledger.Orderly ∧ Follows (request.Takes v.ledger) v.ledger w.ledger := by
  -- The operator's calls leave the policies alone.
  have onRules (same : w.monitor = v.monitor) (keyed : w.firewall.registry.Keyed)
      (grown : v.firewall.registry.nextId ≤ w.firewall.registry.nextId)
      (rules : ∀ i < v.firewall.registry.nextId,
        w.firewall.registry.get? i = v.firewall.registry.get? i ∨
          (w.firewall.registry.get? i = none ∧ request.Takes v.ledger i)) :
      w.ledger.Orderly ∧ Follows (request.Takes v.ledger) v.ledger w.ledger := by
    have ledger : w.ledger = {v.ledger with rules := w.firewall.registry} := by
      rw [Snapshot.ledger, same]
      rfl
    rw [ledger]
    exact ⟨h.withRules keyed grown, .of_rules grown rules fun _ _ known => known⟩
  cases request with
  | setPolicy given =>
    obtain ⟨r, step⟩ := step
    exact step.follows h
  | deletePolicy id =>
    obtain ⟨r, step⟩ := step
    exact step.follows h
  | tick observed =>
    obtain ⟨n, step⟩ := step
    exact step.follows h
  | setRule rule =>
    obtain ⟨r, step, same⟩ := step
    obtain ⟨keyed, grown, rules⟩ := step.kept h.keyed
    exact onRules same keyed grown fun i below => .inl (rules i below)
  | deleteRule id =>
    obtain ⟨r, step, same⟩ := step
    rcases step.registry with ⟨_, -, left⟩ | ⟨-, left⟩
    · rw [left] at onRules
      exact onRules same h.keyed (UInt32.le_refl _) fun i _ => .inl rfl
    · rw [left] at onRules
      refine onRules same h.keyed.erase (UInt32.le_refl _) fun i _ => ?_
      rw [Firewall.Registry.get?_erase]
      split
      · rename_i this
        exact .inr ⟨rfl, this.symm⟩
      · exact .inl rfl

end Snapshot

theorem run_orderly (calls : List Call) : (run calls).snapshot.ledger.Orderly := by
  induction calls using run_induction with
  | first => exact Ledger.orderly_start
  | next before c ih step => exact (step.follows ih).1

end EdgeControl.Flood
