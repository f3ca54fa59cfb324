import EdgeControl.Proofs.Flood.Reaction
import Mathlib.Logic.Equiv.Basic

/-!
The order in which the counters are read decides which rule gets which id, and nothing else. Two
mitigations that change places exchange the ids of their rules, so any two orders differ by a
renumbering of the rules, and the calls that follow keep it.
-/
namespace EdgeControl.Flood

/-- The same policy, but for the ids of its rules and the order in which it names them. -/
def Policy.Renumbered (σ : Equiv.Perm UInt32) (p q : Policy) : Prop :=
  ∃ ids, ids.Perm (p.ruleIds.map σ) ∧ q = {p with ruleIds := ids}

namespace Policy.Renumbered

variable {σ τ : Equiv.Perm UInt32} {p q r : Policy} {n : UInt32} {source : Ipv4}

theorem refl (p : Policy) : Policy.Renumbered (.refl _) p p :=
  ⟨p.ruleIds, by rw [Equiv.coe_refl, List.map_id], rfl⟩

theorem trans (first : Policy.Renumbered σ p q) (second : Policy.Renumbered τ q r) :
    Policy.Renumbered (σ.trans τ) p r := by
  obtain ⟨ids, perm, rfl⟩ := first
  obtain ⟨ids', perm', rfl⟩ := second
  refine ⟨ids', perm'.trans ?_, rfl⟩
  rw [Equiv.coe_trans, ← List.map_map]
  exact perm.map τ

theorem credit (h : Policy.Renumbered σ p q) (fixed : σ n = n) :
    Policy.Renumbered σ (p.credit n source) (q.credit n source) := by
  obtain ⟨ids, perm, rfl⟩ := h
  refine ⟨ids ++ [n], ?_, rfl⟩
  rw [Policy.credit, List.map_append, List.map_singleton, fixed]
  exact perm.append_right [n]

theorem credit_of_kept {m : UInt32} (kept : p.ruleIds.map σ = p.ruleIds) (moved : σ n = m) :
    Policy.Renumbered σ (p.credit n source) (p.credit m source) := by
  refine ⟨p.ruleIds ++ [m], ?_, rfl⟩
  rw [Policy.credit, List.map_append, List.map_singleton, kept, moved]

theorem credit_credit {m : UInt32} {source' : Ipv4} (kept : p.ruleIds.map σ = p.ruleIds)
    (moved : σ n = m) (moved' : σ m = n) :
    Policy.Renumbered σ ((p.credit n source).credit m source')
      ((p.credit n source').credit m source) := by
  have blocked : (p.blocked.insert source').insert source =
      (p.blocked.insert source).insert source' := by
    apply Std.ExtTreeSet.ext_mem
    intro a
    simp only [Std.ExtTreeSet.mem_insert]
    exact or_left_comm
  refine ⟨p.ruleIds ++ [n] ++ [m], ?_, ?_⟩
  · simp only [Policy.credit, List.map_append, List.map_singleton, kept, moved, moved',
      List.append_assoc]
    exact (List.Perm.swap m n []).append_left p.ruleIds
  · simp only [Policy.credit, blocked]

end Policy.Renumbered

namespace Ledger

structure Renumbered (σ : Equiv.Perm UInt32) (l l' : Ledger) : Prop where
  nextId : l'.rules.nextId = l.rules.nextId
  /-- Ids that were not given out yet keep their places. -/
  unused : ∀ i, l.rules.nextId ≤ i → σ i = i
  rules : ∀ i, l'.rules.get? (σ i) = (l.rules.get? i).map fun rule => {rule with id := σ i}
  nextPolicy : l'.monitor.nextId = l.monitor.nextId
  counts : ∀ key, l'.monitor.lastCount? key = l.monitor.lastCount? key
  policies : ∀ id, Option.Rel (Policy.Renumbered σ) (l.monitor.get? id) (l'.monitor.get? id)

variable {σ τ : Equiv.Perm UInt32} {l l' l'' : Ledger} {x y : Mitigation} {xs ys : List Mitigation}
  {observed observed' : List (CounterKey × UInt64)}

namespace Renumbered

theorem refl (keyed : l.rules.Keyed) : Renumbered (.refl _) l l where
  nextId := rfl
  unused i _ := rfl
  rules i := by
    cases known : l.rules.get? i with
    | none => exact known
    | some rule =>
      obtain ⟨rfl, -⟩ := keyed.ids i rule known
      exact known
  nextPolicy := rfl
  counts key := rfl
  policies id := by
    cases l.monitor.get? id with
    | none => exact .none
    | some p => exact .some (.refl p)

theorem trans (first : Renumbered σ l l') (second : Renumbered τ l' l'') :
    Renumbered (σ.trans τ) l l'' where
  nextId := second.nextId.trans first.nextId
  unused i above := by
    rw [Equiv.trans_apply, first.unused i above, second.unused i (first.nextId ▸ above)]
  rules i := by
    rw [Equiv.trans_apply, second.rules, first.rules, Option.map_map]
    rfl
  nextPolicy := second.nextPolicy.trans first.nextPolicy
  counts key := (second.counts key).trans (first.counts key)
  policies id := by
    have one := first.policies id
    have two := second.policies id
    generalize l.monitor.get? id = p at one
    generalize l'.monitor.get? id = q at one two
    generalize l''.monitor.get? id = r at two
    cases one with
    | none =>
      cases two
      exact .none
    | some one =>
      cases two with
      | some two => exact .some (one.trans two)

theorem install (h : Renumbered σ l l') (room : l.rules.nextId.toNat + 1 < UInt32.size)
    (x : Mitigation) : Renumbered σ (l.install x) (l'.install x) where
  nextId := by rw [nextId_install, nextId_install, h.nextId]
  unused i above := by
    rw [nextId_install] at above
    exact h.unused i (UInt32.le_of_lt (UInt32.lt_of_lt_of_le
      (lt_succ_of_le room (UInt32.le_refl _)) above))
  rules i := by
    have fixed : σ l.rules.nextId = l.rules.nextId := h.unused _ (UInt32.le_refl _)
    have same : l.rules.nextId = σ i ↔ l.rules.nextId = i := by
      constructor
      · intro next
        exact σ.injective (fixed.trans next)
      · rintro rfl
        exact fixed.symm
    rw [rule?_install, rule?_install, h.nextId]
    by_cases next : l.rules.nextId = i
    · rw [if_pos next, if_pos (same.mpr next), Option.map_some]
    · rw [if_neg next, if_neg (next ∘ same.mp), h.rules]
  nextPolicy := by rw [install_frame.2, install_frame.2, h.nextPolicy]
  counts key := by
    rw [Monitor.lastCount?, Monitor.lastCount?, install_frame.1, install_frame.1]
    exact h.counts key
  policies id := by
    have related := h.policies id
    rw [policy?_install, policy?_install, h.nextId]
    generalize l.monitor.get? id = p at related
    generalize l'.monitor.get? id = q at related
    cases related with
    | none => exact .none
    | some related =>
      rw [Option.map_some, Option.map_some]
      split
      · exact .some (related.credit (h.unused _ (UInt32.le_refl _)))
      · exact .some related

theorem foldl_install (h : Renumbered σ l l') (room : l.Room xs.length) :
    Renumbered σ (xs.foldl Ledger.install l) (xs.foldl Ledger.install l') := by
  induction xs generalizing l l' with
  | nil => exact h
  | cons x xs ih => exact ih (h.install room.small x) room.next

end Renumbered

/-! ### Two mitigations that change places -/

theorem Orderly.ruleIds_swap (h : l.Orderly) {id m : UInt32} {p : Policy}
    (known : l.monitor.get? id = some p) (above : l.rules.nextId < m) :
    p.ruleIds.map (Equiv.swap l.rules.nextId m) = p.ruleIds := by
  refine (List.map_congr_left fun i member => ?_).trans (List.map_id _)
  have below := h.given id p known i member
  exact Equiv.swap_apply_of_ne_of_ne (UInt32.ne_of_lt below)
    (UInt32.ne_of_lt (UInt32.lt_trans below above))

theorem Orderly.rule?_swap (h : l.Orderly) (step : l.rules.nextId < l.rules.nextId + 1)
    (x y : Mitigation) (i : UInt32) :
    ((l.install y).install x).rules.get? (Equiv.swap l.rules.nextId (l.rules.nextId + 1) i) =
      (((l.install x).install y).rules.get? i).map fun rule =>
        {rule with id := Equiv.swap l.rules.nextId (l.rules.nextId + 1) i} := by
  rw [rule?_install, rule?_install, rule?_install, rule?_install, nextId_install, nextId_install]
  generalize l.rules.nextId + 1 = m at *
  by_cases isFirst : i = l.rules.nextId
  · subst isFirst
    rw [Equiv.swap_apply_left, if_pos rfl, if_neg (UInt32.ne_of_lt step).symm, if_pos rfl]
    rfl
  by_cases isNext : i = m
  · subst isNext
    rw [Equiv.swap_apply_right, if_pos rfl, if_neg (UInt32.ne_of_lt step).symm, if_pos rfl]
    rfl
  rw [Equiv.swap_apply_of_ne_of_ne isFirst isNext, if_neg (Ne.symm isNext),
    if_neg (Ne.symm isFirst), if_neg (Ne.symm isNext), if_neg (Ne.symm isFirst)]
  cases known : l.rules.get? i with
  | none => rfl
  | some rule =>
    obtain ⟨rfl, -⟩ := h.keyed.ids i rule known
    rfl

theorem Orderly.policy?_swap (h : l.Orderly) (step : l.rules.nextId < l.rules.nextId + 1)
    (x y : Mitigation) (id : UInt32) :
    Option.Rel (Policy.Renumbered (Equiv.swap l.rules.nextId (l.rules.nextId + 1)))
      (((l.install x).install y).monitor.get? id)
      (((l.install y).install x).monitor.get? id) := by
  rw [policy?_install, policy?_install, policy?_install, policy?_install, Option.map_map,
    Option.map_map, nextId_install, nextId_install]
  cases known : l.monitor.get? id with
  | none => exact .none
  | some p =>
    have kept := h.ruleIds_swap known step
    refine .some ?_
    dsimp only [Function.comp_apply]
    -- The policy may record both of the rules, one of them or none.
    split
    · split
      · exact .credit_credit kept (Equiv.swap_apply_left _ _) (Equiv.swap_apply_right _ _)
      · exact .credit_of_kept kept (Equiv.swap_apply_right _ _)
    · split
      · exact .credit_of_kept kept (Equiv.swap_apply_left _ _)
      · exact ⟨p.ruleIds, .of_eq kept.symm, rfl⟩

theorem Orderly.install_swap (h : l.Orderly) (room : l.Room 2) (x y : Mitigation) :
    Renumbered (Equiv.swap l.rules.nextId (l.rules.nextId + 1)) ((l.install x).install y)
      ((l.install y).install x) := by
  have step : l.rules.nextId < l.rules.nextId + 1 := lt_succ_of_le room.small (UInt32.le_refl _)
  have step' : l.rules.nextId + 1 < l.rules.nextId + 1 + 1 := by
    have room' : (l.install x).Room 1 := room.next
    exact lt_succ_of_le room'.small (UInt32.le_refl _)
  constructor
  case nextId => rfl
  case unused =>
    intro i above
    rw [nextId_install, nextId_install] at above
    have beyond := UInt32.lt_of_lt_of_le step' above
    exact Equiv.swap_apply_of_ne_of_ne (UInt32.ne_of_lt (UInt32.lt_trans step beyond)).symm
      (UInt32.ne_of_lt beyond).symm
  case rules => exact h.rule?_swap step x y
  case nextPolicy => simp only [install_frame]
  case counts =>
    intro key
    simp only [Monitor.lastCount?, install_frame]
  case policies => exact h.policy?_swap step x y

theorem Orderly.foldl_install_perm (h : l.Orderly) (same : xs.Perm ys)
    (founded : ∀ x ∈ xs, l.monitor.Founded x) (room : l.Room xs.length) :
    ∃ σ, Renumbered σ (xs.foldl Ledger.install l) (ys.foldl Ledger.install l) := by
  induction same generalizing l with
  | nil => exact ⟨_, .refl h.keyed⟩
  | cons x _ ih =>
    exact ih (h.install (founded x List.mem_cons_self) room.first)
      (fun y member => founded_install (founded y (List.mem_cons_of_mem x member))) room.next
  | swap x y xs =>
    have two : l.Room 2 := by
      unfold Room at *
      rw [List.length_cons, List.length_cons] at room
      omega
    -- What comes after the two is the same on both sides.
    exact ⟨_, (h.install_swap two y x).foldl_install room.next.next⟩
  | trans first _ ih ih' =>
    obtain ⟨σ, one⟩ := ih h founded room
    obtain ⟨τ, two⟩ := ih' h (fun x member => founded x (first.mem_iff.mpr member))
      (first.length_eq ▸ room)
    exact ⟨_, one.trans two⟩

/-! ### Readings in another order -/

theorem Renumbered.evaluated (h : Renumbered σ l l') (same : observed.Perm observed')
    (distinct : (observed.map Prod.fst).Nodup) :
    Renumbered σ {l with monitor := (l.monitor.evaluate observed).2}
      {l' with monitor := (l'.monitor.evaluate observed').2} where
  nextId := h.nextId
  unused := h.unused
  rules := h.rules
  nextPolicy := by
    rw [Monitor.nextId_evaluate, Monitor.nextId_evaluate]
    exact h.nextPolicy
  counts key := by
    have distinct' := (same.map Prod.fst).nodup_iff.mp distinct
    by_cases read : key ∈ observed.map Prod.fst
    · obtain ⟨⟨key, count⟩, member, rfl⟩ := List.mem_map.mp read
      exact (Monitor.lastCount?_evaluate_of_mem distinct' (same.mem_iff.mp member)).trans
        (Monitor.lastCount?_evaluate_of_mem distinct member).symm
    · have unread := fun member => read ((same.map Prod.fst).mem_iff.mpr member)
      exact (Monitor.lastCount?_evaluate_of_absent unread).trans
        ((h.counts key).trans (Monitor.lastCount?_evaluate_of_absent read).symm)
  policies id := by
    rw [Monitor.get?_evaluate, Monitor.get?_evaluate]
    exact h.policies id

theorem due_of_policies {m m' : Monitor} (same : ∀ entry ∈ observed, entry ∈ observed')
    (counts : ∀ key, m'.lastCount? key = m.lastCount? key)
    (policies : ∀ p, m.get? x.policyId = some p →
      ∃ ids, m'.get? x.policyId = some {p with ruleIds := ids}) (due : m.Due observed x) :
    m'.Due observed' x := by
  obtain ⟨p, known, free, rule, count, member, exceeds⟩ := due
  obtain ⟨ids, known'⟩ := policies p known
  refine ⟨{p with ruleIds := ids}, known', free, rule, count, same _ member, ?_⟩
  exact counts _ ▸ exceeds

theorem Renumbered.due_iff (h : Renumbered σ l l') (same : observed.Perm observed') :
    l.monitor.Due observed x ↔ l'.monitor.Due observed' x := by
  have related := h.policies x.policyId
  generalize known : l.monitor.get? x.policyId = p at related
  generalize known' : l'.monitor.get? x.policyId = q at related
  constructor
  · refine due_of_policies (fun entry => same.mem_iff.mp) h.counts fun r found => ?_
    rw [known] at found
    subst found
    cases related with
    | some related =>
      obtain ⟨ids, -, rfl⟩ := related
      exact ⟨ids, known'⟩
  · refine due_of_policies (fun entry => same.mem_iff.mpr) (fun key => (h.counts key).symm)
      fun r found => ?_
    rw [known'] at found
    subst found
    cases related with
    | @some p _ related =>
      obtain ⟨ids, -, rfl⟩ := related
      exact ⟨p.ruleIds, known⟩

theorem Renumbered.mitigations_perm (h : Renumbered σ l l') (named : l.monitor.Named)
    (named' : l'.monitor.Named) (table : Monitor.IsTable observed)
    (same : observed.Perm observed') : (l.monitor.evaluate observed).1.mitigations.Perm
      (l'.monitor.evaluate observed').1.mitigations := by
  have table' : Monitor.IsTable observed' :=
    ⟨(same.map Prod.fst).nodup_iff.mp table.distinct,
      fun entry member => table.padded entry (same.mem_iff.mpr member)⟩
  refine (List.perm_ext_iff_of_nodup (Monitor.mitigations_once named table).of_map
    (Monitor.mitigations_once named' table').of_map).mpr fun x => ?_
  rw [Monitor.mem_mitigations named table, Monitor.mem_mitigations named' table']
  exact h.due_iff same

/-! ### Policies that go -/

theorem Renumbered.erased (h : Renumbered σ l l') {rules rules' : Firewall.Registry}
    {ids ids' : List UInt32} (id : UInt32) (same : ids'.Perm (ids.map σ))
    (nextId : rules.nextId = l.rules.nextId) (nextId' : rules'.nextId = l'.rules.nextId)
    (left : ∀ i, rules.get? i = if i ∈ ids then none else l.rules.get? i)
    (left' : ∀ i, rules'.get? i = if i ∈ ids' then none else l'.rules.get? i) :
    Renumbered σ ⟨l.monitor.erase id, rules⟩ ⟨l'.monitor.erase id, rules'⟩ where
  nextId := nextId'.trans (h.nextId.trans nextId.symm)
  unused i above := h.unused i (nextId ▸ above)
  rules i := by
    have listed : σ i ∈ ids' ↔ i ∈ ids :=
      same.mem_iff.trans (List.mem_map_of_injective σ.injective)
    change rules'.get? (σ i) = (rules.get? i).map _
    rw [left, left']
    by_cases member : i ∈ ids
    · rw [if_pos member, if_pos (listed.mpr member), Option.map_none]
    · rw [if_neg member, if_neg (member ∘ listed.mp)]
      exact h.rules i
  nextPolicy := h.nextPolicy
  counts := h.counts
  policies i := by
    change Option.Rel _ ((l.monitor.erase id).get? i) ((l'.monitor.erase id).get? i)
    rw [Monitor.get?_erase, Monitor.get?_erase]
    split
    · exact .none
    · exact h.policies i

end Ledger
end EdgeControl.Flood
