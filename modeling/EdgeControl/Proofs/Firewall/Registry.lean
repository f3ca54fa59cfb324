import EdgeControl.Firewall.Service
import EdgeControl.Proofs.Counter
import EdgeControl.Proofs.Table

/-!
The installed rules as a list by ascending id: a new rule comes last, a deleted one is left out, and
the rules on one network are a part of the list.
-/
namespace EdgeControl.Firewall.Registry

variable {r registry : Registry} {given rule : Rule} {id : UInt32} {network : Network}

@[simp] theorem get?_insert (r : Registry) (rule : Rule) (id : UInt32) :
    (r.insert rule).get? id = if rule.id = id then some rule else r.get? id :=
  Table.getElem?_insert

@[simp] theorem get?_erase (r : Registry) (id i : UInt32) :
    (r.erase id).get? i = if id = i then none else r.get? i :=
  Table.getElem?_erase

theorem mem_toList : rule ∈ r.toList ↔ ∃ i, r.get? i = some rule := Table.mem_values r.rules

theorem prepare_ok (prepared : r.prepare given = .ok (rule, registry)) :
    rule = {given with id := r.nextId, dropCount := 0} ∧
      registry = {r with nextId := r.nextId + 1} ∧ r.nextId.toNat ≤ lastRuleId := by
  unfold prepare at prepared
  cases valid : given.validate with
  | error e =>
    rw [valid] at prepared
    cases prepared
  | ok u =>
    rw [valid] at prepared
    by_cases full : lastRuleId < r.nextId.toNat
    · simp only [bind, Except.bind, if_pos full] at prepared
      cases prepared
    · simp only [bind, Except.bind, if_neg full] at prepared
      cases prepared
      exact ⟨rfl, rfl, Nat.le_of_not_lt full⟩

/-- Every installed rule is under its own id, and its id was given out. -/
structure Keyed (r : Registry) : Prop where
  ids : ∀ id rule, r.get? id = some rule → rule.id = id ∧ 0 < id ∧ id < r.nextId
  first : 0 < r.nextId
  last : r.nextId.toNat ≤ lastRuleId + 1

namespace Keyed

theorem toList_ascending (h : r.Keyed) : r.toList.Pairwise fun a b => a.id < b.id :=
  (Table.pairwise_values fun id rule known => (h.ids id rule known).1).imp
    Std.compare_eq_lt.mp

theorem known (h : r.Keyed) (member : rule ∈ r.toList) : r.get? rule.id = some rule := by
  obtain ⟨i, found⟩ := mem_toList.mp member
  rw [(h.ids i rule found).1]
  exact found

theorem toList_erase (h : r.Keyed) : (r.erase id).toList = r.toList.filter (·.id != id) :=
  Table.values_erase (fun id rule known => (h.ids id rule known).1) fun _ => bne_iff_ne

end Keyed

theorem Keyed.install (h : r.Keyed) (prepared : r.prepare given = .ok (rule, registry)) :
    (registry.insert rule).Keyed ∧ (registry.insert rule).toList = r.toList ++ [rule] ∧
      (∀ i o, r.get? i = some o → i < rule.id) ∧ 0 < rule.id ∧ rule.id.toNat < UInt16.size := by
  obtain ⟨rfl, rfl, room⟩ := prepare_ok prepared
  have above : ∀ i o, r.get? i = some o → i < r.nextId := fun i o known => (h.ids i o known).2.2
  have left : r.nextId.toNat + 1 < UInt32.size :=
    Nat.lt_of_le_of_lt (Nat.succ_le_succ room) (by decide)
  refine ⟨⟨fun i o known => ?_, ?_, ?_⟩, ?_, above, h.first, ?_⟩
  · rw [get?_insert] at known
    split at known
    · rename_i same
      cases known
      exact ⟨same, same ▸ h.first, same ▸ lt_succ_of_le left (UInt32.le_refl _)⟩
    · obtain ⟨key, positive, below⟩ := h.ids i o known
      exact ⟨key, positive, lt_succ_of_le left (UInt32.le_of_lt below)⟩
  · exact UInt32.lt_of_lt_of_le h.first (UInt32.le_of_lt (lt_succ_of_le left (UInt32.le_refl _)))
  · change (r.nextId + 1).toNat ≤ _
    rw [toNat_succ left]
    omega
  · exact Table.values_insert_last (fun i o known => (h.ids i o known).1) _
      fun i o known => Std.compare_eq_lt.mpr (above i o known)
  · exact Nat.lt_succ_of_le room

theorem Keyed.erase (h : r.Keyed) : (r.erase id).Keyed :=
  {h with ids := fun i o known => h.ids i o (Table.getElem?_of_erase known)}

end Registry

/-! ### The rules on one network -/

def rulesOn (rules : List Rule) (network : Network) : List Rule :=
  rules.filter (·.network == network)

theorem mem_rulesOn {rules : List Rule} {rule : Rule} {network : Network} :
    rule ∈ rulesOn rules network ↔ rule ∈ rules ∧ rule.network = network := by
  rw [rulesOn, List.mem_filter, beq_iff_eq]

theorem rulesOn_append {rules : List Rule} {rule : Rule} {network : Network} :
    rulesOn (rules ++ [rule]) network =
      if rule.network = network then rulesOn rules network ++ [rule]
      else rulesOn rules network := by
  by_cases same : rule.network = network
  · simp [rulesOn, same]
  · simp [rulesOn, same]

theorem rulesOn_filter (rules : List Rule) (network : Network) (id : UInt32) :
    rulesOn (rules.filter (·.id != id)) network = (rulesOn rules network).filter (·.id != id) := by
  rw [rulesOn, rulesOn, List.filter_filter, List.filter_filter]
  exact List.filter_congr fun rule _ => Bool.and_comm _ _

namespace Registry

variable {r : Registry} {rule : Rule} {id : UInt32} {network : Network}

theorem survivor?_eq : Service.survivor? r rule =
    ((rulesOn r.toList rule.network).filter (·.id != rule.id)).getLast? := by
  rw [Service.survivor?, rulesOn, List.filter_filter]

theorem Keyed.rulesOn_filter_of_ne (h : r.Keyed) (known : r.get? id = some rule)
    (other : rule.network ≠ network) :
    rulesOn (r.toList.filter (·.id != id)) network = rulesOn r.toList network := by
  rw [rulesOn_filter]
  refine List.filter_eq_self.mpr fun o member => bne_iff_ne.mpr fun same => ?_
  obtain ⟨listed, on⟩ := mem_rulesOn.mp member
  have found := h.known listed
  rw [same, known] at found
  cases found
  exact other on

end Registry
end EdgeControl.Firewall
