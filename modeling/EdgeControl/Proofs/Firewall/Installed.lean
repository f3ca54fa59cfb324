import EdgeControl.Proofs.Firewall.Tables

/-!
What setting and deleting a rule does to the installed rules, whatever fails. A rule that is set
gets an id that no rule had before, and a failure at most uses an id up; a rule that is deleted
goes, and the others stay.
-/
namespace EdgeControl.Firewall

namespace Registry

variable {r registry : Registry} {given rule : Rule} {id i : UInt32}

theorem prepare_eq (valid : given.validate = .ok ()) (room : r.nextId.toNat ≤ lastRuleId) :
    r.prepare given =
      .ok ({given with id := r.nextId, dropCount := 0}, {r with nextId := r.nextId + 1}) := by
  have left : ¬ lastRuleId < r.nextId.toNat := Nat.not_lt.mpr room
  simp only [prepare, valid, bind, Except.bind, if_neg left]
  rfl

theorem blockHost_valid (addr : Ipv4) (protocol : Protocol) :
    (Rule.blockHost addr protocol).validate = .ok () := by
  cases protocol <;> rfl

namespace Keyed

theorem room (h : r.Keyed) : r.nextId.toNat + 1 < UInt32.size :=
  Nat.lt_of_le_of_lt (Nat.succ_le_succ h.last) (by decide)

theorem prepared (h : r.Keyed) (prepared : r.prepare given = .ok (rule, registry)) :
    registry.Keyed := by
  obtain ⟨-, rfl, left⟩ := prepare_ok prepared
  have next : (r.nextId + 1).toNat = r.nextId.toNat + 1 := toNat_succ h.room
  constructor
  case ids =>
    intro i o known
    obtain ⟨key, positive, below⟩ := h.ids i o known
    exact ⟨key, positive, lt_succ_of_le h.room (UInt32.le_of_lt below)⟩
  case first =>
    rw [UInt32.lt_iff_toNat_lt, next]
    exact Nat.succ_pos _
  case last =>
    rw [next]
    exact Nat.succ_le_succ left

end Keyed
end Registry

namespace Snapshot

variable {may : Operation → Prop} {v w : Snapshot} {given : Rule} {id i : UInt32}

theorem Setting.registry {r : Except ServiceError UInt32} (step : Setting may v given r w) :
    (∃ e, r = .error e ∧ (w.registry = v.registry ∨
      ∃ rule, v.registry.prepare given = .ok (rule, w.registry))) ∨
    ∃ rule registry, v.registry.prepare given = .ok (rule, registry) ∧ r = .ok rule.id ∧
      w.registry = registry.insert rule := by
  cases step with
  | refused e => exact .inl ⟨_, rfl, .inl rfl⟩
  | unentered rule registry prepared | unlisted rule registry prepared
  | unrecorded rule registry prepared => exact .inl ⟨_, rfl, .inr ⟨rule, prepared⟩⟩
  | installed rule registry prepared => exact .inr ⟨rule, registry, prepared, rfl, rfl⟩

theorem Setting.failed {e : ServiceError} (step : Setting may v given (.error e) w)
    (h : v.registry.Keyed) : w.registry.Keyed ∧ w.registry.rules = v.registry.rules ∧
      v.registry.nextId ≤ w.registry.nextId := by
  rcases step.registry with ⟨_, -, same | ⟨rule, prepared⟩⟩ | ⟨_, _, -, answer, -⟩
  · rw [same]
    exact ⟨h, rfl, UInt32.le_refl _⟩
  -- The tables could not be written, and the id is used up.
  · refine ⟨h.prepared prepared, ?_⟩
    obtain ⟨-, same, -⟩ := Registry.prepare_ok prepared
    rw [same]
    exact ⟨rfl, UInt32.le_of_lt (lt_succ_of_le h.room (UInt32.le_refl _))⟩
  · cases answer

theorem Setting.succeeded (step : Setting may v given (.ok id) w) :
    id = v.registry.nextId ∧
      v.registry.prepare given = .ok ({given with id, dropCount := 0},
        {v.registry with nextId := id + 1}) ∧
      w.registry = {v.registry with nextId := id + 1}.insert {given with id, dropCount := 0} := by
  rcases step.registry with ⟨_, answer, -⟩ | ⟨rule, registry, prepared, answer, same⟩
  · cases answer
  · obtain ⟨rfl, rfl, -⟩ := Registry.prepare_ok prepared
    cases answer
    exact ⟨rfl, prepared, same⟩

theorem Setting.get? (step : Setting may v given (.ok id) w) (i : UInt32) :
    w.registry.get? i = if v.registry.nextId = i then some {given with id := i, dropCount := 0}
      else v.registry.get? i := by
  obtain ⟨rfl, -, same⟩ := step.succeeded
  rw [same, Registry.get?_insert]
  by_cases new : v.registry.nextId = i
  · subst new
    rw [if_pos rfl, if_pos rfl]
  · rw [if_neg new, if_neg new]
    rfl

theorem Setting.kept {r : Except ServiceError UInt32} (step : Setting may v given r w)
    (h : v.registry.Keyed) : w.registry.Keyed ∧ v.registry.nextId ≤ w.registry.nextId ∧
      ∀ i < v.registry.nextId, w.registry.get? i = v.registry.get? i := by
  cases r with
  | error e =>
    obtain ⟨keyed, rules, grown⟩ := step.failed h
    exact ⟨keyed, grown, fun i _ => congrArg (·[i]?) rules⟩
  | ok id =>
    obtain ⟨rfl, prepared, installed⟩ := step.succeeded
    refine ⟨installed ▸ (h.install prepared).1, ?_, fun i below => ?_⟩
    · rw [installed]
      exact UInt32.le_of_lt (lt_succ_of_le h.room (UInt32.le_refl _))
    · rw [step.get? i, if_neg (UInt32.ne_of_lt below).symm]

theorem Setting.ok {r : Except ServiceError UInt32} (step : Setting may v given r w)
    (works : ∀ op, ¬ may op) (valid : given.validate = .ok ())
    (room : v.registry.nextId.toNat ≤ lastRuleId) : r = .ok v.registry.nextId := by
  cases step with
  | refused e invalid =>
    rw [Registry.prepare_eq valid room] at invalid
    cases invalid
  | unentered _ _ _ fault | unlisted _ _ _ fault => exact absurd fault (works _)
  | unrecorded _ _ _ _ _ fault => exact absurd fault (works _)
  | installed rule registry prepared =>
    obtain ⟨rfl, -⟩ := Registry.prepare_ok prepared
    rfl

theorem Deleting.registry {r : Except ServiceError Unit} (step : Deleting may v id r w) :
    (∃ e, r = .error e ∧ w.registry = v.registry) ∨
      (r = .ok () ∧ w.registry = v.registry.erase id) := by
  cases step with
  | unknown absent =>
    have same : v.registry.rules.erase id = v.registry.rules := Table.erase_of_absent absent
    refine .inr ⟨rfl, ?_⟩
    rw [Registry.erase, same]
  | unreleased | listed | recorded => exact .inl ⟨_, rfl, rfl⟩
  | deleted => exact .inr ⟨rfl, rfl⟩

theorem Deleting.erased (step : Deleting may v id (.ok ()) w) :
    w.registry = v.registry.erase id := by
  rcases step.registry with ⟨_, answer, -⟩ | ⟨-, same⟩
  · cases answer
  · exact same

theorem Deleting.kept {r : Except ServiceError Unit} (step : Deleting may v id r w)
    (h : v.registry.Keyed) : w.registry.Keyed ∧ w.registry.nextId = v.registry.nextId ∧
      ∀ i, w.registry.get? i = v.registry.get? i ∨ (i = id ∧ w.registry.get? i = none) := by
  rcases step.registry with ⟨_, -, same⟩ | ⟨-, same⟩
  · rw [same]
    exact ⟨h, rfl, fun i => .inl rfl⟩
  · rw [same]
    refine ⟨h.erase, rfl, fun i => ?_⟩
    rw [Registry.get?_erase]
    split
    · rename_i own
      exact .inr ⟨own.symm, rfl⟩
    · exact .inl rfl

/-! ### Deleting several rules -/

/-- Deleting one rule after the other, up to the first one that cannot be deleted. -/
inductive DeletingEach (may : Operation → Prop) :
    Snapshot → List UInt32 → Except ServiceError Unit → Snapshot → Prop
  | done (v : Snapshot) : DeletingEach may v [] (.ok ()) v
  | halted {v w : Snapshot} {id : UInt32} {ids : List UInt32} {e : ServiceError}
      (first : Deleting may v id (.error e) w) : DeletingEach may v (id :: ids) (.error e) w
  | next {v u w : Snapshot} {id : UInt32} {ids : List UInt32} {r : Except ServiceError Unit}
      (first : Deleting may v id (.ok ()) u) (rest : DeletingEach may u ids r w) :
      DeletingEach may v (id :: ids) r w

variable {ids : List UInt32} {r : Except ServiceError Unit}

theorem DeletingEach.registry (steps : DeletingEach may v ids r w) :
    w.registry.nextId = v.registry.nextId ∧ ∃ gone : List UInt32, gone ⊆ ids ∧
      (r = .ok () → gone = ids) ∧
      ∀ i, w.registry.get? i = if i ∈ gone then none else v.registry.get? i := by
  -- The rules gone so far are collected from the end.
  induction steps with
  | done v => exact ⟨rfl, [], List.nil_subset _, fun _ => rfl, fun i => rfl⟩
  | @halted v w id ids e first =>
    rcases first.registry with ⟨_, -, same⟩ | ⟨answer, -⟩
    · rw [same]
      exact ⟨rfl, [], List.nil_subset _, fun answer => (nomatch answer), fun i => rfl⟩
    · cases answer
  | @next v u w id ids r first rest ih =>
    obtain ⟨nextId, gone, named, all, left⟩ := ih
    rcases first.registry with ⟨_, answer, -⟩ | ⟨-, same⟩
    · cases answer
    · rw [same] at nextId left
      refine ⟨nextId, id :: gone, List.cons_subset_cons id named, fun answer => ?_, fun i => ?_⟩
      · rw [all answer]
      · rw [left i, Registry.get?_erase]
        by_cases first : id = i
        · subst first
          simp
        · simp [first, Ne.symm first]

theorem DeletingEach.keyed (steps : DeletingEach may v ids r w) (h : v.registry.Keyed) :
    w.registry.Keyed := by
  induction steps with
  | done v => exact h
  | halted first => exact (first.kept h).1
  | next first _ ih => exact ih (first.kept h).1

/-! ### Without failures -/

/-- The tables agree with the installed rules, however many there ever were on a network. -/
def Enforced (v : Snapshot) : Prop := ∃ most, v.Agrees most

theorem Enforced.setting {r : Except ServiceError UInt32} (h : v.Enforced)
    (works : ∀ op, ¬ may op) (step : Setting may v given r w) : w.Enforced := by
  obtain ⟨most, agrees⟩ := h
  exact ⟨fun network => max (most network) (rulesOn w.registry.toList network).length,
    agrees.setting works step (fun _ => Nat.le_max_left _ _) fun _ => Nat.le_max_right _ _⟩

theorem Enforced.deletingEach (h : v.Enforced) (works : ∀ op, ¬ may op)
    (steps : DeletingEach may v ids r w) : r = .ok () ∧ w.Enforced := by
  induction steps with
  | done => exact ⟨rfl, h⟩
  | halted first =>
    obtain ⟨most, agrees⟩ := h
    obtain ⟨answer, -, -⟩ := agrees.deleting works first
    cases answer
  | next first _ ih =>
    obtain ⟨most, agrees⟩ := h
    obtain ⟨-, agrees', -⟩ := agrees.deleting works first
    exact ih ⟨most, agrees'⟩

end Snapshot
end EdgeControl.Firewall
