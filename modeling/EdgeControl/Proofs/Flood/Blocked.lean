import EdgeControl.Proofs.Flood.Ledger

/-!
The sources that a policy has blocked, against the rules that are installed. A policy records a
source with the rule that blocks it. The rule can go while the source stays recorded: when the
operator deletes it, and when the policy is to be deleted and cannot be.
-/
namespace EdgeControl.Flood

open Service

variable {calls before after : List Call} {c : Call} {id i : UInt32} {p q : Policy} {source : Ipv4}
  {rule : Firewall.Rule}

def Issued (calls : List Call) (rule : Firewall.Rule) : Prop :=
  ∃ before after, calls = before ++ after ∧
    (run before).firewall.registry.get? rule.id = some rule

/-- A call of the run took the rule away and left the policy `id`. -/
def Withdrawn (calls : List Call) (id : UInt32) (rule : Firewall.Rule) : Prop :=
  ∃ before c after, calls = before ++ c :: after ∧
    (run before).firewall.registry.get? rule.id = some rule ∧
    (run (before ++ [c])).firewall.registry.get? rule.id = none ∧
    (c.request = .deleteRule rule.id ∨ c.request = .deletePolicy id ∧
      ∃ e, ((run before).outcome c.faults (deletePolicy id)).answer = .error e)

theorem Issued.concat (h : Issued calls rule) : Issued (calls ++ [c]) rule := by
  obtain ⟨before, after, rfl, installed⟩ := h
  exact ⟨before, after ++ [c], List.append_assoc .., installed⟩

theorem Issued.of_concat (h : Issued (calls ++ [c]) rule) :
    Issued calls rule ∨ (run (calls ++ [c])).firewall.registry.get? rule.id = some rule := by
  obtain ⟨before, after, split, installed⟩ := h
  -- Either the rule was there after the last call, or the last call is among those that followed.
  cases after using List.reverseRecOn with
  | nil =>
    rw [split, List.append_nil]
    exact .inr installed
  | append_singleton after d =>
    rw [← List.append_assoc] at split
    exact .inl ⟨before, after, (List.append_inj' split rfl).1, installed⟩

theorem Withdrawn.concat (h : Withdrawn calls id rule) : Withdrawn (calls ++ [c]) id rule := by
  obtain ⟨before, d, after, rfl, there, gone, cause⟩ := h
  exact ⟨before, d, after ++ [c], by simp, there, gone, cause⟩

theorem follows_concat (calls : List Call) (c : Call) :
    Ledger.Follows (c.request.Takes (run calls).snapshot.ledger) (run calls).snapshot.ledger
      (run (calls ++ [c])).snapshot.ledger := by
  rw [run_concat]
  exact ((c.step (run calls)).follows (run_orderly calls)).2

theorem run_append (before after : List Call) :
    (run before).firewall.registry.nextId ≤ (run (before ++ after)).firewall.registry.nextId ∧
      ∀ i < (run before).firewall.registry.nextId,
        (run (before ++ after)).firewall.registry.get? i = (run before).firewall.registry.get? i ∨
          (run (before ++ after)).firewall.registry.get? i = none := by
  induction after using List.reverseRecOn with
  | nil =>
    rw [List.append_nil]
    exact ⟨UInt32.le_refl _, fun i _ => .inl rfl⟩
  | append_singleton after c ih =>
    obtain ⟨grown, rules⟩ := ih
    have follows := follows_concat (before ++ after) c
    rw [← List.append_assoc]
    refine ⟨UInt32.le_trans grown follows.nextId, fun i below => ?_⟩
    rcases follows.rules i (UInt32.lt_of_lt_of_le below grown) with same | ⟨gone, -⟩
    · rcases rules i below with still | gone
      · exact .inl (same.trans still)
      · exact .inr (same.trans gone)
    · exact .inr gone

theorem Issued.below (h : Issued calls rule) :
    rule.id < (run calls).firewall.registry.nextId := by
  obtain ⟨before, after, rfl, installed⟩ := h
  have given := ((run_orderly before).keyed.ids _ _ installed).2.2
  exact UInt32.lt_of_lt_of_le given (run_append before after).1

theorem Withdrawn.absent (h : Withdrawn calls id rule) :
    (run calls).firewall.registry.get? rule.id = none := by
  obtain ⟨before, c, after, rfl, there, gone, -⟩ := h
  have split : before ++ c :: after = (before ++ [c]) ++ after := by simp
  have given : Issued (before ++ [c]) rule := ⟨before, [c], rfl, there⟩
  rw [split]
  rcases (run_append (before ++ [c]) after).2 _ given.below with same | none
  · exact same.trans gone
  · exact none

theorem run_issued (calls : List Call) (known : (run calls).monitor.get? id = some p)
    (blocked : source ∈ p.blocked) : ∃ i ∈ p.ruleIds, Issued calls (p.rule source i) := by
  induction calls using run_induction generalizing p with
  | first => cases known
  | next before c ih =>
    -- The policy before the call. It blocked the source, or the call installed the rule.
    obtain ⟨p', earlier, grown⟩ := (follows_concat before c).policies id p known
    rcases grown.blocked source blocked with old | ⟨i, member, installed⟩
    · rcases earlier with earlier | ⟨-, free⟩
      · obtain ⟨i, member, issued⟩ := ih earlier old
        obtain ⟨more, ids, -⟩ := grown.ids
        refine ⟨i, ?_, ?_⟩
        · rw [ids]
          exact List.mem_append_left _ member
        · rw [Policy.rule, grown.protocol]
          exact issued.concat
      · rw [free] at old
        exact absurd old Std.ExtTreeSet.not_mem_empty
    · exact ⟨i, member, before ++ [c], [], (List.append_nil _).symm, installed⟩

theorem withdrawn_of_taken (there : (run before).firewall.registry.get? rule.id = some rule)
    (gone : (run (before ++ [c])).firewall.registry.get? rule.id = none)
    (known : (run before).monitor.get? id = some p) (member : rule.id ∈ p.ruleIds)
    (taken : c.request.Takes (run before).snapshot.ledger rule.id)
    (kept : (run (before ++ [c])).monitor.get? id = some q) :
    Withdrawn (before ++ [c]) id rule := by
  refine ⟨before, c, [], rfl, there, gone, ?_⟩
  obtain ⟨request, faults⟩ := c
  cases request with
  | deleteRule other =>
    have same : rule.id = other := taken
    rw [same]
    exact .inl rfl
  | deletePolicy other =>
    obtain ⟨p', known', member'⟩ := taken
    cases (run_orderly before).apart id p other p' known known' rule.id member member'
    refine .inr ⟨rfl, ?_⟩
    have step := (run before).deletingPolicy faults id
    cases answered : ((run before).outcome faults (deletePolicy id)).answer with
    | error e => exact ⟨e, rfl⟩
    | ok u =>
      -- A policy that was deleted is not there any more.
      rw [run_concat] at kept
      change ((run before).outcome faults (deletePolicy id)).state.snapshot.monitor.get? id = some q
        at kept
      rw [answered] at step
      generalize ((run before).outcome faults (deletePolicy id)).state.snapshot = w at step kept
      cases step with
      | unknown absent =>
        rw [show (run before).snapshot.monitor.get? id = some p from known] at absent
        cases absent
      | deleted =>
        rw [Monitor.get?_erase, if_pos rfl] at kept
        cases kept
  | setPolicy | tick | setRule => cases taken

theorem run_installed (calls : List Call) (known : (run calls).monitor.get? id = some p)
    (member : i ∈ p.ruleIds) (issued : Issued calls (p.rule source i)) :
    (run calls).firewall.registry.get? i = some (p.rule source i) ∨
      Withdrawn calls id (p.rule source i) := by
  induction calls using run_induction generalizing p with
  | first => cases known
  | next before c ih =>
    rcases issued.of_concat with issued | installed
    · have follows := follows_concat before c
      obtain ⟨p', known', old, protocol⟩ := follows.recorded known member issued.below
      have same : p'.rule source i = p.rule source i := by
        rw [Policy.rule, Policy.rule, protocol]
      rcases ih known' old (same ▸ issued) with there | withdrawn
      · rw [same] at there
        rcases follows.rules i issued.below with still | ⟨gone, taken⟩
        · exact .inl (still.trans there)
        · exact .inr (withdrawn_of_taken there gone known' old taken known)
      · exact .inr (same ▸ withdrawn).concat
    · exact .inl installed

/-- In any run, whatever fails: a policy that blocks a source names a rule that was installed for
it, and such a rule is installed exactly as long as it is not withdrawn. -/
theorem run_blocked_iff (calls : List Call) (id : UInt32) (p : Policy)
    (known : (run calls).monitor.get? id = some p) (source : Ipv4) (blocked : source ∈ p.blocked) :
    (∃ i ∈ p.ruleIds, Issued calls (p.rule source i)) ∧
      ∀ i ∈ p.ruleIds, Issued calls (p.rule source i) →
        ((run calls).firewall.registry.get? i = some (p.rule source i) ↔
          ¬ Withdrawn calls id (p.rule source i)) := by
  refine ⟨run_issued calls known blocked, fun i member issued => ⟨?_, ?_⟩⟩
  · intro installed withdrawn
    have absent : (run calls).firewall.registry.get? i = none := withdrawn.absent
    rw [installed] at absent
    cases absent
  · exact (run_installed calls known member issued).resolve_right

/-- The operator deletes the rule against a source. The policy goes on to count the source as
blocked, and does not react to it any more. -/
theorem blocked_without_rule :
    let s := run [⟨.setPolicy Sample.policy, .none⟩, ⟨.tick (Sample.counted 150), .none⟩,
      ⟨.deleteRule 1, .none⟩]
    (∃ p, s.monitor.get? 1 = some p ∧ Sample.source ∈ p.blocked ∧
      ¬ ∃ i ∈ p.ruleIds, s.firewall.registry.get? i = some (p.rule Sample.source i)) ∧
      (s.outcome .none (tickOn (Sample.counted 300))).answer = .ok 0 := by
  intro s
  have policy : (s.monitor.get? 1).map (fun p => (p.ruleIds, p.blocked.contains Sample.source)) =
      some ([1], true) := by decide +kernel
  have rule : s.firewall.registry.get? 1 = none := by decide +kernel
  obtain ⟨p, known, recorded⟩ := Option.map_eq_some_iff.mp policy
  obtain ⟨ruleIds, blocked⟩ := Prod.mk.inj recorded
  refine ⟨⟨p, known, Std.ExtTreeSet.mem_iff_contains.mpr blocked, ?_⟩, by decide +kernel⟩
  rintro ⟨i, member, installed⟩
  rw [ruleIds, List.mem_singleton] at member
  rw [member, rule] at installed
  cases installed

/-- The rule that the operator deleted counts as withdrawn. -/
theorem run_blocked_iff_deleted :
    let calls : List Call := [⟨.setPolicy Sample.policy, .none⟩,
      ⟨.tick (Sample.counted 150), .none⟩, ⟨.deleteRule 1, .none⟩]
    ∃ p, (run calls).monitor.get? 1 = some p ∧ Sample.source ∈ p.blocked ∧
      Withdrawn calls 1 (p.rule Sample.source 1) := by
  intro calls
  have policy : ((run calls).monitor.get? 1).map
      (fun p => (p.ruleIds, p.blocked.contains Sample.source)) = some ([1], true) := by
    decide +kernel
  have rule : (run calls).firewall.registry.get? 1 = none := by decide +kernel
  obtain ⟨p, known, recorded⟩ := Option.map_eq_some_iff.mp policy
  obtain ⟨ruleIds, blocked⟩ := Prod.mk.inj recorded
  have member := Std.ExtTreeSet.mem_iff_contains.mpr blocked
  obtain ⟨⟨i, named, issued⟩, exactly⟩ := run_blocked_iff calls 1 p known Sample.source member
  have only : i = 1 := List.mem_singleton.mp (ruleIds ▸ named)
  subst only
  refine ⟨p, known, member, Classical.byContradiction fun kept => ?_⟩
  have installed := (exactly 1 named issued).mpr kept
  rw [rule] at installed
  cases installed

end EdgeControl.Flood
