import EdgeControl.Proofs.Flood.Blocked

/-!
Whose the installed rules are. A policy names its rules by their ids, the operator knows the ids
that were answered, and both get them from one firewall. An id is only ever of one policy or of the
operator, so deleting a policy takes its own rules away and no others.
-/
namespace EdgeControl.Flood

open Service

def Monitor.Records (m : Monitor) (id i : UInt32) : Prop :=
  ∃ p, m.get? id = some p ∧ i ∈ p.ruleIds

def Recorded (calls : List Call) (id i : UInt32) : Prop :=
  ∃ before, before <+: calls ∧ (run before).monitor.Records id i

def Answered (calls : List Call) (i : UInt32) : Prop :=
  ∃ before rule faults, before ++ [⟨.setRule rule, faults⟩] <+: calls ∧
    ((run before).outcome faults (onFirewall (Firewall.Service.setRule rule))).answer = .ok i

/-! ### Deleting a policy -/

namespace Snapshot.DeletingPolicy

variable {may : Operation → Prop} {v w : Snapshot} {id : UInt32} {e : ServiceError}

theorem deletes (step : v.DeletingPolicy may id (.ok ()) w) :
    (∀ other, w.monitor.get? other = if id = other then none else v.monitor.get? other) ∧
      (∀ i, v.monitor.Records id i → w.firewall.registry.get? i = none) ∧
      ∀ i, ¬ v.monitor.Records id i →
        w.firewall.registry.get? i = v.firewall.registry.get? i := by
  cases step with
  | unknown absent =>
    refine ⟨fun other => ?_, fun i ⟨p, known, _⟩ => ?_, fun i _ => rfl⟩
    · split
      · rename_i same
        exact same ▸ absent
      · rfl
    · rw [absent] at known
      cases known
  | deleted p known firewall steps =>
    obtain ⟨-, gone, -, all, get⟩ := steps.registry
    obtain rfl := all rfl
    refine ⟨fun other => Monitor.get?_erase, fun i ⟨q, known', member⟩ => ?_, fun i other => ?_⟩
    · cases known.symm.trans known'
      exact (get i).trans (if_pos member)
    · exact (get i).trans (if_neg fun member => other ⟨p, known, member⟩)

theorem keeps (step : v.DeletingPolicy may id (.error e) w) :
    w.monitor = v.monitor ∧ ∃ p, v.monitor.get? id = some p ∧
      ∀ i ∉ p.ruleIds, w.firewall.registry.get? i = v.firewall.registry.get? i := by
  cases step with
  | halted p known e firewall steps =>
    obtain ⟨-, gone, named, -, get⟩ := steps.registry
    refine ⟨rfl, p, known, fun i other => ?_⟩
    exact (get i).trans (if_neg fun member => other (named member))

end Snapshot.DeletingPolicy

/-! ### Ids in a run -/

variable {calls before after : List Call} {id other i : UInt32}

theorem Monitor.Records.below (h : (run calls).monitor.Records id i) :
    i < (run calls).firewall.registry.nextId := by
  obtain ⟨p, known, member⟩ := h
  exact (run_orderly calls).given id p known i member

theorem Monitor.Records.earlier (h : (run (before ++ after)).monitor.Records id i)
    (given : i < (run before).firewall.registry.nextId) : (run before).monitor.Records id i := by
  induction after using List.reverseRecOn with
  | nil =>
    rw [List.append_nil] at h
    exact h
  | append_singleton after c ih =>
    obtain ⟨q, known, member⟩ := h
    rw [← List.append_assoc] at known
    have below := UInt32.lt_of_lt_of_le given (run_append before after).1
    obtain ⟨p, known, member, -⟩ := (follows_concat (before ++ after) c).recorded known member below
    exact ih ⟨p, known, member⟩

theorem records_unique (first : (run before).monitor.Records id i)
    (later : (run (before ++ after)).monitor.Records other i) : id = other := by
  have given := first.below
  obtain ⟨p, known, member⟩ := first
  obtain ⟨q, known', member'⟩ := later.earlier given
  exact (run_orderly before).apart id p other q known known' i member member'

theorem answered_next {rule : Firewall.Rule} {faults : Faults}
    (ok : ((run calls).outcome faults
      (onFirewall (Firewall.Service.setRule rule))).answer = .ok i) :
    i = (run calls).firewall.registry.nextId ∧
      i < (run (calls ++ [⟨.setRule rule, faults⟩])).firewall.registry.nextId ∧
      (run (calls ++ [⟨.setRule rule, faults⟩])).monitor = (run calls).monitor := by
  have keyed := (run_orderly calls).keyed
  have answer : ((run calls).firewall.outcome faults (Firewall.Service.setRule rule)).answer =
      .ok i := ok
  have step := (run calls).firewall.setting faults rule
  rw [answer] at step
  rw [run_concat]
  obtain ⟨rfl, -, installed⟩ := step.succeeded
  refine ⟨rfl, ?_, rfl⟩
  change _ < ((run calls).firewall.outcome faults
    (Firewall.Service.setRule rule)).state.snapshot.registry.nextId
  rw [installed]
  exact lt_succ_of_le keyed.room (UInt32.le_refl _)

theorem Recorded.unique (h : Recorded calls id i) (h' : Recorded calls other i) : id = other := by
  obtain ⟨before, first, records⟩ := h
  obtain ⟨before', second, records'⟩ := h'
  rcases List.prefix_or_prefix_of_prefix first second with ⟨after, rfl⟩ | ⟨after, rfl⟩
  · exact records_unique records records'
  · exact (records_unique records' records).symm

theorem Recorded.not_answered (h : Recorded calls id i) : ¬ Answered calls i := by
  obtain ⟨recorded, first, records⟩ := h
  rintro ⟨asked, rule, faults, second, ok⟩
  obtain ⟨next, given, same⟩ := answered_next ok
  -- Up to the call the id was not given out yet.
  have early : ¬ (run asked).monitor.Records id i :=
    fun records => UInt32.lt_irrefl _ (next ▸ records.below)
  rcases List.prefix_or_prefix_of_prefix first second with before | ⟨after, rfl⟩
  · rcases List.prefix_concat_iff.mp before with rfl | ⟨after, rfl⟩
    · exact early (same ▸ records)
    · have below := UInt32.lt_of_lt_of_le records.below (run_append recorded after).1
      exact UInt32.lt_irrefl _ (next ▸ below)
  · exact early (same ▸ records.earlier given)

/-- In any run, whatever fails: no rule is ever named by two policies, nor by a policy when its id
was answered to the operator. A policy that is deleted goes with its rules, and one that cannot be
deleted stays as it is; the rules that it does not name stay either way. -/
theorem run_ownership (calls : List Call) :
    (∀ i id other, Recorded calls id i → Recorded calls other i → id = other) ∧
    (∀ i id, Recorded calls id i → ¬ Answered calls i) ∧
    ∀ faults id,
      let s := run calls
      let o := s.outcome faults (deletePolicy id)
      (o.answer = .ok () →
        (∀ other, o.state.monitor.get? other =
          if id = other then none else s.monitor.get? other) ∧
        (∀ i, s.monitor.Records id i → o.state.firewall.registry.get? i = none) ∧
        ∀ i, ¬ s.monitor.Records id i →
          o.state.firewall.registry.get? i = s.firewall.registry.get? i) ∧
      ∀ e, o.answer = .error e →
        o.state.monitor = s.monitor ∧ ∃ p, s.monitor.get? id = some p ∧
          ∀ i ∉ p.ruleIds, o.state.firewall.registry.get? i = s.firewall.registry.get? i := by
  refine ⟨fun _ _ _ => Recorded.unique, fun _ _ => Recorded.not_answered, fun faults id => ?_⟩
  have step := (run calls).deletingPolicy faults id
  constructor
  · intro ok
    rw [ok] at step
    exact step.deletes
  · intro e failed
    rw [failed] at step
    exact step.keeps

/-- The operator sets a further rule against the source. The policy cannot be deleted as long as the
matchers cannot be written. -/
theorem run_ownership_halted :
    let block := Firewall.Rule.blockHost Sample.source .tcp
    let calls : List Call := [⟨.setPolicy Sample.policy, .none⟩,
      ⟨.tick (Sample.counted 150), .none⟩, ⟨.setRule block, .none⟩]
    let frozen : Faults := {plan := fun _ op => op == .setMatcher}
    let o := (run calls).outcome frozen (deletePolicy 1)
    Recorded calls 1 1 ∧ ¬ Answered calls 1 ∧ Answered calls 2 ∧
      o.answer = .error Operation.setMatcher.failure ∧ o.state.monitor = (run calls).monitor ∧
      o.state.firewall.registry.get? 2 = some {block with id := 2} := by
  intro block calls frozen o
  have ids : ((run calls).monitor.get? 1).map (·.ruleIds) = some [1] := by decide +kernel
  have second : (run calls).firewall.registry.get? 2 = some {block with id := 2} := by
    decide +kernel
  have failed : o.answer = .error Operation.setMatcher.failure := by decide +kernel
  obtain ⟨p, known, named⟩ := Option.map_eq_some_iff.mp ids
  have recorded : Recorded calls 1 1 :=
    ⟨calls, List.prefix_refl _, p, known, named ▸ List.mem_singleton_self _⟩
  have answered : Answered calls 2 :=
    ⟨[⟨.setPolicy Sample.policy, .none⟩, ⟨.tick (Sample.counted 150), .none⟩], block, .none,
      List.prefix_refl _, by decide +kernel⟩
  obtain ⟨-, apart, deletion⟩ := run_ownership calls
  obtain ⟨same, q, known', kept⟩ := (deletion frozen 1).2 _ failed
  cases known.symm.trans known'
  have other : (2 : UInt32) ∉ p.ruleIds := by
    rw [named]
    decide
  exact ⟨recorded, apart 1 1 recorded, answered, failed, same, (kept 2 other).trans second⟩

end EdgeControl.Flood
