import EdgeControl.Proofs.Firewall.Tables
import Mathlib.Order.Basic

/-!
Deleting a rule once more after a write of its deletion failed. The first deletion leaves every
table either as it was or as it was to become, so a second one that gets through leaves what a
deletion without a failure leaves. It does not get through when the network's record went with the
last rule, since the record is then missing.
-/
namespace EdgeControl.Firewall

namespace Registry

theorem survivor?_eq_none_iff {r : Registry} {rule : Rule} : Service.survivor? r rule = none ↔
    ¬ ∃ other ∈ r.toList, other.id ≠ rule.id ∧ other.network = rule.network := by
  rw [Service.survivor?, List.getLast?_eq_none_iff, List.filter_eq_nil_iff]
  simp

end Registry

namespace Snapshot

variable {may : Operation → Prop} {v u w : Snapshot} {rule : Rule} {id : UInt32} {op : Operation}
  {e : ServiceError} {most : Network → Nat}

theorem rules_released_of_shared {kept : Rule}
    (shared : Service.survivor? v.registry rule = some kept) :
    (v.released rule).rules = v.rules.insert rule.network kept.entry := by
  simp only [released, shared]

theorem rules_released_of_alone (alone : Service.survivor? v.registry rule = none) :
    (v.released rule).rules = v.rules.erase rule.network := by
  simp only [released, alone]

def withoutRule (v : Snapshot) (rule : Rule) : Snapshot :=
  v.deleted rule rule.id (v.dropCounters.erase rule.id) (v.matchers[rule.network]?.getD .empty)

theorem Deleting.eq_withoutRule (step : Deleting may v rule.id (.ok ()) w)
    (works : ∀ o, ¬ may o) (known : v.registry.get? rule.id = some rule) :
    w = v.withoutRule rule := by
  cases step with
  | unknown absent =>
    rw [known] at absent
    cases absent
  | deleted other there counters counted matcher read =>
    have same : rule = other := Option.some.inj (known.symm.trans there)
    have counters_eq := counted.resolve_right fun fault => works _ fault.1
    have matcher_eq := read.resolve_right fun fault => works _ fault.1
    subst same counters_eq matcher_eq
    rfl

/-! ### What a deletion leaves when it stops -/

/-- Each table is as it was, or as the deletion was to leave it. -/
structure Underway (v : Snapshot) (rule : Rule) (u : Snapshot) : Prop where
  registry : u.registry = v.registry
  rules : u.rules = v.rules ∨ u.rules = (v.withoutRule rule).rules
  matchers : u.matchers = v.matchers ∨ u.matchers = (v.withoutRule rule).matchers
  dropCounters : u.dropCounters = v.dropCounters ∨
    u.dropCounters = (v.withoutRule rule).dropCounters
  advRules : u.advRules = v.advRules

namespace Underway

theorem rules_eq (h : v.Underway rule u) :
    (u.withoutRule rule).rules = (v.withoutRule rule).rules := by
  change (u.released rule).rules = (v.released rule).rules
  have written : u.rules = v.rules ∨ u.rules = (v.released rule).rules := h.rules
  cases survivor : Service.survivor? v.registry rule with
  | some kept =>
    have survivor' : Service.survivor? u.registry rule = some kept := h.registry ▸ survivor
    rw [rules_released_of_shared survivor']
    rw [rules_released_of_shared survivor] at written ⊢
    rcases written with same | same
    · rw [same]
    · rw [same, Table.insert_insert]
  | none =>
    have survivor' : Service.survivor? u.registry rule = none := h.registry ▸ survivor
    rw [rules_released_of_alone survivor']
    rw [rules_released_of_alone survivor] at written ⊢
    rcases written with same | same
    · rw [same]
    · rw [same]
      exact Table.erase_of_absent Std.ExtTreeMap.getElem?_erase_self

theorem matchers_eq (h : v.Underway rule u) :
    (u.withoutRule rule).matchers = (v.withoutRule rule).matchers := by
  have relisted (w : Snapshot) : (w.withoutRule rule).matchers =
      w.matchers.insert rule.network ((w.matchers[rule.network]?.getD .empty).erase rule.id) := rfl
  rw [relisted u]
  rcases h.matchers with same | same
  · rw [same, relisted v]
  · rw [same, relisted v, Std.ExtTreeMap.getElem?_insert_self, Option.getD_some,
      Matcher.erase_erase, Table.insert_insert]

theorem dropCounters_eq (h : v.Underway rule u) :
    (u.withoutRule rule).dropCounters = (v.withoutRule rule).dropCounters := by
  change u.dropCounters.erase rule.id = v.dropCounters.erase rule.id
  rcases h.dropCounters with same | same
  · rw [same]
  · rw [same]
    exact Table.erase_of_absent Std.ExtTreeMap.getElem?_erase_self

theorem withoutRule_eq (h : v.Underway rule u) : u.withoutRule rule = v.withoutRule rule := by
  have registry : (u.withoutRule rule).registry = (v.withoutRule rule).registry :=
    congrArg (Registry.erase · rule.id) h.registry
  have advRules : (u.withoutRule rule).advRules = (v.withoutRule rule).advRules :=
    congrArg (Std.ExtTreeMap.erase · rule.id) h.advRules
  have rules := h.rules_eq
  have matchers := h.matchers_eq
  have dropCounters := h.dropCounters_eq
  cases hu : u.withoutRule rule
  cases hv : v.withoutRule rule
  rw [hu, hv] at registry advRules rules matchers dropCounters
  simp only at registry advRules rules matchers dropCounters
  rw [registry, advRules, rules, matchers, dropCounters]

end Underway

/-- The network has its record, or will be given one. -/
def Releasable (v : Snapshot) (rule : Rule) : Prop :=
  Service.survivor? v.registry rule ≠ none ∨ v.rules.contains rule.network = true

/-- One write failed and ended the deletion. Only a failure of the write of the network's record
leaves that record when there is no other rule for it. -/
theorem Deleting.stopped (step : Deleting may v rule.id (.error e) u) (h : v.Agrees most)
    (known : v.registry.get? rule.id = some rule) (only : ∀ o, may o → o = op) :
    v.Underway rule u ∧ (u.Releasable rule ↔
      op = .insertRule ∨ op = .removeRule ∨ Service.survivor? v.registry rule ≠ none) := by
  have same {other : Rule} (there : v.registry.get? rule.id = some other) : rule = other :=
    Option.some.inj (known.symm.trans there)
  obtain ⟨entered, -, recorded⟩ := h.recorded known
  -- After the release the record is there if it was handed on.
  have released (x : Snapshot) (registry : x.registry = v.registry)
      (rules : x.rules = (v.released rule).rules) (later : op = .setMatcher ∨ op = .removeAdvRule) :
      x.Releasable rule ↔ op = .insertRule ∨ op = .removeRule ∨
        Service.survivor? v.registry rule ≠ none := by
    have early : ¬ (op = .insertRule ∨ op = .removeRule) := by
      rcases later with rfl | rfl <;> decide
    rw [← or_assoc, or_iff_right early, Releasable, registry, rules]
    constructor
    · rintro (shared | left) alone
      · exact shared alone
      · rw [rules_released_of_alone alone] at left
        exact Table.not_mem_erase_self _ _ left
    · exact .inl
  cases step with
  | unreleased other there e fault =>
    obtain rfl := same there
    have first : op = .insertRule ∨ op = .removeRule := by
      rcases fault with fault | fault | ⟨-, absent⟩
      · exact .inl (only _ fault).symm
      · exact .inr (only _ fault).symm
      · rw [absent] at entered
        cases entered
    refine ⟨⟨rfl, .inl rfl, .inl rfl, .inl rfl, rfl⟩, iff_of_true (.inr entered) ?_⟩
    rcases first with rfl | rfl
    · exact .inl rfl
    · exact .inr (.inl rfl)
  | listed other there counters counted fault =>
    obtain rfl := same there
    obtain rfl := only _ fault
    refine ⟨⟨rfl, .inr rfl, .inl rfl, ?_, rfl⟩, released _ rfl rfl (.inl rfl)⟩
    rcases counted with erased | ⟨-, kept⟩
    · exact .inr erased
    · exact .inl kept
  | recorded other there counters counted matcher read e fault =>
    obtain rfl := same there
    rcases fault with fault | absent
    · obtain rfl := only _ fault
      have matcher_eq := read.resolve_right fun fault => nomatch only _ fault.1
      subst matcher_eq
      refine ⟨⟨rfl, .inr rfl, .inr rfl, ?_, rfl⟩, released _ rfl rfl (.inr rfl)⟩
      rcases counted with erased | ⟨-, kept⟩
      · exact .inr erased
      · exact .inl kept
    · rw [absent] at recorded
      cases recorded

theorem Deleting.ok_of_releasable {r : Except ServiceError Unit}
    (step : Deleting may v rule.id r w) (works : ∀ o, ¬ may o)
    (known : v.registry.get? rule.id = some rule) (releasable : v.Releasable rule)
    (recorded : v.advRules.contains rule.id = true) : r = .ok () := by
  cases step with
  | unknown => rfl
  | deleted => rfl
  | listed _ _ _ _ fault => exact absurd fault (works _)
  | unreleased other there e fault =>
    obtain rfl : rule = other := Option.some.inj (known.symm.trans there)
    rcases fault with fault | fault | ⟨alone, absent⟩
    · exact absurd fault (works _)
    · exact absurd fault (works _)
    · rcases releasable with shared | entered
      · exact absurd alone shared
      · rw [absent] at entered
        cases entered
  | recorded _ _ _ _ _ _ _ fault =>
    rcases fault with fault | absent
    · exact absurd fault (works _)
    · rw [absent] at recorded
      cases recorded

structure Forgets (v : Snapshot) (id : UInt32) : Prop where
  registry : v.registry.get? id = none
  rules : ∀ (network : Network) (entry : RuleEntry), v.rules[network]? = some entry → entry.id ≠ id
  matchers : ∀ (network : Network) (matcher : Matcher), v.matchers[network]? = some matcher →
    ∀ slot ∈ matcher.slots, slot.toUInt32 ≠ id
  advRules : v.advRules[id]? = none

theorem Agrees.forgets (h : v.Agrees most) (positive : 0 < id)
    (absent : v.registry.get? id = none) : v.Forgets id := by
  constructor
  case registry => exact absent
  case rules =>
    intro network entry found same
    rw [h.rules network, Option.map_eq_some_iff] at found
    obtain ⟨rule, last, rfl⟩ := found
    have listed : rule ∈ v.registry.toList := (mem_rulesOn.mp (List.mem_of_getLast? last)).1
    have known := h.keyed.known listed
    have key : rule.id = id := same
    rw [key, absent] at known
    cases known
  case matchers =>
    intro network matcher found slot member same
    obtain ⟨ids, packed, lists⟩ := h.matchers network
    rw [found, Option.getD_some] at packed
    rw [packed, Matcher.mem_pack lists.few] at member
    rcases member with listed | ⟨-, rfl⟩
    · obtain ⟨rule, known, -⟩ := lists.named slot listed
      rw [same, absent] at known
      cases known
    · rw [← same] at positive
      exact absurd positive (by decide)
  case advRules => rw [h.advRules id, absent, Option.map_none]

/-- A deletion that follows on a stopped one, and one in its place that was not stopped. -/
theorem Deleting.resumed {may' : Operation → Prop} {r r' : Except ServiceError Unit}
    {w' : Snapshot} (first : Deleting may v rule.id (.error e) u) (h : v.Agrees most)
    (known : v.registry.get? rule.id = some rule) (only : ∀ o, may o → o = op)
    (works : ∀ o, ¬ may' o) (direct : Deleting may' v rule.id r w)
    (second : Deleting may' u rule.id r' w')
    (blocked : u.registry.get? rule.id = some rule → ¬ u.Releasable rule → ∃ e, r' = .error e) :
    r = .ok () ∧
      (r' = .ok () ↔
        op = .insertRule ∨ op = .removeRule ∨ Service.survivor? v.registry rule ≠ none) ∧
      (r' = .ok () → w' = w ∧ w'.Agrees most ∧ w'.Forgets rule.id) := by
  obtain ⟨underway, releasable⟩ := first.stopped h known only
  obtain ⟨answered, agrees, -⟩ := h.deleting works direct
  have there : u.registry.get? rule.id = some rule := underway.registry ▸ known
  have recorded : u.advRules.contains rule.id = true := by
    rw [underway.advRules]
    exact (h.recorded known).2.2
  refine ⟨answered, ?_, fun ok => ?_⟩
  · rw [← releasable]
    constructor
    · intro ok
      by_contra stuck
      obtain ⟨e, error⟩ := blocked there stuck
      rw [error] at ok
      cases ok
    · intro way
      exact second.ok_of_releasable works there way recorded
  · rw [ok] at second
    rw [answered] at direct
    have same : w' = w := by
      rw [second.eq_withoutRule works there, underway.withoutRule_eq,
        direct.eq_withoutRule works known]
    have gone : w'.registry.get? rule.id = none := by
      rw [second.eq_withoutRule works there]
      exact (Registry.get?_erase u.registry rule.id rule.id).trans (if_pos rfl)
    have positive : 0 < rule.id := (h.keyed.ids _ rule known).2.1
    exact ⟨same, same ▸ agrees, (same ▸ agrees).forgets positive gone⟩

end Snapshot

namespace Service

theorem deleteRule_blocked {s : Service Memory} {id : UInt32} {rule : Rule}
    (known : s.registry.get? id = some rule) (blocked : ¬ s.snapshot.Releasable rule) :
    (deleteRule id).Ensures s fun r _ => ∃ e, r = .error e := by
  have alone : survivor? s.registry rule = none := by
    by_contra shared
    exact blocked (.inl shared)
  refine .get_bind ?_
  simp only [known]
  refine .bind (.get_bind ?_)
  simp only [alone]
  refine .onPart (Memory.ensures_removeRule (fun _ => ⟨_, rfl⟩) (fun _ => ⟨_, rfl⟩) ?_)
  exact fun entered => absurd (.inr entered) blocked

end Service

namespace Course

/-- In any run without failures, one write fails and ends the deletion of an installed rule. When
the writes work again, a second deletion gets through if and only if the write was that of the
network's record, or another rule is installed on the network. It then leaves what a deletion
without a failure leaves, and nothing of the rule. -/
theorem stopped_deletion_completes_iff (calls : List Call) (reliable : ∀ c ∈ calls, c.Reliable)
    (id : UInt32) (rule : Rule) (known : (run calls).service.registry.get? id = some rule)
    (op : Operation) (faults healed : Faults) (only : ∀ o, faults.MayFail o → o = op)
    (e : ServiceError)
    (failed : ((run calls).service.outcome faults (Service.deleteRule id)).answer = .error e)
    (works : ∀ o, ¬ healed.MayFail o) :
    let s := (run calls).service
    let t := (s.outcome faults (Service.deleteRule id)).state
    let undisturbed := s.outcome healed (Service.deleteRule id)
    let resumed := t.outcome healed (Service.deleteRule id)
    undisturbed.answer = .ok () ∧
      (resumed.answer = .ok () ↔ op = .insertRule ∨ op = .removeRule ∨
        ∃ other ∈ s.registry.toList, other.id ≠ id ∧ other.network = rule.network) ∧
      (resumed.answer = .ok () → resumed.state.snapshot = undisturbed.state.snapshot ∧
        resumed.state.snapshot.Forgets id ∧
        ∃ shown, (resumed.state.outcome healed Service.rules).answer = .ok shown ∧
          ∀ other ∈ shown, other.id ≠ id) := by
  intro s t undisturbed resumed
  have whole : (run calls).Faithful := run_induction calls ⟨rfl, Snapshot.Agrees.start⟩
    fun c member t h => h.after (reliable c member)
  have agrees : s.snapshot.Agrees (run calls).most := whole.agrees
  have known : s.snapshot.registry.get? id = some rule := known
  have named : rule.id = id := (agrees.keyed.ids id rule known).1
  have first : Snapshot.Deleting faults.MayFail s.snapshot id (.error e) t.snapshot :=
    failed ▸ s.deleting faults id
  have direct : Snapshot.Deleting healed.MayFail s.snapshot id undisturbed.answer
    undisturbed.state.snapshot := s.deleting healed id
  have second : Snapshot.Deleting healed.MayFail t.snapshot id resumed.answer
    resumed.state.snapshot := t.deleting healed id
  have blocked (there : t.registry.get? id = some rule) (stuck : ¬ t.snapshot.Releasable rule) :
      ∃ e, resumed.answer = .error e :=
    Service.deleteRule_blocked (s := {t with base := {t.base with faults := healed}}) there stuck
      #[]
  have shows := resumed.state.rules_outcome healed (works _)
  -- What the deletions compute is of no use from here on.
  clear_value undisturbed resumed t s
  subst named
  obtain ⟨answered, completes, completed⟩ :=
    first.resumed agrees known only works direct second blocked
  have shared : (∃ other ∈ s.registry.toList, other.id ≠ rule.id ∧ other.network = rule.network) ↔
      Service.survivor? s.snapshot.registry rule ≠ none := by
    rw [ne_eq, Registry.survivor?_eq_none_iff, not_not]
    rfl
  refine ⟨answered, ?_, fun ok => ?_⟩
  · rw [shared]
    exact completes
  · obtain ⟨same, agrees', forgets⟩ := completed ok
    refine ⟨same, forgets, _, shows, fun other member key => ?_⟩
    obtain ⟨listed, there, rfl⟩ := List.mem_map.mp member
    have key : listed.id = rule.id := key
    have found := agrees'.keyed.known there
    rw [key, forgets.registry] at found
    cases found

namespace Sample

def host : Ipv4 := .ofOctets 10 0 0 2

def tcp : Call := ⟨.setRule (.blockHost host .tcp), .none⟩

def udp : Call := ⟨.setRule (.blockHost host .udp), .none⟩

def frozen : Faults := {plan := fun _ o => o == .setMatcher}

end Sample

/-- The only rule on its network. The second deletion fails at the record that the first one
removed. -/
theorem stopped_deletion_not_completed :
    let s := (run [Sample.tcp]).service
    let t := (s.outcome Sample.frozen (Service.deleteRule 1)).state
    let resumed := t.outcome .none (Service.deleteRule 1)
    (s.outcome Sample.frozen (Service.deleteRule 1)).answer =
        .error Operation.setMatcher.failure ∧
      resumed.answer = .error (Memory.missing "rules") ∧
      resumed.state.registry.toList.map Rule.id = [1] ∧
      resumed.state.base.advRules.keys = [1] :=
  ⟨by decide +kernel, by decide +kernel, by decide +kernel, by decide +kernel⟩

/-- Two rules on one network. The record goes to the second one both times. -/
theorem stopped_deletion_completes_shared :
    let s := (run [Sample.tcp, Sample.udp]).service
    let t := (s.outcome Sample.frozen (Service.deleteRule 1)).state
    let resumed := t.outcome .none (Service.deleteRule 1)
    resumed.answer = .ok () ∧ resumed.state.snapshot.Forgets 1 := by
  intro s t resumed
  have there : (s.registry.get? 1).isSome = true := by decide +kernel
  obtain ⟨rule, known⟩ := Option.isSome_iff_exists.mp there
  have reliable : ∀ c ∈ [Sample.tcp, Sample.udp], c.Reliable := by
    intro c member
    simp only [List.mem_cons, List.not_mem_nil, or_false] at member
    rcases member with rfl | rfl
    · exact Faults.not_mayFail_none
    · exact Faults.not_mayFail_none
  have whole := stopped_deletion_completes_iff [Sample.tcp, Sample.udp] reliable 1 rule known
    .setMatcher Sample.frozen .none (fun o ⟨_, fails⟩ => beq_iff_eq.mp fails)
    Operation.setMatcher.failure (by decide +kernel) Faults.not_mayFail_none
  have shared : ∃ other ∈ s.registry.toList, other.id ≠ 1 ∧ other.network = rule.network := by
    have networks : (s.registry.get? 1).map Rule.network = some (.host Sample.host) ∧
        s.registry.toList.any (fun other =>
          other.id != 1 && other.network == .host Sample.host) := by
      decide +kernel
    have on : rule.network = .host Sample.host := by
      have found := networks.1
      rw [known] at found
      exact Option.some.inj found
    rw [on]
    simpa using networks.2
  have resumes := whole.2.1.mpr (.inr (.inr shared))
  exact ⟨resumes, (whole.2.2 resumes).2.1⟩

end Course
end EdgeControl.Firewall
