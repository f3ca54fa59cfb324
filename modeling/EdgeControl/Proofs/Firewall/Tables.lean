import EdgeControl.Proofs.Firewall.Matcher
import EdgeControl.Proofs.Firewall.Run

/-!
The tables of a firewall agree with its installed rules as long as nothing fails: each rule has its
record, each network the record of its newest rule, and the matchers list the rules in order.
-/
namespace EdgeControl.Firewall

namespace Snapshot

variable {may : Operation → Prop} {v w : Snapshot} {most most' : Network → Nat} {id : UInt32}
  {given rule : Rule} {registry : Registry} {network : Network} {ids : List UInt16}

structure Lists (v : Snapshot) (most : Network → Nat) (network : Network) (ids : List UInt16) :
    Prop where
  few : ids.length ≤ 16
  ascending : ids.Pairwise (· < ·)
  named : ∀ i ∈ ids, ∃ rule, v.registry.get? i.toUInt32 = some rule ∧ rule.network = network
  /-- A network that was never crowded has all its rules listed. -/
  complete : most network ≤ 16 →
    ids.map UInt16.toUInt32 = (rulesOn v.registry.toList network).map Rule.id

structure Agrees (v : Snapshot) (most : Network → Nat) : Prop where
  keyed : v.registry.Keyed
  advRules : ∀ id : UInt32, v.advRules[id]? = (v.registry.get? id).map Rule.entry
  rules : ∀ network : Network, v.rules[network]? =
    (rulesOn v.registry.toList network).getLast?.map Rule.entry
  matchers : ∀ network : Network, ∃ ids, v.matchers[network]?.getD .empty = .pack ids ∧
    v.Lists most network ids
  stored : ∀ rule ∈ v.registry.toList, rule.network ∈ v.matchers
  peak : ∀ network, (rulesOn v.registry.toList network).length ≤ most network

theorem Lists.zero_not_mem (h : v.Lists most network ids) (keyed : v.registry.Keyed) :
    0 ∉ ids := by
  intro member
  obtain ⟨rule, known, -⟩ := h.named 0 member
  exact absurd (keyed.ids _ rule known).2.1 (by decide)

namespace Agrees

theorem start : (Course.start.service.snapshot).Agrees fun _ => 0 where
  keyed := ⟨fun id rule known => (nomatch known), by decide, by decide⟩
  advRules id := rfl
  rules network := rfl
  matchers network := ⟨[], rfl, Nat.zero_le _, .nil, fun i member => (nomatch member), fun _ => rfl⟩
  stored rule member := by cases member
  peak network := Nat.le_refl 0

theorem grow (h : v.Agrees most) (grows : ∀ network, most network ≤ most' network) :
    v.Agrees most' :=
  {h with
    matchers := fun network => by
      obtain ⟨ids, packed, lists⟩ := h.matchers network
      exact ⟨ids, packed, {lists with
        complete := fun crowd => lists.complete (Nat.le_trans (grows network) crowd)}⟩
    peak := fun network => Nat.le_trans (h.peak network) (grows network)}

theorem recount (h : v.Agrees most) (counters : Std.ExtTreeMap UInt32 UInt64) :
    Agrees {v with dropCounters := counters} most :=
  {h with
    matchers := fun network => by
      obtain ⟨ids, packed, lists⟩ := h.matchers network
      exact ⟨ids, packed, {lists with}⟩}

theorem recorded (h : v.Agrees most) (known : v.registry.get? id = some rule) :
    v.rules.contains rule.network = true ∧ rule.network ∈ v.matchers ∧
      v.advRules.contains id = true := by
  have listed : rule ∈ v.registry.toList := Registry.mem_toList.mpr ⟨id, known⟩
  refine ⟨?_, h.stored rule listed, ?_⟩
  · have there : rulesOn v.registry.toList rule.network ≠ [] :=
      List.ne_nil_of_mem (mem_rulesOn.mpr ⟨listed, rfl⟩)
    rw [Std.ExtTreeMap.contains_eq_isSome_getElem?, h.rules, Option.isSome_map,
      List.getLast?_eq_some_getLast there]
    rfl
  · rw [Std.ExtTreeMap.contains_eq_isSome_getElem?, h.advRules, known]
    rfl

/-! ### Setting a rule -/

theorem lists_installed (h : v.Agrees most)
    (prepared : v.registry.prepare given = .ok (rule, registry))
    (grows : most rule.network ≤ most' rule.network)
    (peak : (rulesOn (v.registry.toList ++ [rule]) rule.network).length ≤ most' rule.network)
    {matcher : Matcher} (packed : matcher = .pack ids) (lists : v.Lists most rule.network ids) :
    ∃ ids', (matcher.insert? rule.id).getD matcher = .pack ids' ∧
      (v.installed rule registry matcher).Lists most' rule.network ids' := by
  obtain ⟨-, toList, above, positive, small⟩ := h.keyed.install prepared
  have taken := lists.zero_not_mem h.keyed
  have get (i : UInt32) : (registry.insert rule).get? i =
      if rule.id = i then some rule else v.registry.get? i := by
    obtain ⟨rfl, rfl, -⟩ := Registry.prepare_ok prepared
    exact Registry.get?_insert _ _ _
  have kept {i : UInt16} (member : i ∈ ids) : ∃ o, (registry.insert rule).get? i.toUInt32 = some o ∧
      o.network = rule.network := by
    obtain ⟨o, known, on⟩ := lists.named i member
    exact ⟨o, (get _).trans ((if_neg (UInt32.ne_of_lt (above _ o known)).symm).trans known), on⟩
  have rest (crowd : most' rule.network ≤ 16) :
      ids.map UInt16.toUInt32 = (rulesOn v.registry.toList rule.network).map Rule.id :=
    lists.complete (Nat.le_trans grows crowd)
  have added : rulesOn (registry.insert rule).toList rule.network =
      rulesOn v.registry.toList rule.network ++ [rule] := by
    rw [toList, rulesOn_append, if_pos rfl]
  subst packed
  rcases Nat.lt_or_eq_of_le lists.few with room | full
  · refine ⟨ids ++ [rule.id.toUInt16], ?_, ?_, ?_, ?_, ?_⟩
    · rw [Matcher.insert?_pack room taken small, Option.getD_some]
    · rw [List.length_append]
      exact room
    · rw [List.pairwise_append]
      refine ⟨lists.ascending, List.pairwise_singleton _ _, fun i member j last => ?_⟩
      obtain ⟨o, known, -⟩ := lists.named i member
      rw [List.mem_singleton.mp last, ← UInt16.toUInt32_lt, toUInt32_toUInt16 small]
      exact above _ o known
    · intro i member
      rcases List.mem_append.mp member with before | last
      · exact kept before
      · rw [List.mem_singleton.mp last, toUInt32_toUInt16 small]
        exact ⟨rule, (get _).trans (if_pos rfl), rfl⟩
    · intro crowd
      change _ = (rulesOn (registry.insert rule).toList rule.network).map Rule.id
      rw [added, List.map_append, List.map_append, rest crowd, List.map_singleton,
        List.map_singleton, toUInt32_toUInt16 small]
  · refine ⟨ids, ?_, lists.few, lists.ascending, fun i member => kept member, fun crowd => ?_⟩
    · rw [Matcher.insert?_pack_full full taken, Option.getD_none]
    · -- Sixteen rules are listed already, so the new one makes the network crowded.
      have listed := congrArg List.length (rest crowd)
      rw [List.length_map, List.length_map, full] at listed
      rw [rulesOn_append, if_pos rfl, List.length_append, ← listed, List.length_singleton] at peak
      omega

theorem installed (h : v.Agrees most) (prepared : v.registry.prepare given = .ok (rule, registry))
    (grows : ∀ network, most network ≤ most' network)
    (peak : ∀ network, (rulesOn (v.registry.toList ++ [rule]) network).length ≤ most' network)
    {matcher : Matcher} (read : matcher = v.matchers[rule.network]?.getD .empty) :
    (v.installed rule registry matcher).Agrees most' := by
  obtain ⟨keyed, toList, above, positive, small⟩ := h.keyed.install prepared
  have get (i : UInt32) : (registry.insert rule).get? i =
      if rule.id = i then some rule else v.registry.get? i := by
    obtain ⟨rfl, rfl, -⟩ := Registry.prepare_ok prepared
    exact Registry.get?_insert _ _ _
  constructor
  case keyed => exact keyed
  case advRules =>
    intro i
    change (v.advRules.insert rule.id rule.entry)[i]? = ((registry.insert rule).get? i).map _
    rw [Table.getElem?_insert, get, h.advRules i]
    split <;> rfl
  case rules =>
    intro network
    change (v.rules.insert rule.network rule.entry)[network]? =
      (rulesOn (registry.insert rule).toList network).getLast?.map _
    rw [Table.getElem?_insert, toList, rulesOn_append, h.rules network]
    split
    · rw [List.getLast?_concat, Option.map_some]
    · rfl
  case matchers =>
    intro network
    obtain ⟨ids, packed, lists⟩ := h.matchers network
    change ∃ ids, (v.matchers.insert rule.network _)[network]?.getD .empty = _ ∧ _
    rw [Table.getElem?_insert]
    by_cases same : rule.network = network
    · subst same
      rw [if_pos rfl, Option.getD_some]
      exact h.lists_installed prepared (grows _) (peak _) (read.trans packed) lists
    · rw [if_neg same]
      refine ⟨ids, packed, lists.few, lists.ascending, fun i member => ?_, fun crowd => ?_⟩
      · obtain ⟨o, known, on⟩ := lists.named i member
        exact ⟨o, (get _).trans ((if_neg (UInt32.ne_of_lt (above _ o known)).symm).trans known), on⟩
      · change _ = (rulesOn (registry.insert rule).toList network).map Rule.id
        rw [toList, rulesOn_append, if_neg same]
        exact lists.complete (Nat.le_trans (grows network) crowd)
  case stored =>
    intro o member
    change o.network ∈ v.matchers.insert rule.network _
    rw [Std.ExtTreeMap.mem_insert]
    rcases List.mem_append.mp (toList ▸ member) with before | last
    · exact .inr (h.stored o before)
    · rw [List.mem_singleton.mp last]
      exact .inl Std.compare_self
  case peak =>
    intro network
    change (rulesOn (registry.insert rule).toList network).length ≤ _
    rw [toList]
    exact peak network

theorem setting {r : Except ServiceError UInt32} (h : v.Agrees most)
    (works : ∀ op, ¬ may op) (step : Setting may v given r w)
    (grows : ∀ network, most network ≤ most' network)
    (peak : ∀ network, (rulesOn w.registry.toList network).length ≤ most' network) :
    w.Agrees most' := by
  cases step with
  | refused => exact h.grow grows
  | unentered _ _ _ fault | unlisted _ _ _ fault => exact absurd fault (works _)
  | unrecorded _ _ _ _ _ fault => exact absurd fault (works _)
  | installed rule registry prepared matcher read =>
    refine h.installed prepared grows ?_ (read.resolve_right fun fault => works _ fault.1)
    obtain ⟨-, toList, -⟩ := h.keyed.install prepared
    exact toList ▸ peak

/-! ### Deleting a rule -/

theorem rules_released (h : v.Agrees most) (known : v.registry.get? id = some rule)
    (network : Network) : (v.released rule).rules[network]? =
      (rulesOn (v.registry.toList.filter (·.id != id)) network).getLast?.map Rule.entry := by
  have key : rule.id = id := (h.keyed.ids id rule known).1
  have survivor : Service.survivor? v.registry rule =
      (rulesOn (v.registry.toList.filter (·.id != id)) rule.network).getLast? := by
    rw [Registry.survivor?_eq, rulesOn_filter, key]
  unfold released
  rw [survivor]
  by_cases same : rule.network = network
  · rw [same]
    cases (rulesOn (v.registry.toList.filter (·.id != id)) network).getLast? with
    | some kept => exact Std.ExtTreeMap.getElem?_insert_self
    | none => exact Std.ExtTreeMap.getElem?_erase_self
  · rw [h.keyed.rulesOn_filter_of_ne known same, ← h.rules network]
    cases (rulesOn (v.registry.toList.filter (·.id != id)) rule.network).getLast? with
    | some kept =>
      dsimp only
      rw [Table.getElem?_insert, if_neg same]
    | none =>
      dsimp only
      rw [Table.getElem?_erase, if_neg same]

theorem deleted (h : v.Agrees most) (known : v.registry.get? id = some rule)
    (counters : Std.ExtTreeMap UInt32 UInt64) {matcher : Matcher}
    (read : matcher = v.matchers[rule.network]?.getD .empty) :
    (v.deleted rule id counters matcher).Agrees most := by
  have key : rule.id = id := (h.keyed.ids id rule known).1
  have toList : (v.registry.erase id).toList = v.registry.toList.filter (·.id != id) :=
    h.keyed.toList_erase
  have get (i : UInt32) : (v.registry.erase id).get? i =
      if id = i then none else v.registry.get? i := Registry.get?_erase v.registry id i
  constructor
  case keyed => exact h.keyed.erase
  case advRules =>
    intro i
    change (v.advRules.erase id)[i]? = ((v.registry.erase id).get? i).map _
    rw [Table.getElem?_erase, get, h.advRules i]
    split <;> rfl
  case rules =>
    intro network
    change (v.released rule).rules[network]? =
      (rulesOn (v.registry.erase id).toList network).getLast?.map _
    rw [toList]
    exact h.rules_released known network
  case matchers =>
    intro network
    obtain ⟨ids, packed, lists⟩ := h.matchers network
    change ∃ ids, (v.matchers.insert rule.network _)[network]?.getD .empty = _ ∧ _
    rw [Table.getElem?_insert]
    by_cases same : rule.network = network
    · rw [if_pos same, Option.getD_some, read, same, packed, key,
        Matcher.erase_pack lists.few (lists.zero_not_mem h.keyed)]
      refine ⟨_, rfl, Nat.le_trans (List.length_filter_le _ _) lists.few,
        lists.ascending.filter _, fun i member => ?_, fun crowd => ?_⟩
      · obtain ⟨listed, other⟩ := List.mem_filter.mp member
        obtain ⟨o, found, on⟩ := lists.named i listed
        exact ⟨o, (get _).trans ((if_neg (bne_iff_ne.mp other).symm).trans found), on⟩
      · change _ = (rulesOn (v.registry.erase id).toList network).map Rule.id
        have all := congrArg (List.filter (· != id)) (lists.complete crowd)
        rw [List.filter_map, List.filter_map] at all
        rw [toList, rulesOn_filter]
        exact all
    · rw [if_neg same]
      refine ⟨ids, packed, lists.few, lists.ascending, fun i member => ?_, fun crowd => ?_⟩
      · obtain ⟨o, found, on⟩ := lists.named i member
        have other : id ≠ i.toUInt32 := by
          rintro rfl
          rw [known] at found
          cases found
          exact same on
        exact ⟨o, (get _).trans ((if_neg other).trans found), on⟩
      · change _ = (rulesOn (v.registry.erase id).toList network).map Rule.id
        rw [toList, h.keyed.rulesOn_filter_of_ne known same]
        exact lists.complete crowd
  case stored =>
    intro o member
    have before := (List.mem_filter.mp (toList ▸ member)).1
    exact Std.ExtTreeMap.mem_insert.mpr (.inr (h.stored o before))
  case peak =>
    intro network
    change (rulesOn (v.registry.erase id).toList network).length ≤ _
    rw [toList, rulesOn_filter]
    exact Nat.le_trans (List.length_filter_le _ _) (h.peak network)

theorem deleting {r : Except ServiceError Unit} (h : v.Agrees most) (works : ∀ op, ¬ may op)
    (step : Deleting may v id r w) : r = .ok () ∧ w.Agrees most ∧
      w.registry.toList = v.registry.toList.filter (·.id != id) := by
  cases step with
  | unknown absent =>
    refine ⟨rfl, h, (List.filter_eq_self.mpr fun o member => bne_iff_ne.mpr fun same => ?_).symm⟩
    have known := h.keyed.known member
    rw [same, absent] at known
    cases known
  | unreleased rule known e fault =>
    rcases fault with fault | fault | ⟨-, absent⟩
    · exact absurd fault (works _)
    · exact absurd fault (works _)
    · exact absurd (h.recorded known).1 (Bool.eq_false_iff.mp absent)
  | listed _ _ _ _ fault => exact absurd fault (works _)
  | recorded rule known _ _ _ _ e fault =>
    rcases fault with fault | absent
    · exact absurd fault (works _)
    · exact absurd (h.recorded known).2.2 (Bool.eq_false_iff.mp absent)
  | deleted rule known counters _ matcher read =>
    exact ⟨rfl, h.deleted known counters (read.resolve_right fun fault => works _ fault.1),
      h.keyed.toList_erase⟩

theorem toList_of_setting {r : Except ServiceError UInt32} (h : v.Agrees most)
    (works : ∀ op, ¬ may op) (step : Setting may v given r w) :
    w.registry.toList = Course.withSet v.registry.toList given r := by
  cases step with
  | refused => rfl
  | unentered _ _ _ fault | unlisted _ _ _ fault => exact absurd fault (works _)
  | unrecorded _ _ _ _ _ fault => exact absurd fault (works _)
  | installed rule registry prepared =>
    obtain ⟨-, toList, -⟩ := h.keyed.install prepared
    obtain ⟨rfl, -⟩ := Registry.prepare_ok prepared
    exact toList

end Agrees

/-- What the tables hold of some installed rules. -/
structure Enforces (v : Snapshot) (installed : List Rule) (most : Network → Nat) : Prop where
  ascending : installed.Pairwise fun rule other => rule.id < other.id
  advRules : ∀ id entry, v.advRules[id]? = some entry ↔
    ∃ rule ∈ installed, rule.id = id ∧ rule.entry = entry
  /-- The record of a network is that of the rule with the highest id on it. -/
  rules : ∀ network entry, v.rules[network]? = some entry ↔
    ∃ rule ∈ installed, rule.network = network ∧ rule.entry = entry ∧
      ∀ other ∈ installed, other.network = network → other.id ≤ rule.id
  matchers : ∀ network matcher, v.matchers[network]? = some matcher → ∃ ids : List UInt16,
    matcher = .pack ids ∧ ids.length ≤ 16 ∧ ids.Pairwise (· < ·) ∧
    (∀ i ∈ ids, 0 < i ∧ ∃ rule ∈ installed, rule.network = network ∧ rule.id = i.toUInt32) ∧
    (most network ≤ 16 → ids.map UInt16.toUInt32 = (rulesOn installed network).map Rule.id)
  stored : ∀ rule ∈ installed, rule.network ∈ v.matchers

theorem getLast?_eq_some_iff_highest {rules : List Rule} (rule : Rule)
    (ascending : rules.Pairwise fun rule other => rule.id < other.id) :
    rules.getLast? = some rule ↔ rule ∈ rules ∧ ∀ other ∈ rules, other.id ≤ rule.id := by
  rw [List.getLast?_eq_some_iff]
  constructor
  · rintro ⟨before, rfl⟩
    refine ⟨List.mem_append_right _ (List.mem_singleton_self rule), fun other member => ?_⟩
    rcases List.mem_append.mp member with earlier | last
    · have below := (List.pairwise_append.mp ascending).2.2 other earlier rule
        (List.mem_singleton_self rule)
      exact UInt32.le_of_lt below
    · rw [List.mem_singleton.mp last]
      exact UInt32.le_refl _
  · rintro ⟨member, highest⟩
    obtain ⟨before, after, rfl⟩ := List.append_of_mem member
    cases after with
    | nil => exact ⟨before, rfl⟩
    | cons next after =>
      have above := (List.pairwise_cons.mp (List.pairwise_append.mp ascending).2.1).1 next
        List.mem_cons_self
      have below := highest next (by simp)
      exact absurd above (UInt32.not_lt.mpr below)

theorem Agrees.enforces (h : v.Agrees most) : v.Enforces v.registry.toList most := by
  have listed {id : UInt32} {rule : Rule} :
      v.registry.get? id = some rule ↔ rule ∈ v.registry.toList ∧ rule.id = id := by
    constructor
    · exact fun known => ⟨Registry.mem_toList.mpr ⟨id, known⟩, (h.keyed.ids id rule known).1⟩
    · rintro ⟨member, rfl⟩
      exact h.keyed.known member
  constructor
  case ascending => exact h.keyed.toList_ascending
  case advRules =>
    intro id entry
    rw [h.advRules id, Option.map_eq_some_iff]
    constructor
    · rintro ⟨rule, known, same⟩
      exact ⟨rule, (listed.mp known).1, (listed.mp known).2, same⟩
    · rintro ⟨rule, member, key, same⟩
      exact ⟨rule, listed.mpr ⟨member, key⟩, same⟩
  case rules =>
    intro network entry
    have highest (rule : Rule) := getLast?_eq_some_iff_highest rule
      (h.keyed.toList_ascending.filter (·.network == network))
    rw [h.rules network, Option.map_eq_some_iff]
    constructor
    · rintro ⟨rule, last, same⟩
      obtain ⟨member, above⟩ := (highest rule).mp last
      obtain ⟨there, on⟩ := mem_rulesOn.mp member
      exact ⟨rule, there, on, same, fun o member on => above o (mem_rulesOn.mpr ⟨member, on⟩)⟩
    · rintro ⟨rule, member, on, same, above⟩
      refine ⟨rule, (highest rule).mpr ⟨mem_rulesOn.mpr ⟨member, on⟩, fun o there => ?_⟩, same⟩
      exact above o (mem_rulesOn.mp there).1 (mem_rulesOn.mp there).2
  case matchers =>
    intro network matcher found
    obtain ⟨ids, packed, lists⟩ := h.matchers network
    rw [found, Option.getD_some] at packed
    refine ⟨ids, packed, lists.few, lists.ascending, fun i member => ?_, lists.complete⟩
    obtain ⟨rule, known, on⟩ := lists.named i member
    obtain ⟨there, key⟩ := listed.mp known
    refine ⟨?_, rule, there, on, key⟩
    have positive := (h.keyed.ids _ rule known).2.1
    rw [← UInt16.toUInt32_lt]
    exact positive
  case stored => exact h.stored

end Snapshot

namespace Course

variable {t : Course}

/-- The answers of a run tell what is installed, and the tables agree with it. -/
structure Faithful (t : Course) : Prop where
  installed : t.installed = t.service.registry.toList
  agrees : t.service.snapshot.Agrees t.most

theorem Faithful.told (h : t.Faithful) {c : Call} (reliable : c.Reliable) :
    t.told c = (t.left c).registry.toList := by
  obtain ⟨request, faults⟩ := c
  cases request with
  | setRule given =>
    have step := h.agrees.toList_of_setting reliable (t.service.setting faults given)
    change Course.withSet t.installed given _ = _
    rw [h.installed]
    exact step.symm
  | deleteRule id =>
    obtain ⟨answered, -, step⟩ := h.agrees.deleting reliable (t.service.deleting faults id)
    change Course.withDeleted t.installed id _ = _
    rw [h.installed, answered]
    exact step.symm
  | countDrops counters => exact h.installed

theorem Faithful.after (h : t.Faithful) {c : Call} (reliable : c.Reliable) :
    (t.after c).Faithful := by
  have told := h.told reliable
  have grows (network : Network) : t.most network ≤ (t.after c).most network :=
    Nat.le_max_left _ _
  have peak (network : Network) :
      (rulesOn (t.left c).registry.toList network).length ≤ (t.after c).most network := by
    rw [← told]
    exact Nat.le_max_right _ _
  refine ⟨told, ?_⟩
  obtain ⟨request, faults⟩ := c
  cases request with
  | setRule given => exact h.agrees.setting reliable (t.service.setting faults given) grows peak
  | deleteRule id =>
    exact (h.agrees.deleting reliable (t.service.deleting faults id)).2.1.grow grows
  | countDrops counters => exact (h.agrees.grow grows).recount counters

/-- In any run without failures, at any point: the tables enforce what the answers tell to be
installed, every deletion succeeds, and the rules are shown with their drop counters. -/
theorem run_enforces (calls : List Call) (reliable : ∀ c ∈ calls, c.Reliable) (id : UInt32)
    (faults : Faults) (works : ∀ op, ¬ faults.MayFail op) :
    (run calls).service.snapshot.Enforces (run calls).installed (run calls).most ∧
      ((run calls).service.outcome faults (Service.deleteRule id)).answer = .ok () ∧
      ((run calls).service.outcome faults Service.rules).answer = .ok ((run calls).installed.map
        (Service.counted (run calls).service.base.dropCounters)) := by
  have whole : (run calls).Faithful := run_induction calls ⟨rfl, Snapshot.Agrees.start⟩
    fun c member t h => h.after (reliable c member)
  refine ⟨?_, ?_, ?_⟩
  · rw [whole.installed]
    exact whole.agrees.enforces
  · exact (whole.agrees.deleting works ((run calls).service.deleting faults id)).1
  · rw [whole.installed]
    exact (run calls).service.rules_outcome faults (works _)

/-- Two rules on one network, packets dropped by the first, and the second rule deleted. -/
theorem run_enforces_shared_network :
    let host : Ipv4 := .ofOctets 10 0 0 2
    let t := run [⟨.setRule (.blockHost host .tcp), .none⟩,
      ⟨.setRule (.blockHost host .udp), .none⟩,
      ⟨.countDrops ((∅ : Std.ExtTreeMap UInt32 UInt64).insert 1 7), .none⟩, ⟨.deleteRule 2, .none⟩]
    t.service.snapshot.Enforces t.installed t.most ∧
      (t.service.outcome .none (Service.deleteRule 1)).answer = .ok () ∧
      (t.service.outcome .none Service.rules).answer =
        .ok (t.installed.map (Service.counted t.service.base.dropCounters)) := by
  refine run_enforces _ (fun c member => ?_) 1 .none Faults.not_mayFail_none
  simp only [List.mem_cons, List.not_mem_nil, or_false] at member
  rcases member with rfl | rfl | rfl | rfl
  · exact Faults.not_mayFail_none
  · exact Faults.not_mayFail_none
  · exact Faults.not_mayFail_none
  · exact Faults.not_mayFail_none

example : (run [⟨.setRule (.blockHost (.ofOctets 10 0 0 2) .tcp), .none⟩,
    ⟨.setRule (.blockHost (.ofOctets 10 0 0 2) .udp), .none⟩,
    ⟨.deleteRule 2, .none⟩]).installed.map Rule.id = [1] := by
  decide +kernel

end Course
end EdgeControl.Firewall
