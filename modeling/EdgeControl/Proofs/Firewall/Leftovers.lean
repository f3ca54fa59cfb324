import EdgeControl.Proofs.Firewall.DeleteAfterFailure
import EdgeControl.Proofs.Firewall.Installed
import Mathlib.Data.List.Induction

/-!
What calls that fail half way leave in the tables of a firewall. A rule that could not be set stays
in the tables of its network, under an id that no other rule gets; the records by id are those of
the installed rules at any time. So nothing is left of a rule that was deleted, and nothing of it
comes back.
-/
namespace EdgeControl.Firewall

theorem Matcher.ids_empty : Matcher.empty.ids = [] := by decide

theorem Registry.survivor?_spec {r : Registry} {rule kept : Rule}
    (survivor : Service.survivor? r rule = some kept) :
    kept ∈ r.toList ∧ kept.id ≠ rule.id ∧ kept.network = rule.network := by
  have member := List.mem_of_getLast? survivor
  simpa using member

namespace Snapshot

variable {may : Operation → Prop} {v w : Snapshot} {given rule : Rule} {registry : Registry}
  {network : Network} {matcher : Matcher} {id i : UInt32}

/-- The ids in the taken slots of a network's matcher. -/
def listing (v : Snapshot) (network : Network) : List UInt16 :=
  (v.matchers[network]?.getD .empty).ids

def Listed (v : Snapshot) (network : Network) (id : UInt32) : Prop :=
  ∃ slot ∈ v.listing network, slot.toUInt32 = id

instance : Decidable (v.Listed network id) :=
  inferInstanceAs (Decidable (∃ slot ∈ v.listing network, slot.toUInt32 = id))

/-- The record of the network or a slot of its matcher has the id. -/
def Names (v : Snapshot) (network : Network) (id : UInt32) : Prop :=
  (∃ entry, v.rules[network]? = some entry ∧ entry.id = id) ∨ v.Listed network id

theorem Reads.ids_eq (read : v.Reads may network matcher) :
    matcher.ids = v.listing network ∨ (may .matcher ∧ matcher.ids = []) := by
  rcases read with rfl | ⟨fault, rfl⟩
  · exact .inl rfl
  · exact .inr ⟨fault, Matcher.ids_empty⟩

theorem Reads.listed {slot : UInt16} (read : v.Reads may network matcher)
    (member : slot ∈ matcher.ids) : v.Listed network slot.toUInt32 := by
  rcases read.ids_eq with kept | ⟨-, none⟩
  · exact ⟨slot, kept ▸ member, rfl⟩
  · rw [none] at member
    cases member

theorem listing_enlist (network : Network) : (v.enlist rule matcher).listing network =
    if rule.network = network then ((matcher.insert? rule.id).getD matcher).ids
    else v.listing network := by
  change ((v.matchers.insert rule.network _)[network]?.getD .empty).ids = _
  rw [Table.getElem?_insert]
  split <;> rfl

theorem listing_delist (network : Network) : (v.delist rule matcher).listing network =
    if rule.network = network then matcher.ids.filter (·.toUInt32 != rule.id)
    else v.listing network := by
  change ((v.matchers.insert rule.network _)[network]?.getD .empty).ids = _
  rw [Table.getElem?_insert]
  split
  · exact Matcher.ids_erase
  · rfl

/-! ### What one change adds -/

theorem Names.of_entered (names : (v.entered rule registry).Names network id) :
    v.Names network id ∨ (rule.network = network ∧ rule.id = id) := by
  rcases names with ⟨entry, found, key⟩ | listed
  · change (v.rules.insert rule.network rule.entry)[network]? = some entry at found
    rw [Table.getElem?_insert] at found
    split at found
    · rename_i same
      cases found
      exact .inr ⟨same, key⟩
    · exact .inl (.inl ⟨entry, found, key⟩)
  · exact .inl (.inr listed)

theorem Listed.of_enlist (read : v.Reads may rule.network matcher) (positive : 0 < rule.id)
    (small : rule.id.toNat < UInt16.size) (listed : (v.enlist rule matcher).Listed network id) :
    v.Listed network id ∨ (rule.network = network ∧ rule.id = id) := by
  obtain ⟨slot, listed, key⟩ := listed
  rw [listing_enlist] at listed
  split at listed
  · rename_i same
    have old (member : slot ∈ matcher.ids) : v.Listed network id :=
      same ▸ key ▸ read.listed member
    cases inserted : matcher.insert? rule.id with
    | none =>
      -- Without room the matcher is written back as it was read.
      rw [inserted, Option.getD_none] at listed
      exact .inl (old listed)
    | some matcher' =>
      rw [inserted, Option.getD_some, (Matcher.perm_ids_insert? inserted positive).mem_iff,
        List.mem_cons] at listed
      rcases listed with rfl | member
      · rw [toUInt32_toUInt16 small] at key
        exact .inr ⟨same, key⟩
      · exact .inl (old member)
  · exact .inl ⟨slot, listed, key⟩

theorem Names.of_released (names : (v.released rule).Names network id) : v.Names network id ∨
    ∃ kept ∈ v.registry.toList, kept.network = network ∧ kept.id = id ∧ id ≠ rule.id := by
  rcases names with ⟨entry, found, key⟩ | listed
  · cases survivor : Service.survivor? v.registry rule with
    | some kept =>
      -- The record of the network is handed to another rule on it.
      obtain ⟨member, other, on⟩ := Registry.survivor?_spec survivor
      rw [rules_released_of_shared survivor, Table.getElem?_insert] at found
      split at found
      · rename_i same
        cases found
        exact .inr ⟨kept, member, on.trans same, key, key ▸ other⟩
      · exact .inl (.inl ⟨entry, found, key⟩)
    | none =>
      rw [rules_released_of_alone survivor] at found
      exact .inl (.inl ⟨entry, Table.getElem?_of_erase found, key⟩)
  · exact .inl (.inr listed)

theorem Listed.of_delist (read : v.Reads may rule.network matcher)
    (listed : (v.delist rule matcher).Listed network id) : v.Listed network id := by
  obtain ⟨slot, listed, key⟩ := listed
  rw [listing_delist] at listed
  split at listed
  · rename_i same
    exact same ▸ key ▸ read.listed (List.mem_filter.mp listed).1
  · exact ⟨slot, listed, key⟩

theorem not_names_unlisted (counters : Std.ExtTreeMap UInt32 UInt64) :
    ¬ (v.unlisted rule counters matcher).Names rule.network rule.id := by
  rintro (⟨entry, found, key⟩ | ⟨slot, listed, key⟩)
  · change (v.released rule).rules[rule.network]? = some entry at found
    cases survivor : Service.survivor? v.registry rule with
    | some kept =>
      rw [rules_released_of_shared survivor, Std.ExtTreeMap.getElem?_insert_self] at found
      cases found
      exact (Registry.survivor?_spec survivor).2.1 key
    | none =>
      rw [rules_released_of_alone survivor, Std.ExtTreeMap.getElem?_erase_self] at found
      cases found
  · rw [unlisted, listing_delist, if_pos rfl, List.mem_filter, bne_iff_ne] at listed
    exact listed.2 key

/-! ### What a call adds -/

theorem Setting.listed {r : Except ServiceError UInt32} (step : Setting may v given r w)
    (keyed : v.registry.Keyed) (listed : w.Listed network id) : v.Listed network id ∨
      (given.network = network ∧ id = v.registry.nextId ∧
        (r = .ok id ∨ r = .error Operation.insertAdvRule.failure)) := by
  cases step with
  | refused | unentered | unlisted => exact .inl listed
  | unrecorded rule registry prepared matcher read =>
    obtain ⟨-, -, -, positive, small⟩ := keyed.install prepared
    obtain ⟨rfl, -⟩ := Registry.prepare_ok prepared
    exact (Listed.of_enlist read positive small listed).imp_right fun ⟨on, key⟩ =>
      ⟨on, key.symm, .inr rfl⟩
  | installed rule registry prepared matcher read =>
    obtain ⟨-, -, -, positive, small⟩ := keyed.install prepared
    obtain ⟨rfl, -⟩ := Registry.prepare_ok prepared
    exact (Listed.of_enlist read positive small listed).imp_right fun ⟨on, key⟩ =>
      ⟨on, key.symm, .inl (congrArg _ key)⟩

theorem Setting.names {r : Except ServiceError UInt32} (step : Setting may v given r w)
    (keyed : v.registry.Keyed) (names : w.Names network id) :
    v.Names network id ∨ (given.network = network ∧ id = v.registry.nextId) := by
  rcases names with recorded | listed
  · have entered (rule : Rule) (registry : Registry)
        (prepared : v.registry.prepare given = .ok (rule, registry))
        (names : (v.entered rule registry).Names network id) :
        v.Names network id ∨ (given.network = network ∧ id = v.registry.nextId) := by
      obtain ⟨rfl, -⟩ := Registry.prepare_ok prepared
      exact names.of_entered.imp_right fun ⟨on, key⟩ => ⟨on, key.symm⟩
    cases step with
    | refused | unentered => exact .inl (.inl recorded)
    | unlisted rule registry prepared | unrecorded rule registry prepared
    | installed rule registry prepared => exact entered rule registry prepared (.inl recorded)
  · exact (step.listed keyed listed).imp .inr fun ⟨on, key, _⟩ => ⟨on, key⟩

theorem Deleting.listed_of {r : Except ServiceError Unit} (step : Deleting may v id r w)
    (listed : w.Listed network i) : v.Listed network i := by
  cases step with
  | unknown | unreleased | listed => exact listed
  | recorded rule _ _ _ _ read | deleted rule _ _ _ _ read =>
    exact Listed.of_delist read listed

theorem Deleting.names {r : Except ServiceError Unit} (step : Deleting may v id r w)
    (keyed : v.registry.Keyed) (names : w.Names network i) : v.Names network i ∨
      (i ≠ id ∧ ∃ kept, v.registry.get? i = some kept ∧ kept.network = network) := by
  rcases names with recorded | listed
  · have released (rule : Rule) (known : v.registry.get? id = some rule)
        (names : (v.released rule).Names network i) : v.Names network i ∨
          (i ≠ id ∧ ∃ kept, v.registry.get? i = some kept ∧ kept.network = network) := by
      rcases names.of_released with old | ⟨kept, member, on, rfl, other⟩
      · exact .inl old
      · rw [(keyed.ids id rule known).1] at other
        exact .inr ⟨other, kept, keyed.known member, on⟩
    cases step with
    | unknown | unreleased => exact .inl (.inl recorded)
    | listed rule known | recorded rule known | deleted rule known =>
      exact released rule known (.inl recorded)
  · exact .inl (.inr (step.listed_of listed))

/-! ### What holds whatever fails -/

structure Traceable (v : Snapshot) : Prop where
  keyed : v.registry.Keyed
  advRules : ∀ id : UInt32, v.advRules[id]? = (v.registry.get? id).map Rule.entry
  named : ∀ network id, v.Names network id → id < v.registry.nextId ∧
    ∀ rule, v.registry.get? id = some rule → rule.network = network

theorem Traceable.start : Course.start.service.snapshot.Traceable where
  keyed := Agrees.start.keyed
  advRules id := rfl
  named network id names := by
    rcases names with ⟨entry, found, -⟩ | ⟨slot, listed, -⟩
    · cases found
    · change slot ∈ Matcher.empty.ids at listed
      rw [Matcher.ids_empty] at listed
      cases listed

theorem Setting.uses_id {r : Except ServiceError UInt32} (step : Setting may v given r w)
    (keyed : v.registry.Keyed) : w = v ∨ v.registry.nextId < w.registry.nextId := by
  have used (rule : Rule) (registry : Registry)
      (prepared : v.registry.prepare given = .ok (rule, registry)) :
      v.registry.nextId < registry.nextId := by
    obtain ⟨-, rfl, -⟩ := Registry.prepare_ok prepared
    exact lt_succ_of_le keyed.room (UInt32.le_refl _)
  cases step with
  | refused => exact .inl rfl
  | unentered rule registry prepared | unlisted rule registry prepared
  | unrecorded rule registry prepared => exact .inr (used rule registry prepared)
  | installed rule registry prepared => exact .inr (used rule registry prepared)

theorem Traceable.setting {r : Except ServiceError UInt32} (h : v.Traceable)
    (step : Setting may v given r w) : w.Traceable := by
  obtain ⟨keyed, grown, kept⟩ := step.kept h.keyed
  constructor
  case keyed => exact keyed
  case advRules =>
    intro i
    cases step with
    | refused => exact h.advRules i
    | unentered rule registry prepared | unlisted rule registry prepared
    | unrecorded rule registry prepared =>
      obtain ⟨-, rfl, -⟩ := Registry.prepare_ok prepared
      exact h.advRules i
    | installed rule registry prepared =>
      obtain ⟨rfl, rfl, -⟩ := Registry.prepare_ok prepared
      change (v.advRules.insert _ _)[i]? = (Registry.get? (Registry.insert _ _) i).map Rule.entry
      rw [Table.getElem?_insert, Registry.get?_insert, h.advRules i]
      split <;> rfl
  case named =>
    intro network i names
    rcases step.uses_id h.keyed with rfl | used
    · exact h.named network i names
    rcases step.names h.keyed names with old | ⟨on, rfl⟩
    · obtain ⟨below, own⟩ := h.named network i old
      exact ⟨UInt32.lt_of_lt_of_le below grown, fun rule known => own rule (kept i below ▸ known)⟩
    · -- The id is new: only the rule that is being set can have it.
      refine ⟨used, fun rule known => ?_⟩
      cases r with
      | error e =>
        rw [show w.registry.get? _ = _ from congrArg (·[_]?) (step.failed h.keyed).2.1] at known
        exact absurd (h.keyed.ids _ rule known).2.2 (UInt32.lt_irrefl _)
      | ok id =>
        rw [step.get?, if_pos rfl] at known
        cases known
        exact on

theorem Traceable.deleting {r : Except ServiceError Unit} (h : v.Traceable)
    (step : Deleting may v id r w) : w.Traceable := by
  obtain ⟨keyed, nextId, kept⟩ := step.kept h.keyed
  have earlier (i : UInt32) (rule : Rule) (known : w.registry.get? i = some rule) :
      v.registry.get? i = some rule := by
    rcases kept i with same | ⟨-, gone⟩
    · exact same ▸ known
    · rw [gone] at known
      cases known
  constructor
  case keyed => exact keyed
  case advRules =>
    intro i
    cases step with
    | unknown | unreleased | listed | recorded => exact h.advRules i
    | deleted =>
      change (v.advRules.erase id)[i]? = ((v.registry.erase id).get? i).map Rule.entry
      rw [Table.getElem?_erase, Registry.get?_erase, h.advRules i]
      split <;> rfl
  case named =>
    intro network i names
    rw [nextId]
    rcases step.names h.keyed names with old | ⟨-, kept, known, on⟩
    · obtain ⟨below, own⟩ := h.named network i old
      exact ⟨below, fun rule known => own rule (earlier i rule known)⟩
    · refine ⟨(h.keyed.ids i kept known).2.2, fun rule there => ?_⟩
      cases known.symm.trans (earlier i rule there)
      exact on

/-! ### Rules that are gone -/

/-- The id was given out, and neither a rule nor the tables of a network have it any more. -/
structure Gone (v : Snapshot) (id : UInt32) : Prop where
  given : id < v.registry.nextId
  absent : v.registry.get? id = none
  unnamed : ∀ network, ¬ v.Names network id

theorem Gone.setting {r : Except ServiceError UInt32} (gone : v.Gone i) (h : v.Traceable)
    (step : Setting may v given r w) : w.Gone i := by
  obtain ⟨-, grown, kept⟩ := step.kept h.keyed
  refine ⟨UInt32.lt_of_lt_of_le gone.given grown, (kept i gone.given).trans gone.absent, ?_⟩
  intro network names
  rcases step.names h.keyed names with old | ⟨-, rfl⟩
  · exact gone.unnamed network old
  · exact UInt32.lt_irrefl _ gone.given

theorem Gone.deleting {r : Except ServiceError Unit} (gone : v.Gone i) (h : v.Traceable)
    (step : Deleting may v id r w) : w.Gone i := by
  obtain ⟨-, nextId, kept⟩ := step.kept h.keyed
  refine ⟨nextId ▸ gone.given, ?_, fun network names => ?_⟩
  · rcases kept i with same | ⟨-, none⟩
    · exact same.trans gone.absent
    · exact none
  · rcases step.names h.keyed names with old | ⟨-, kept, known, -⟩
    · exact gone.unnamed network old
    · rw [gone.absent] at known
      cases known

theorem Traceable.gone (h : v.Traceable) (known : v.registry.get? id = some rule)
    (step : Deleting may v id (.ok ()) w) : w.Gone id := by
  obtain ⟨key, -, below⟩ := h.keyed.ids id rule known
  refine ⟨step.erased ▸ below, ?_, fun network names => ?_⟩
  · rw [step.erased, Registry.get?_erase, if_pos rfl]
  · -- Only the tables of its network named the rule, and they were rewritten.
    rcases step.names h.keyed names with old | ⟨other, -⟩
    · obtain rfl := (h.named network id old).2 rule known
      cases step with
      | unknown absent =>
        rw [known] at absent
        cases absent
      | deleted rule' known' counters _ matcher =>
        cases known.symm.trans known'
        subst key
        exact not_names_unlisted counters names
    · exact other rfl

theorem Gone.forgets (gone : v.Gone id) (h : v.Traceable) (positive : 0 < id) : v.Forgets id where
  registry := gone.absent
  rules network entry found key := gone.unnamed network (.inl ⟨entry, found, key⟩)
  matchers network matcher found slot member key := by
    refine gone.unnamed network (.inr ⟨slot, ?_, key⟩)
    rw [listing, found, Option.getD_some, Matcher.mem_ids]
    refine ⟨member, fun zero => ?_⟩
    rw [← key, zero] at positive
    exact absurd positive (by decide)
  advRules := by rw [h.advRules, gone.absent, Option.map_none]

/-! ### Calls -/

def Step (may : Operation → Prop) (v : Snapshot) : Request → Snapshot → Prop
  | .setRule given, w => ∃ r, v.Setting may given r w
  | .deleteRule id, w => ∃ r, v.Deleting may id r w
  | .countDrops counters, w => w = {v with dropCounters := counters}

theorem Traceable.step {request : Request} (h : v.Traceable) (step : v.Step may request w) :
    w.Traceable := by
  cases request with
  | setRule given =>
    obtain ⟨r, step⟩ := step
    exact h.setting step
  | deleteRule id =>
    obtain ⟨r, step⟩ := step
    exact h.deleting step
  | countDrops counters =>
    cases step
    exact {h with}

theorem Gone.step {request : Request} (gone : v.Gone i) (h : v.Traceable)
    (step : v.Step may request w) : w.Gone i := by
  cases request with
  | setRule given =>
    obtain ⟨r, step⟩ := step
    exact gone.setting h step
  | deleteRule id =>
    obtain ⟨r, step⟩ := step
    exact gone.deleting h step
  | countDrops counters =>
    cases step
    exact {gone with}

end Snapshot

namespace Course

variable {t : Course}

theorem step (t : Course) (c : Call) :
    t.service.snapshot.Step c.faults.MayFail c.request (t.after c).service.snapshot := by
  obtain ⟨request, faults⟩ := c
  cases request with
  | setRule given => exact ⟨_, t.service.setting faults given⟩
  | deleteRule id => exact ⟨_, t.service.deleting faults id⟩
  | countDrops counters => rfl

theorem run_traceable (calls : List Call) : (run calls).service.snapshot.Traceable :=
  run_induction (motive := fun t => t.service.snapshot.Traceable) calls .start
    fun c _ t h => h.step (t.step c)

theorem gone_append {id : UInt32} (before after : List Call)
    (gone : (run before).service.snapshot.Gone id) :
    (run (before ++ after)).service.snapshot.Gone id := by
  induction after using List.reverseRecOn with
  | nil =>
    rw [List.append_nil]
    exact gone
  | append_singleton after c ih =>
    rw [← List.append_assoc, run, List.foldl_append]
    exact ih.step (run_traceable _) ((run (before ++ after)).step c)

/-- In any run, whatever fails: the records by id are those of the installed rules, and of a rule
whose deletion succeeded nothing is left, then and later. -/
theorem run_forgets_deleted (calls : List Call) :
    (∀ id entry, (run calls).service.snapshot.advRules[id]? = some entry ↔
      ∃ rule ∈ (run calls).service.registry.toList, rule.id = id ∧ rule.entry = entry) ∧
    ∀ before faults id after, calls = before ++ ⟨.deleteRule id, faults⟩ :: after →
      (∃ rule, (run before).service.registry.get? id = some rule) →
      ((run before).service.outcome faults (Service.deleteRule id)).answer = .ok () →
      (run calls).service.snapshot.Forgets id := by
  have whole := run_traceable calls
  refine ⟨fun id entry => ?_, ?_⟩
  · rw [whole.advRules, Option.map_eq_some_iff]
    constructor
    · rintro ⟨rule, known, same⟩
      exact ⟨rule, Registry.mem_toList.mpr ⟨id, known⟩, (whole.keyed.ids id rule known).1, same⟩
    · rintro ⟨rule, member, rfl, same⟩
      exact ⟨rule, whole.keyed.known member, same⟩
  · rintro before faults id after rfl ⟨rule, known⟩ ok
    have earlier := run_traceable before
    have step := (run before).service.deleting faults id
    rw [ok] at step
    have gone : (run (before ++ [⟨.deleteRule id, faults⟩])).service.snapshot.Gone id := by
      rw [run, List.foldl_append]
      exact earlier.gone known step
    have later := gone_append _ after gone
    rw [List.append_assoc, List.singleton_append] at later
    exact later.forgets whole (earlier.keyed.ids id rule known).2.1

def Sample.unrecorded : Call :=
  {Sample.tcp with faults := {plan := fun _ o => o == .insertAdvRule}}

/-- The first rule cannot be set, and the second one cannot be deleted at once. -/
theorem run_forgets_deleted_resumed :
    let before := [Sample.unrecorded, Sample.tcp, Sample.udp, ⟨.deleteRule 2, Sample.frozen⟩]
    let s := (run before).service
    (s.registry.get? 2).isSome = true ∧
      (s.outcome .none (Service.deleteRule 2)).answer = .ok () ∧
      (run (before ++ [⟨.deleteRule 2, .none⟩, Sample.tcp])).service.snapshot.Forgets 2 := by
  intro before s
  have there : (s.registry.get? 2).isSome = true := by decide +kernel
  have ok : (s.outcome .none (Service.deleteRule 2)).answer = .ok () := by decide +kernel
  exact ⟨there, ok, (run_forgets_deleted _).2 before .none 2 [Sample.tcp] rfl
    (Option.isSome_iff_exists.mp there) ok⟩

end Course
end EdgeControl.Firewall
