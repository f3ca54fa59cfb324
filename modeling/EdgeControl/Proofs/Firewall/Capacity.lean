import EdgeControl.Proofs.Firewall.Leftovers
import Mathlib.Data.List.Nodup

/-!
When a new rule gets a slot in the matcher of its network. Every taken slot has the id of an
installed rule, or an id that was lost to a rule that could not be recorded after its id was put
into the matcher. So there is a slot as long as the installed rules and the lost ids are few enough.
-/
namespace EdgeControl.Firewall

namespace Snapshot

variable {may : Operation → Prop} {v w : Snapshot} {given rule : Rule} {network : Network}
  {matcher : Matcher} {id : UInt32} {lost : List UInt32}

/-! ### Putting a new id into a matcher -/

theorem listed_enlist_iff (read : v.Reads may rule.network matcher)
    (new : ¬ v.Listed rule.network rule.id) (positive : 0 < rule.id)
    (small : rule.id.toNat < UInt16.size) :
    (v.enlist rule matcher).Listed rule.network rule.id ↔ matcher.ids.length < 16 := by
  rw [Listed, listing_enlist, if_pos rfl, ← Matcher.insert?_isSome_iff small]
  cases inserted : matcher.insert? rule.id with
  | none =>
    rw [Option.getD_none]
    constructor
    · rintro ⟨slot, member, key⟩
      exact absurd (key ▸ read.listed member) new
    · intro room
      cases room
  | some matcher' =>
    have member : rule.id.toUInt16 ∈ matcher'.ids :=
      (Matcher.perm_ids_insert? inserted positive).mem_iff.mpr List.mem_cons_self
    exact iff_of_true ⟨_, member, toUInt32_toUInt16 small⟩ rfl

theorem Reads.nodup (read : v.Reads may network matcher) (apart : (v.listing network).Nodup) :
    matcher.ids.Nodup := by
  rcases read.ids_eq with kept | ⟨-, none⟩
  · rw [kept]
    exact apart
  · rw [none]
    exact List.nodup_nil

theorem nodup_listing_enlist (read : v.Reads may rule.network matcher)
    (new : ¬ v.Listed rule.network rule.id) (positive : 0 < rule.id)
    (small : rule.id.toNat < UInt16.size) (apart : (v.listing network).Nodup) :
    ((v.enlist rule matcher).listing network).Nodup := by
  rw [listing_enlist]
  split
  · rename_i same
    have apart : matcher.ids.Nodup := read.nodup (same ▸ apart)
    cases inserted : matcher.insert? rule.id with
    | none => exact apart
    | some matcher' =>
      refine (Matcher.perm_ids_insert? inserted positive).nodup_iff.mpr
        (List.nodup_cons.mpr ⟨fun member => new ?_, apart⟩)
      have listed := read.listed member
      rwa [toUInt32_toUInt16 small] at listed
  · exact apart

theorem nodup_listing_delist (read : v.Reads may rule.network matcher)
    (apart : (v.listing network).Nodup) : ((v.delist rule matcher).listing network).Nodup := by
  rw [listing_delist]
  split
  · rename_i same
    exact (read.nodup (same ▸ apart)).filter _
  · exact apart

theorem Traceable.fresh (h : v.Traceable) : ¬ v.Listed network v.registry.nextId :=
  fun listed => UInt32.lt_irrefl _ (h.named network _ (.inr listed)).1

theorem Setting.recorded (step : Setting may v given (.ok id) w) :
    w.rules[given.network]? = some {given with id, dropCount := 0}.entry ∧
      w.advRules[id]? = some {given with id, dropCount := 0}.entry := by
  cases step with
  | installed rule registry prepared =>
    obtain ⟨rfl, -⟩ := Registry.prepare_ok prepared
    exact ⟨Std.ExtTreeMap.getElem?_insert_self, Std.ExtTreeMap.getElem?_insert_self⟩

theorem Setting.listed_of_free (step : Setting may v given (.ok id) w) (h : v.Traceable) :
    ((v.listing given.network).length < 16 → w.Listed given.network id) ∧
      (¬ may .matcher → w.Listed given.network id → (v.listing given.network).length < 16) := by
  cases step with
  | installed rule registry prepared matcher read =>
    obtain ⟨-, -, -, positive, small⟩ := h.keyed.install prepared
    obtain ⟨rfl, -⟩ := Registry.prepare_ok prepared
    have listed_iff := listed_enlist_iff read h.fresh positive small
    constructor
    · intro free
      refine listed_iff.mpr ?_
      rcases read.ids_eq with kept | ⟨-, none⟩
      · rw [kept]
        exact free
      · rw [none]
        decide
    · intro readable listed
      have room := listed_iff.mp listed
      rwa [read.ids_eq.resolve_right fun fault => readable fault.1] at room

/-! ### The ids in the slots -/

/-- No id is in two slots of the network's matcher, and each one is that of an installed rule on the
network or one of the lost ids. -/
structure Accounted (v : Snapshot) (network : Network) (lost : List UInt32) : Prop where
  apart : (v.listing network).Nodup
  owned : ∀ id, v.Listed network id →
    (∃ rule, v.registry.get? id = some rule ∧ rule.network = network) ∨ id ∈ lost

theorem Accounted.start (network : Network) :
    Course.start.service.snapshot.Accounted network [] := by
  have none : Course.start.service.snapshot.listing network = [] := Matcher.ids_empty
  constructor
  · rw [none]
    exact List.nodup_nil
  · rintro id ⟨slot, member, -⟩
    rw [none] at member
    cases member

theorem Accounted.length_le (h : v.Accounted network lost) (keyed : v.registry.Keyed) :
    (v.listing network).length ≤
      (rulesOn v.registry.toList network).length + lost.length := by
  have apart : ((v.listing network).map UInt16.toUInt32).Nodup :=
    h.apart.map fun _ _ same => UInt16.toUInt32_inj.mp same
  have owned : (v.listing network).map UInt16.toUInt32 ⊆
      (rulesOn v.registry.toList network).map Rule.id ++ lost := by
    intro id member
    obtain ⟨slot, member, key⟩ := List.mem_map.mp member
    rw [List.mem_append, List.mem_map]
    refine (h.owned id ⟨slot, member, key⟩).imp_left fun ⟨rule, known, on⟩ => ?_
    exact ⟨rule, mem_rulesOn.mpr ⟨Registry.mem_toList.mpr ⟨id, known⟩, on⟩,
      (keyed.ids id rule known).1⟩
  have bound := apart.length_le_of_subset owned
  rwa [List.length_map, List.length_append, List.length_map] at bound

def idLost (v : Snapshot) (network : Network) (given : Rule) (r : Except ServiceError UInt32) :
    List UInt32 :=
  if given.network = network ∧ r = .error Operation.insertAdvRule.failure then [v.registry.nextId]
  else []

theorem Accounted.setting {r : Except ServiceError UInt32} (h : v.Accounted network lost)
    (traceable : v.Traceable) (step : Setting may v given r w) :
    w.Accounted network (lost ++ v.idLost network given r) := by
  constructor
  case apart =>
    have enlisted (rule : Rule) (registry : Registry)
        (prepared : v.registry.prepare given = .ok (rule, registry)) (matcher : Matcher)
        (read : v.Reads may rule.network matcher) :
        ((v.enlist rule matcher).listing network).Nodup := by
      obtain ⟨-, -, -, positive, small⟩ := traceable.keyed.install prepared
      obtain ⟨rfl, -⟩ := Registry.prepare_ok prepared
      exact nodup_listing_enlist read traceable.fresh positive small h.apart
    cases step with
    | refused | unentered | unlisted => exact h.apart
    | unrecorded rule registry prepared matcher read
    | installed rule registry prepared matcher read =>
      exact enlisted rule registry prepared matcher read
  case owned =>
    intro id listed
    rcases step.listed traceable.keyed listed with old | ⟨on, rfl, rfl | rfl⟩
    · obtain ⟨-, -, kept⟩ := step.kept traceable.keyed
      rw [kept id (traceable.named network id (.inr old)).1]
      exact (h.owned id old).imp_right (List.mem_append_left _)
    · exact .inl ⟨_, (step.get? _).trans (if_pos rfl), on⟩
    · refine .inr (List.mem_append_right _ ?_)
      rw [idLost, if_pos ⟨on, rfl⟩]
      exact List.mem_singleton_self _

theorem Accounted.deleting {r : Except ServiceError Unit} (h : v.Accounted network lost)
    (traceable : v.Traceable) (step : Deleting may v id r w) : w.Accounted network lost := by
  constructor
  case apart =>
    cases step with
    | unknown | unreleased | listed => exact h.apart
    | recorded rule _ _ _ matcher read | deleted rule _ _ _ matcher read =>
      exact nodup_listing_delist read h.apart
  case owned =>
    intro i listed
    refine (h.owned i (step.listed_of listed)).imp_left fun ⟨rule, known, on⟩ => ?_
    rcases step.registry with ⟨_, -, same⟩ | ⟨rfl, same⟩
    · exact ⟨rule, same ▸ known, on⟩
    · refine ⟨rule, ?_, on⟩
      rw [same, Registry.get?_erase, if_neg, known]
      -- The deleted rule is not listed any more.
      rintro rfl
      exact (traceable.gone known step).unnamed network (.inr listed)

end Snapshot

namespace Course

variable {t : Course} {network : Network} {ids : List UInt32}

def lostBy (t : Course) (network : Network) (c : Call) : List UInt32 :=
  match c.request with
  | .setRule given => t.service.snapshot.idLost network given
      (t.service.outcome c.faults (Service.setRule given)).answer
  | .deleteRule _ | .countDrops _ => []

/-- The ids that the calls lose to the network: those of its rules that were put into its matcher
and then could not be recorded. -/
def lost (network : Network) : Course → List Call → List UInt32
  | _, [] => []
  | t, c :: calls => t.lostBy network c ++ lost network (t.after c) calls

theorem accounted_after (accounted : t.service.snapshot.Accounted network ids)
    (traceable : t.service.snapshot.Traceable) (c : Call) :
    (t.after c).service.snapshot.Accounted network (ids ++ t.lostBy network c) := by
  obtain ⟨request, faults⟩ := c
  cases request with
  | setRule given => exact accounted.setting traceable (t.service.setting faults given)
  | deleteRule id =>
    rw [lostBy, List.append_nil]
    exact accounted.deleting traceable (t.service.deleting faults id)
  | countDrops counters =>
    rw [lostBy, List.append_nil]
    exact {accounted with}

theorem accounted_foldl (calls : List Call)
    (accounted : t.service.snapshot.Accounted network ids)
    (traceable : t.service.snapshot.Traceable) :
    (calls.foldl after t).service.snapshot.Accounted network (ids ++ t.lost network calls) := by
  -- What the first call loses counts as lost before the others.
  induction calls generalizing t ids with
  | nil =>
    rw [lost, List.append_nil]
    exact accounted
  | cons c calls ih =>
    rw [lost, ← List.append_assoc]
    exact ih (accounted_after accounted traceable c) (traceable.step (t.step c))

theorem run_accounted (calls : List Call) (network : Network) :
    (run calls).service.snapshot.Accounted network (start.lost network calls) :=
  accounted_foldl calls (.start network) .start

/-- In any run, whatever fails: a rule that is set is installed, and the records of its network and
of its id are its own. It gets a slot in the matcher if one is free, and only then as long as the
matcher can be read. A slot is free if, with the new rule, the installed rules on the network and
the ids lost to the network are at most as many as there are slots. -/
theorem new_rule_enforced_of_room (calls : List Call) (faults : Faults) (given : Rule) (id : UInt32)
    (ok : ((run calls).service.outcome faults (Service.setRule given)).answer = .ok id) :
    let v := (run calls).service.snapshot
    let w := ((run calls).service.outcome faults (Service.setRule given)).state.snapshot
    let rule := {given with id, dropCount := 0}
    rule ∈ w.registry.toList ∧ w.rules[given.network]? = some rule.entry ∧
      w.advRules[id]? = some rule.entry ∧
      ((v.listing given.network).length < 16 → w.Listed given.network id) ∧
      (¬ faults.MayFail .matcher →
        w.Listed given.network id → (v.listing given.network).length < 16) ∧
      ((rulesOn w.registry.toList given.network).length +
        (start.lost given.network calls).length ≤ 16 →
          (v.listing given.network).length < 16) := by
  intro v w rule
  have traceable : v.Traceable := run_traceable calls
  have accounted : v.Accounted given.network _ := run_accounted calls given.network
  have step : Snapshot.Setting faults.MayFail v given (.ok id) w :=
    ok ▸ (run calls).service.setting faults given
  clear_value w v
  obtain ⟨free, only⟩ := step.listed_of_free traceable
  obtain ⟨-, prepared, same⟩ := step.succeeded
  obtain ⟨-, grown, -⟩ := traceable.keyed.install prepared
  rw [← same] at grown
  refine ⟨?_, step.recorded.1, step.recorded.2, free, only, fun few => ?_⟩
  · rw [grown]
    exact List.mem_append_right _ (List.mem_singleton_self _)
  · -- Before the call there was one rule less, so one slot was free.
    have taken := accounted.length_le traceable.keyed
    rw [grown, rulesOn_append, if_pos rfl, List.length_append, List.length_singleton] at few
    omega

/-- The only rule on its network, after as many that could not be recorded as there are slots. -/
theorem unrecorded_rules_fill_matcher :
    let s := (run (List.replicate 16 Sample.unrecorded)).service
    let o := s.outcome .none (Service.setRule (.blockHost Sample.host .tcp))
    o.answer = .ok 17 ∧
      (rulesOn o.state.registry.toList (.host Sample.host)).map Rule.id = [17] ∧
      ¬ o.state.snapshot.Listed (.host Sample.host) 17 := by
  intro s o
  exact ⟨by decide +kernel, by decide +kernel, by decide +kernel⟩

/-- One id lost and two rules installed. -/
theorem new_rule_enforced_of_room_shared :
    let s := (run [Sample.unrecorded, Sample.tcp]).service
    let o := s.outcome .none (Service.setRule (.blockHost Sample.host .udp))
    o.answer = .ok 3 ∧ start.lost (.host Sample.host) [Sample.unrecorded, Sample.tcp] = [1] ∧
      o.state.snapshot.Listed (.host Sample.host) 3 := by
  intro s o
  have ok : o.answer = .ok 3 := by decide +kernel
  obtain ⟨-, -, -, listed, -, free⟩ := new_rule_enforced_of_room [Sample.unrecorded, Sample.tcp]
    .none (.blockHost Sample.host .udp) 3 ok
  exact ⟨ok, by decide +kernel, listed (free (by decide +kernel))⟩

end Course
end EdgeControl.Firewall
