import EdgeControl.Proofs.Firewall.Leftovers

/-!
What the deletion of a rule does to the other rules. They keep their records, and their networks
keep theirs, whatever fails. The matcher of the rule's network is written as a whole: when it cannot
be read, the ids of the other rules on the network are lost with the deleted one.
-/
namespace EdgeControl

def Faults.always (ops : Operation → Bool) : Faults := {plan := fun _ op => ops op}

theorem Memory.ensures_ask_always {m : Memory} {ops : Operation → Bool} {op : Operation}
    {post : Except ServiceError Unit → Memory → Prop}
    (plan : m.faults.plan = (Faults.always ops).plan)
    (fails : ops op = true → post (.error op.failure) m.asked)
    (works : ops op = false → post (.ok ()) m.asked) : (ask op).Ensures m post := by
  have exact : m.faults.fails op = ops op := congrFun (congrFun plan _) op
  refine .get_bind (.set_bind ?_)
  rw [exact]
  cases failing : ops op with
  | true => exact .throw (fails failing)
  | false => exact .pure (works failing)

namespace Firewall

open EdgeControl.Action

namespace Snapshot

variable {may : Operation → Prop} {v w : Snapshot} {rule other : Rule} {network : Network}
  {id : UInt32} {ops : Operation → Bool} {most : Network → Nat}

/-! ### The tables that the rules share -/

def relisted (v : Snapshot) (rule : Rule) (ops : Operation → Bool) :
    Std.ExtTreeMap Network Matcher :=
  if ops .insertRule || ops .setMatcher then v.matchers
  else (v.delist rule (if ops .matcher then .empty
    else v.matchers[rule.network]?.getD .empty)).matchers

theorem listing_of_relisted (relisted : w.matchers = v.relisted rule ops) :
    w.listing rule.network =
      if ops .insertRule || ops .setMatcher then v.listing rule.network
      else if ops .matcher then []
      else (v.listing rule.network).filter (·.toUInt32 != rule.id) := by
  rw [listing, relisted, Snapshot.relisted]
  split
  · rfl
  · refine (listing_delist rule.network).trans ((if_pos rfl).trans ?_)
    split
    · rw [Matcher.ids_empty, List.filter_nil]
    · rfl

/-- Another rule stays in the matcher, unless the matcher is written without having been read. -/
theorem listed_relisted_iff (relisted : w.matchers = v.relisted rule ops)
    (apart : other.id ≠ rule.id) (on : other.network = rule.network)
    (listed : v.Listed other.network other.id) : w.Listed other.network other.id ↔
      ¬ (ops .matcher = true ∧ ops .insertRule = false ∧ ops .setMatcher = false) := by
  obtain ⟨slot, member, key⟩ := listed
  rw [on] at member
  have kept : slot ∈ (v.listing rule.network).filter (·.toUInt32 != rule.id) :=
    List.mem_filter.mpr ⟨member, bne_iff_ne.mpr (key ▸ apart)⟩
  rw [on, Listed, listing_of_relisted relisted]
  split
  · rename_i unwritten
    refine iff_of_true ⟨slot, member, key⟩ fun ⟨_, entered, written⟩ => ?_
    rw [entered, written] at unwritten
    cases unwritten
  · rename_i written
    rw [Bool.or_eq_true, not_or, Bool.not_eq_true, Bool.not_eq_true] at written
    split
    · rename_i unread
      refine iff_of_false ?_ (not_not_intro ⟨unread, written⟩)
      rintro ⟨_, none, -⟩
      cases none
    · rename_i read
      exact iff_of_true ⟨slot, kept, key⟩ fun blind => read blind.1

theorem Deleting.listing_of_ne {r : Except ServiceError Unit} (step : Deleting may v id r w)
    (known : v.registry.get? id = some rule) (away : rule.network ≠ network) :
    w.listing network = v.listing network := by
  cases step with
  | unknown | unreleased | listed => rfl
  | recorded rule' there _ _ matcher | deleted rule' there _ _ matcher =>
    cases known.symm.trans there
    exact (listing_delist network).trans (if_neg away)

theorem shared_of_sibling (listed : other ∈ v.registry.toList) (apart : other.id ≠ rule.id)
    (on : other.network = rule.network) :
    ∃ kept, Service.survivor? v.registry rule = some kept := by
  rw [← Option.ne_none_iff_exists', ne_eq, Registry.survivor?_eq_none_iff, not_not]
  exact ⟨other, listed, apart, on⟩

theorem mem_rules_released (listed : other ∈ v.registry.toList) (apart : other.id ≠ rule.id)
    (entered : other.network ∈ v.rules) : other.network ∈ (v.released rule).rules := by
  cases survivor : Service.survivor? v.registry rule with
  | some kept =>
    rw [rules_released_of_shared survivor]
    exact Std.ExtTreeMap.mem_insert.mpr (.inr entered)
  | none =>
    -- The record only goes when it is that of another network.
    rw [rules_released_of_alone survivor]
    refine Std.ExtTreeMap.mem_erase.mpr ⟨fun same => ?_, entered⟩
    obtain ⟨kept, some⟩ := shared_of_sibling listed apart (Std.LawfulEqCmp.eq_of_compare same).symm
    cases survivor.symm.trans some

theorem Deleting.spares {r : Except ServiceError Unit} (step : Deleting may v id r w)
    (h : v.Agrees most) (traceable : v.Traceable) (listed : other ∈ v.registry.toList)
    (apart : other.id ≠ id) :
    w.advRules[other.id]? = some other.entry ∧ other.network ∈ w.rules := by
  have known := h.keyed.known listed
  constructor
  · obtain ⟨-, -, kept⟩ := step.kept h.keyed
    have there := (kept other.id).resolve_right fun own => apart own.1
    rw [(traceable.deleting step).advRules, there, known, Option.map_some]
  · have entered : other.network ∈ v.rules :=
      Std.ExtTreeMap.contains_iff_mem.mp (h.recorded known).1
    have released (rule : Rule) (there : v.registry.get? id = some rule) :
        other.network ∈ (v.released rule).rules :=
      mem_rules_released listed ((h.keyed.ids id rule there).1 ▸ apart) entered
    cases step with
    | unknown | unreleased => exact entered
    | listed rule there | recorded rule there | deleted rule there => exact released rule there

end Snapshot

/-! ### A deletion on a shared network -/

namespace Service

variable {ops : Operation → Bool} {s t : Service Memory} {rule : Rule} {id : UInt32}

theorem matcherOf_always (plan : s.base.faults.plan = (Faults.always ops).plan) :
    (matcherOf rule).Ensures s fun r t => t.base.faults.plan = s.base.faults.plan ∧
      t.snapshot = s.snapshot ∧ r = .ok (if ops .matcher then .empty
        else s.base.matchers[rule.network]?.getD .empty) := by
  refine .bind (.result (.onPart (.bind (Memory.ensures_ask_always plan (fun fails => ?_)
    fun works => .get_bind (.pure ?_)))))
  · rw [fails]
    exact .note_bind (.pure ⟨rfl, rfl, rfl⟩)
  · rw [works]
    exact .pure ⟨rfl, rfl, rfl⟩

theorem forgetRule_always (plan : t.base.faults.plan = (Faults.always ops).plan)
    (entered : ops .insertRule = false) (same : t.base.matchers = s.base.matchers) :
    (do
      dropFromMatcher rule
      onBase (FirewallTables.removeAdvRule id)
      modify fun s => {s with registry := s.registry.erase id}
      .note (.info "firewall rule deleted" [("id", id), ("network", .display rule.network)]) :
        Action (Service Memory) Unit).Ensures t fun _ u =>
      u.base.matchers = s.snapshot.relisted rule ops := by
  refine .bind (.bind ((matcherOf_always plan).mono ?_))
  rintro _ u ⟨still, read, rfl⟩
  have unchanged : u.base.matchers = s.base.matchers :=
    (congrArg Snapshot.matchers read).trans same
  rw [Snapshot.relisted, entered, Bool.false_or]
  refine .note_bind (.onPart (.bind (Memory.ensures_ask_always (still.trans plan)
    (fun fails => ?_) fun works => .modify ?_)))
  · rw [fails, if_pos rfl]
    exact unchanged
  · rw [works, if_neg Bool.false_ne_true]
    have written : u.base.matchers.insert rule.network
        ((if ops .matcher then .empty else t.base.matchers[rule.network]?.getD .empty).erase
          rule.id) = (s.snapshot.delist rule (if ops .matcher then .empty
            else s.snapshot.matchers[rule.network]?.getD .empty)).matchers := by
      rw [unchanged, same]
      rfl
    refine .bind (.onPart (Memory.ensures_removeAdvRule (fun _ => ?_) (fun _ => ?_) fun _ => ?_))
    · exact written
    · exact written
    · exact .modify_bind (.note written)

theorem deleteRule_always (plan : s.base.faults.plan = (Faults.always ops).plan)
    (known : s.registry.get? id = some rule) {kept : Rule}
    (shared : survivor? s.registry rule = some kept) :
    (deleteRule id).Ensures s fun _ t => t.base.matchers = s.snapshot.relisted rule ops := by
  refine .get_bind ?_
  simp only [known]
  refine .bind (.get_bind ?_)
  simp only [shared]
  refine .note_bind (.onPart (.bind (Memory.ensures_ask_always plan (fun fails => ?_)
    fun entered => .modify ?_)))
  · rw [Snapshot.relisted, fails]
    rfl
  -- Whether the drop counter can be removed does not matter.
  refine .bind (.result (.onPart (Memory.ensures_removeDropCounter (fun _ => ?_) (fun _ => ?_)
    fun _ => ?_)))
  · exact .note_bind (forgetRule_always plan entered rfl)
  · exact .note_bind (forgetRule_always plan entered rfl)
  · exact forgetRule_always plan entered rfl

theorem matchers_deleteRule (s : Service Memory) (ops : Operation → Bool)
    (known : s.registry.get? id = some rule) {kept : Rule}
    (shared : survivor? s.registry rule = some kept) :
    (s.outcome (.always ops) (deleteRule id)).state.snapshot.matchers =
      s.snapshot.relisted rule ops :=
  deleteRule_always (s := {s with base := {s.base with faults := .always ops}}) rfl known shared #[]

end Service

namespace Course

/-- After any run without failures, an installed rule is deleted while some operations fail. Every
other rule keeps its record, and its network keeps one. And all of them stay in their matchers if
and only if it is not so that the matcher cannot be read, the writes up to the matcher's work, and
the matcher lists another rule. -/
theorem deletion_spares_others_iff (calls : List Call) (reliable : ∀ c ∈ calls, c.Reliable)
    (id : UInt32) (rule : Rule) (known : (run calls).service.registry.get? id = some rule)
    (ops : Operation → Bool) :
    let v := (run calls).service.snapshot
    let w := ((run calls).service.outcome (.always ops) (Service.deleteRule id)).state.snapshot
    (∀ other ∈ v.registry.toList, other.id ≠ id →
      w.advRules[other.id]? = some other.entry ∧ other.network ∈ w.rules) ∧
    ((∀ other ∈ v.registry.toList, other.id ≠ id →
        v.Listed other.network other.id → w.Listed other.network other.id) ↔
      ¬ (ops .matcher = true ∧ ops .insertRule = false ∧ ops .setMatcher = false ∧
        ∃ other ∈ v.registry.toList, other.id ≠ id ∧ other.network = rule.network ∧
          v.Listed other.network other.id)) := by
  intro v w
  have whole : (run calls).Faithful := run_induction calls ⟨rfl, Snapshot.Agrees.start⟩
    fun c member t h => h.after (reliable c member)
  have agrees : v.Agrees (run calls).most := whole.agrees
  have known : v.registry.get? id = some rule := known
  have step : Snapshot.Deleting (Faults.always ops).MayFail v id _ w :=
    (run calls).service.deleting (.always ops) id
  have relisted {kept : Rule} (shared : Service.survivor? v.registry rule = some kept) :
      w.matchers = v.relisted rule ops :=
    (run calls).service.matchers_deleteRule ops known shared
  have traceable : v.Traceable := run_traceable calls
  clear_value w v
  obtain rfl : rule.id = id := (agrees.keyed.ids id rule known).1
  have sibling {other : Rule} (listed : other ∈ v.registry.toList) (apart : other.id ≠ rule.id)
      (on : other.network = rule.network) (slot : v.Listed other.network other.id) :
      w.Listed other.network other.id ↔
        ¬ (ops .matcher = true ∧ ops .insertRule = false ∧ ops .setMatcher = false) := by
    obtain ⟨kept, shared⟩ := Snapshot.shared_of_sibling listed apart on
    exact Snapshot.listed_relisted_iff (relisted shared) apart on slot
  refine ⟨fun other listed apart => step.spares agrees traceable listed apart, ?_, ?_⟩
  · rintro spared ⟨unread, entered, written, other, listed, apart, on, slot⟩
    exact (sibling listed apart on slot).mp (spared other listed apart slot)
      ⟨unread, entered, written⟩
  · intro readable other listed apart slot
    by_cases on : other.network = rule.network
    · refine (sibling listed apart on slot).mpr fun ⟨unread, entered, written⟩ => ?_
      exact readable ⟨unread, entered, written, other, listed, apart, on, slot⟩
    · rw [Snapshot.Listed, step.listing_of_ne known (Ne.symm on)]
      exact slot

/-- Two rules on one network. The deletion of the first one succeeds, and the second one is not in
the matcher any more. -/
theorem unread_matcher_drops_sibling :
    let s := (run [Sample.tcp, Sample.udp]).service
    let deleted := s.outcome (.always (· == .matcher)) (Service.deleteRule 1)
    s.snapshot.Listed (.host Sample.host) 2 ∧ deleted.answer = .ok () ∧
      (deleted.state.registry.get? 2).map Rule.network = some (.host Sample.host) ∧
      ¬ deleted.state.snapshot.Listed (.host Sample.host) 2 := by
  intro s deleted
  exact ⟨by decide +kernel, by decide +kernel, by decide +kernel, by decide +kernel⟩

/-- The matcher can be neither read nor written, so it stays as it is. -/
theorem deletion_spares_others_iff_unwritten :
    let s := (run [Sample.tcp, Sample.udp]).service
    let frozen := Faults.always fun op => op == .matcher || op == .setMatcher
    let deleted := s.outcome frozen (Service.deleteRule 1)
    deleted.answer = .error Operation.setMatcher.failure ∧
      (∃ other ∈ s.registry.toList, other.id = 2 ∧
        deleted.state.snapshot.advRules[other.id]? = some other.entry ∧
        other.network ∈ deleted.state.snapshot.rules ∧
        deleted.state.snapshot.Listed other.network other.id) := by
  intro s frozen deleted
  have there : (s.registry.get? 1).isSome = true := by decide +kernel
  obtain ⟨rule, known⟩ := Option.isSome_iff_exists.mp there
  have reliable : ∀ c ∈ [Sample.tcp, Sample.udp], c.Reliable := by
    intro c member
    simp only [List.mem_cons, List.not_mem_nil, or_false] at member
    rcases member with rfl | rfl
    · exact Faults.not_mayFail_none
    · exact Faults.not_mayFail_none
  have whole := deletion_spares_others_iff [Sample.tcp, Sample.udp] reliable 1 rule known
    fun op => op == .matcher || op == .setMatcher
  have second : ∃ other ∈ s.registry.toList, other.id = 2 ∧
      s.snapshot.Listed other.network other.id := by
    have found : s.registry.toList.any fun other => other.id == 2 &&
        s.snapshot.Listed other.network other.id := by decide +kernel
    simpa using found
  obtain ⟨other, listed, key, slot⟩ := second
  have apart : other.id ≠ 1 := by
    rw [key]
    decide
  obtain ⟨record, entered⟩ := whole.1 other listed apart
  have stays := whole.2.mpr (by simp) other listed apart slot
  exact ⟨by decide +kernel, other, listed, key, record, entered, stays⟩

end Course
end Firewall
end EdgeControl
