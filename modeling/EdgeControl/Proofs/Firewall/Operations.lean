import EdgeControl.Proofs.Firewall.Transition
import EdgeControl.Proofs.Table

/-!
The operations of a firewall on tables in memory do what their relations say, whatever operations
of the host fail and at whatever point.
-/
namespace EdgeControl.Firewall.Service

open EdgeControl.Action Snapshot

structure Steady (s t : Service Memory) : Prop where
  snapshot : t.snapshot = s.snapshot
  faults : t.base.faults.MayFail = s.base.faults.MayFail

theorem prepare_ensures (s : Service Memory) (given : Rule) {α : Type}
    {next : Rule → Action (Service Memory) α} {post : Except ServiceError α → Service Memory → Prop}
    (refused : ∀ e, s.registry.prepare given = .error e → post (.error e.toService) s)
    (prepared : ∀ rule registry, s.registry.prepare given = .ok (rule, registry) →
      (next rule).Ensures {s with registry} post) :
    (prepare given >>= next).Ensures s post := by
  refine .bind (.get_bind (.bind (.ofExcept (fun found ok => ?_) fun e error => ?_)))
  · exact .set_bind (.pure (prepared found.1 found.2 ok))
  · exact refused e error

theorem matcherOf_ensures (s : Service Memory) (rule : Rule) :
    (matcherOf rule).Ensures s fun r t => Steady s t ∧ ∃ matcher, r = .ok matcher ∧
      s.snapshot.Reads s.base.faults.MayFail rule.network matcher := by
  refine .bind (.result (.onPart (Memory.ensures_matcher? (fun fault => ?_) ?_)))
  · exact .note_bind (.pure ⟨⟨rfl, rfl⟩, _, rfl, .inr ⟨fault, rfl⟩⟩)
  · exact .pure ⟨⟨rfl, rfl⟩, _, rfl, .inl rfl⟩

theorem addToMatcher_ensures (s : Service Memory) (rule : Rule) {α : Type}
    {next : Unit → Action (Service Memory) α} {post : Except ServiceError α → Service Memory → Prop}
    (fails : ∀ t, Steady s t → s.base.faults.MayFail .setMatcher →
      post (.error Operation.setMatcher.failure) t)
    (works : ∀ t matcher, s.snapshot.Reads s.base.faults.MayFail rule.network matcher →
      t.base.faults.MayFail = s.base.faults.MayFail →
      t.snapshot = s.snapshot.enlist rule matcher → (next ()).Ensures t post) :
    (addToMatcher rule >>= next).Ensures s post := by
  have written (t : Service Memory) (matcher : Matcher) (same : Steady s t)
      (read : s.snapshot.Reads s.base.faults.MayFail rule.network matcher) :
      ((onBase (FirewallTables.setMatcher rule.network
        ((matcher.insert? rule.id).getD matcher))).orNote fun e =>
          .warn "matcher update failed" (failureFields rule e)).Ensures t
            (Ensures.Then next post) := by
    refine .orNote (.onPart (Memory.ensures_setMatcher (fun fault => ?_) ?_))
    · exact fails _ ⟨same.snapshot, same.faults⟩ (same.faults ▸ fault)
    · exact works _ matcher read same.faults (by rw [← same.snapshot]; rfl)
  refine .bind (.bind ((matcherOf_ensures s rule).mono ?_))
  rintro _ t ⟨same, matcher, rfl, read⟩
  dsimp only [Ensures.Then]
  split
  · exact .note_bind (.note_bind (written t matcher same read))
  · exact .note_bind (written t matcher same read)

theorem setRule_ensures (s : Service Memory) (given : Rule) :
    (setRule given).Ensures s fun r t => t.base.faults.MayFail = s.base.faults.MayFail ∧
      Setting s.base.faults.MayFail s.snapshot given r t.snapshot := by
  refine prepare_ensures s given (fun e invalid => ⟨rfl, .refused e invalid⟩) ?_
  intro rule registry prepared
  refine .bind (.orNote (.onPart (Memory.ensures_insertRule (fun fault => ?_) ?_)))
  · exact ⟨rfl, .unentered rule registry prepared fault⟩
  refine addToMatcher_ensures _ rule (fun t same fault => ⟨same.faults, ?_⟩) ?_
  · rw [same.snapshot]
    exact .unlisted rule registry prepared fault
  intro t matcher read faults listed
  refine .bind (.orNote (.onPart (Memory.ensures_insertAdvRule (fun fault => ⟨faults, ?_⟩) ?_)))
  · change Setting _ _ _ _ t.snapshot
    rw [listed]
    rw [faults] at fault
    exact .unrecorded rule registry prepared matcher read fault
  · refine .note_bind (.modify_bind (.pure ⟨faults, ?_⟩))
    have kept : t.registry = registry := congrArg Snapshot.registry listed
    change Setting _ _ _ _ {t.snapshot with
      advRules := t.snapshot.advRules.insert rule.id rule.entry
      registry := t.registry.insert rule}
    rw [kept, listed]
    exact .installed rule registry prepared matcher read

theorem releaseNetwork_ensures (s : Service Memory) (rule : Rule) {α : Type}
    {next : Unit → Action (Service Memory) α} {post : Except ServiceError α → Service Memory → Prop}
    (fails : ∀ e t, (s.base.faults.MayFail .insertRule ∨ s.base.faults.MayFail .removeRule ∨
      (survivor? s.registry rule = none ∧ s.base.rules.contains rule.network = false)) →
      Steady s t → post (.error e) t)
    (works : ∀ t, t.base.faults.MayFail = s.base.faults.MayFail →
      t.snapshot = s.snapshot.released rule → (next ()).Ensures t post) :
    (releaseNetwork rule >>= next).Ensures s post := by
  refine .bind (.get_bind ?_)
  cases survivor : survivor? s.registry rule with
  | some kept =>
    refine .note_bind (.onPart (Memory.ensures_insertRule (fun fault => ?_) ?_))
    · exact fails _ _ (.inl fault) ⟨rfl, rfl⟩
    · refine works _ rfl ?_
      simp only [released, show survivor? s.snapshot.registry rule = some kept from survivor]
      rfl
  | none =>
    refine .onPart (Memory.ensures_removeRule (fun fault => ?_) (fun absent => ?_) fun _ => ?_)
    · exact fails _ _ (.inr (.inl fault)) ⟨rfl, rfl⟩
    · exact fails _ _ (.inr (.inr ⟨survivor, absent⟩)) ⟨rfl, rfl⟩
    · refine works _ rfl ?_
      simp only [released, show survivor? s.snapshot.registry rule = none from survivor]
      rfl

/-- The drop counter of a rule may be missing, and it does not matter when it cannot be removed. -/
theorem removeDropCounter_ensures (s : Service Memory) (id : UInt32) :
    ((onBase (FirewallTables.removeDropCounter id)).result :
      Action (Service Memory) (Except ServiceError Unit)).Ensures s fun r t =>
        t.base.faults.MayFail = s.base.faults.MayFail ∧ (∃ r', r = .ok r') ∧
          ∃ counters, s.snapshot.Uncounts s.base.faults.MayFail id counters ∧
            t.snapshot = {s.snapshot with dropCounters := counters} := by
  refine .result (.onPart (Memory.ensures_removeDropCounter (fun fault => ?_) (fun absent => ?_)
    fun _ => ?_))
  · exact ⟨rfl, ⟨_, rfl⟩, s.base.dropCounters, .inr ⟨fault, rfl⟩, rfl⟩
  · have same : s.base.dropCounters.erase id = s.base.dropCounters :=
      Table.erase_of_absent (Std.ExtTreeMap.getElem?_eq_none_of_contains_eq_false absent)
    exact ⟨rfl, ⟨_, rfl⟩, s.base.dropCounters, .inl same.symm, rfl⟩
  · exact ⟨rfl, ⟨_, rfl⟩, s.base.dropCounters.erase id, .inl rfl, rfl⟩

theorem dropFromMatcher_ensures (s : Service Memory) (rule : Rule) {α : Type}
    {next : Unit → Action (Service Memory) α} {post : Except ServiceError α → Service Memory → Prop}
    (fails : ∀ t, Steady s t → s.base.faults.MayFail .setMatcher →
      post (.error Operation.setMatcher.failure) t)
    (works : ∀ t matcher, s.snapshot.Reads s.base.faults.MayFail rule.network matcher →
      t.base.faults.MayFail = s.base.faults.MayFail →
      t.snapshot = s.snapshot.delist rule matcher → (next ()).Ensures t post) :
    (dropFromMatcher rule >>= next).Ensures s post := by
  refine .bind (.bind ((matcherOf_ensures s rule).mono ?_))
  rintro _ t ⟨same, matcher, rfl, read⟩
  refine .note_bind (.onPart (Memory.ensures_setMatcher (fun fault => ?_) ?_))
  · exact fails _ ⟨same.snapshot, same.faults⟩ (same.faults ▸ fault)
  · exact works _ matcher read same.faults (by rw [← same.snapshot]; rfl)

/-- The last steps of a deletion, after the network and the drop counter are dealt with. -/
theorem forgetRule_ensures {s u : Service Memory} {id : UInt32} {rule : Rule}
    {counters : Std.ExtTreeMap UInt32 UInt64} (known : s.registry.get? id = some rule)
    (faults : u.base.faults.MayFail = s.base.faults.MayFail)
    (counted : s.snapshot.Uncounts s.base.faults.MayFail id counters)
    (released : u.snapshot = {s.snapshot.released rule with dropCounters := counters}) :
    (do
      dropFromMatcher rule
      onBase (FirewallTables.removeAdvRule id)
      modify fun s => {s with registry := s.registry.erase id}
      .note (.info "firewall rule deleted" [("id", id), ("network", .display rule.network)]) :
        Action (Service Memory) Unit).Ensures u fun r t =>
      t.base.faults.MayFail = s.base.faults.MayFail ∧
        Deleting s.base.faults.MayFail s.snapshot id r t.snapshot := by
  refine dropFromMatcher_ensures u rule (fun t same fault => ⟨same.faults.trans faults, ?_⟩) ?_
  · rw [same.snapshot, released]
    rw [faults] at fault
    exact .listed rule known counters counted fault
  intro w matcher read same delisted
  replace same := same.trans faults
  have read' : s.snapshot.Reads s.base.faults.MayFail rule.network matcher := by
    rw [released, faults] at read
    exact read
  have unlisted : w.snapshot = s.snapshot.unlisted rule counters matcher := by
    rw [delisted, released]
    rfl
  have records : w.base.advRules = s.snapshot.advRules := congrArg Snapshot.advRules unlisted
  have registry : w.registry = s.registry := congrArg Snapshot.registry unlisted
  refine .bind (.onPart (Memory.ensures_removeAdvRule (fun fault => ⟨same, ?_⟩)
    (fun absent => ⟨same, ?_⟩) fun recorded => ?_))
  · change Deleting _ _ _ _ w.snapshot
    rw [unlisted]
    exact .recorded rule known counters counted matcher read' _ (.inl (same ▸ fault))
  · change Deleting _ _ _ _ w.snapshot
    rw [unlisted]
    exact .recorded rule known counters counted matcher read' _ (.inr (records ▸ absent))
  · refine .modify_bind (.note ⟨same, ?_⟩)
    change Deleting _ _ _ _ {w.snapshot with
      advRules := w.snapshot.advRules.erase id
      registry := w.registry.erase id}
    rw [registry, unlisted]
    exact .deleted rule known counters counted matcher read' (records ▸ recorded)

theorem deleteRule_ensures (s : Service Memory) (id : UInt32) :
    (deleteRule id).Ensures s fun r t => t.base.faults.MayFail = s.base.faults.MayFail ∧
      Deleting s.base.faults.MayFail s.snapshot id r t.snapshot := by
  refine .get_bind ?_
  cases known : s.registry.get? id with
  | none => exact .pure ⟨rfl, .unknown known⟩
  | some rule =>
    refine releaseNetwork_ensures s rule (fun e t fault same => ⟨same.faults, ?_⟩) ?_
    · rw [same.snapshot]
      exact .unreleased rule known e fault
    intro t faults released
    refine .bind ((removeDropCounter_ensures t id).mono ?_)
    rintro _ u ⟨same, ⟨r', rfl⟩, counters, counted, uncounted⟩
    rw [released] at uncounted
    have counted' : s.snapshot.Uncounts s.base.faults.MayFail id counters := by
      rw [released, faults] at counted
      exact counted
    have rest := forgetRule_ensures known (same.trans faults) counted' uncounted
    cases r' with
    | ok _ => exact rest
    | error e => exact .note_bind rest

def counted (counters : Std.ExtTreeMap UInt32 UInt64) (rule : Rule) : Rule :=
  {rule with dropCount := counters[rule.id]?.getD 0}

theorem rules_ensures (s : Service Memory) :
    rules.Ensures s fun r t => Steady s t ∧ (¬ s.base.faults.MayFail .dropCount →
      r = .ok (s.registry.toList.map (counted s.base.dropCounters))) := by
  have each (t : Service Memory) (same : Steady s t) (rule : Rule) :
      (withDropCount rule).Ensures t fun r u => Steady s u ∧ ∃ out, r = .ok out ∧
        (¬ s.base.faults.MayFail .dropCount → out = counted s.base.dropCounters rule) := by
    refine .bind (.result (.onPart (Memory.ensures_dropCount? (fun fault => ?_) ?_)))
    · exact .note_bind (.pure ⟨⟨same.snapshot, same.faults⟩, _, rfl,
        fun readable => absurd (same.faults ▸ fault) readable⟩)
    · have counters : t.base.dropCounters = s.base.dropCounters :=
        congrArg Snapshot.dropCounters same.snapshot
      exact .pure ⟨⟨same.snapshot, same.faults⟩, _, rfl, fun _ => by rw [counters]; rfl⟩
  have all (rules : List Rule) (t : Service Memory) (same : Steady s t) :
      (rules.mapM withDropCount).Ensures t fun r u => Steady s u ∧ ∃ shown, r = .ok shown ∧
        (¬ s.base.faults.MayFail .dropCount →
          shown = rules.map (counted s.base.dropCounters)) := by
    induction rules generalizing t with
    | nil => exact .pure ⟨same, [], rfl, fun _ => rfl⟩
    | cons rule rules ih =>
      rw [List.mapM_cons]
      refine .bind ((each t same rule).mono ?_)
      rintro _ u ⟨same, out, rfl, first⟩
      refine .bind ((ih u same).mono ?_)
      rintro _ w ⟨same, shown, rfl, rest⟩
      exact .pure ⟨same, out :: shown, rfl, fun readable => by
        rw [first readable, rest readable, List.map_cons]⟩
  refine .get_bind ((all s.registry.toList s ⟨rfl, rfl⟩).mono ?_)
  rintro _ t ⟨same, shown, rfl, equal⟩
  exact ⟨same, fun readable => by rw [equal readable]⟩

end EdgeControl.Firewall.Service
