import EdgeControl.Proofs.Firewall.KernelOperations
import EdgeControl.Proofs.Firewall.Tables

/-!
Two ways to look up a matcher: the one of the network itself, or that of the narrowest network
around it that has one. A rule set or deleted has the same effect both ways, unless it is the first
on its network and a wider network has rules: by longest prefix its matcher then lists these too,
and some matcher lists a rule of another network from then on.
-/
namespace EdgeControl.Firewall

namespace Snapshot

variable {may : Operation → Prop} {v w v' w' : Snapshot} {most : Network → Nat}
  {read read' : Network → Matcher} {network : Network} {given rule : Rule} {id : UInt32}
  {matcher : Matcher} {registry : Registry} {r r' : Except ServiceError UInt32}

def own (v : Snapshot) (network : Network) : Matcher := v.matchers[network]?.getD .empty

/-- The matcher of the narrowest network that covers the given one and has a matcher. -/
def longest (v : Snapshot) (network : Network) : Matcher :=
  (network.supernets.findSome? fun wide => v.matchers[wide]?).getD .empty

/-- The network has no matcher, and the narrowest one around it that has a matcher lists a rule. -/
def Nested (v : Snapshot) (network : Network) : Prop :=
  network ∉ v.matchers ∧ ∃ (wide : Network) (matcher : Matcher),
    v.matchers[wide]? = some matcher ∧ matcher ≠ .empty ∧ wide.Covers network ∧
    ∀ other : Network, other ∈ v.matchers → other.Covers network →
      other.prefixLen ≤ wide.prefixLen

theorem longest_of_stored (stored : v.matchers[network]? = some matcher) :
    v.longest network = matcher := by
  rw [longest, Network.findSome?_supernets_self (f := fun wide => v.matchers[wide]?) stored]
  rfl

theorem own_of_stored (stored : v.matchers[network]? = some matcher) :
    v.own network = matcher := by
  rw [own, stored]
  rfl

theorem Nested.longest (nested : v.Nested network) : ∃ (wide : Network) (matcher : Matcher),
    wide ≠ network ∧ v.matchers[wide]? = some matcher ∧ matcher ≠ .empty ∧
      v.longest network = matcher := by
  obtain ⟨absent, wide, matcher, stored, listing, covers, narrowest⟩ := nested
  have other : wide ≠ network := by
    rintro rfl
    exact absent (Std.ExtTreeMap.mem_iff_isSome_getElem?.mpr (by rw [stored]; rfl))
  have found : network.supernets.findSome? (fun wide => v.matchers[wide]?) = some matcher := by
    refine Network.findSome?_supernets.mpr ⟨wide, covers, stored, fun other covers there => ?_⟩
    exact narrowest other (Std.ExtTreeMap.mem_iff_isSome_getElem?.mpr there) covers
  refine ⟨wide, matcher, other, stored, listing, ?_⟩
  rw [Snapshot.longest, found]
  rfl

theorem longest_eq_own (apart : ¬ v.Nested network) : v.longest network = v.own network := by
  cases stored : v.matchers[network]? with
  | some matcher => rw [longest_of_stored stored, own_of_stored stored]
  | none =>
    have absent : network ∉ v.matchers := by
      rw [Std.ExtTreeMap.mem_iff_isSome_getElem?, stored]
      exact Bool.false_ne_true
    rw [own, stored, longest]
    cases found : network.supernets.findSome? fun wide => v.matchers[wide]? with
    | none => rfl
    | some matcher =>
      obtain ⟨wide, covers, there, narrowest⟩ := Network.findSome?_supernets.mp found
      have empty : matcher = .empty := by
        refine Decidable.byContradiction fun listing => ?_
        refine apart ⟨absent, wide, matcher, there, listing, covers, fun other stored covers => ?_⟩
        exact narrowest other covers (Std.ExtTreeMap.mem_iff_isSome_getElem?.mp stored)
      rw [empty]
      rfl

/-! ### Snapshots that are alike but for the matchers -/

/-- Two snapshots with matchers for the same networks, and with everything else the same. -/
structure Alike (v w : Snapshot) : Prop where
  registry : w.registry = v.registry
  rules : w.rules = v.rules
  advRules : w.advRules = v.advRules
  stored : ∀ network : Network, network ∈ w.matchers ↔ network ∈ v.matchers

theorem Alike.settings (h : v.Alike w) (first : v.SettingOn read given r v')
    (second : w.SettingOn read' given r' w') : r' = r ∧
      (v' = v ∧ w' = w ∧ (∃ e, v.registry.prepare given = .error e) ∨
        ∃ rule registry, v.registry.prepare given = .ok (rule, registry) ∧
          v' = v.installed rule registry (read rule.network) ∧
          w' = w.installed rule registry (read' rule.network)) := by
  cases first with
  | refused e invalid =>
    cases second with
    | refused e' invalid' =>
      rw [h.registry, invalid] at invalid'
      cases invalid'
      exact ⟨rfl, .inl ⟨rfl, rfl, e, invalid⟩⟩
    | installed rule registry prepared =>
      rw [h.registry, invalid] at prepared
      cases prepared
  | installed rule registry prepared =>
    cases second with
    | refused e invalid =>
      rw [h.registry, prepared] at invalid
      cases invalid
    | installed rule' registry' prepared' =>
      rw [h.registry, prepared] at prepared'
      cases prepared'
      exact ⟨rfl, .inr ⟨rule, registry, prepared, rfl, rfl⟩⟩

theorem Alike.setting (h : v.Alike w) (first : v.SettingOn read given r v')
    (second : w.SettingOn read' given r' w') : v'.Alike w' := by
  obtain ⟨-, ⟨rfl, rfl, -⟩ | ⟨rule, registry, -, rfl, rfl⟩⟩ := h.settings first second
  · exact h
  · refine ⟨rfl, ?_, ?_, fun network => ?_⟩
    · exact congrArg (·.insert rule.network rule.entry) h.rules
    · exact congrArg (·.insert rule.id rule.entry) h.advRules
    · change network ∈ w.matchers.insert _ _ ↔ network ∈ v.matchers.insert _ _
      rw [Std.ExtTreeMap.mem_insert, Std.ExtTreeMap.mem_insert, h.stored]

theorem Alike.deletions (h : v.Alike w) (first : v.DeletingOn read id v')
    (second : w.DeletingOn read' id w') : (v' = v ∧ w' = w) ∨
      ∃ rule counters counters', v.registry.get? id = some rule ∧
        v' = v.deleted rule id counters (read rule.network) ∧
        w' = w.deleted rule id counters' (read' rule.network) := by
  cases first with
  | unknown absent =>
    cases second with
    | unknown => exact .inl ⟨rfl, rfl⟩
    | deleted rule known =>
      rw [h.registry, absent] at known
      cases known
  | deleted rule known counters =>
    cases second with
    | unknown absent =>
      rw [h.registry, known] at absent
      cases absent
    | deleted rule' known' counters' =>
      rw [h.registry, known] at known'
      cases known'
      exact .inr ⟨rule, counters, counters', known, rfl, rfl⟩

theorem Alike.deleting (h : v.Alike w) (first : v.DeletingOn read id v')
    (second : w.DeletingOn read' id w') : v'.Alike w' := by
  obtain ⟨rfl, rfl⟩ | ⟨rule, counters, counters', known, rfl, rfl⟩ := h.deletions first second
  · exact h
  · refine ⟨?_, ?_, ?_, fun network => ?_⟩
    · exact congrArg (·.erase id) h.registry
    · change (w.released rule).rules = (v.released rule).rules
      unfold released
      rw [h.registry, h.rules]
    · exact congrArg (·.erase id) h.advRules
    · change network ∈ w.matchers.insert _ _ ↔ network ∈ v.matchers.insert _ _
      rw [Std.ExtTreeMap.mem_insert, Std.ExtTreeMap.mem_insert, h.stored]

/-! ### Stray ids -/

/-- Some matcher lists an id that was given out, but not to a rule that is on its network now. -/
def Stray (w : Snapshot) : Prop :=
  ∃ (network : Network) (matcher : Matcher), w.matchers[network]? = some matcher ∧
    ∃ i ∈ matcher.ids, i.toUInt32 < w.registry.nextId ∧
      ∀ rule, w.registry.get? i.toUInt32 = some rule → rule.network ≠ network

def ListsOwn (v : Snapshot) : Prop :=
  ∀ (network : Network) (matcher : Matcher), v.matchers[network]? = some matcher →
    ∀ i ∈ matcher.ids, ∃ rule, v.registry.get? i.toUInt32 = some rule ∧ rule.network = network

theorem Stray.not_listsOwn (h : w.Stray) : ¬ w.ListsOwn := by
  obtain ⟨network, matcher, stored, i, member, -, off⟩ := h
  intro own
  obtain ⟨rule, known, on⟩ := own network matcher stored i member
  exact off rule known on

theorem Agrees.of_stored (h : v.Agrees most) (stored : v.matchers[network]? = some matcher) :
    matcher = .pack matcher.ids ∧ v.Lists most network matcher.ids := by
  obtain ⟨ids, packed, lists⟩ := h.matchers network
  rw [stored, Option.getD_some] at packed
  have same : matcher.ids = ids := by
    rw [packed, Matcher.ids_pack lists.few (lists.zero_not_mem h.keyed)]
  rw [same]
  exact ⟨packed, lists⟩

theorem Agrees.listsOwn (h : v.Agrees most) : v.ListsOwn := by
  intro network matcher stored i member
  exact (h.of_stored stored).2.named i member

theorem get?_installed (prepared : v.registry.prepare given = .ok (rule, registry)) {i : UInt32}
    (below : i < v.registry.nextId) :
    (registry.insert rule).get? i = v.registry.get? i ∧ i < (registry.insert rule).nextId := by
  obtain ⟨rfl, rfl, room⟩ := Registry.prepare_ok prepared
  have left : v.registry.nextId.toNat + 1 < UInt32.size :=
    Nat.lt_of_le_of_lt (Nat.succ_le_succ room) (by decide)
  refine ⟨?_, lt_succ_of_le left (UInt32.le_of_lt below)⟩
  rw [Registry.get?_insert, if_neg (UInt32.ne_of_lt below).symm]
  rfl

theorem Stray.setting (h : w.Stray) (step : w.SettingOn w.longest given r w') : w'.Stray := by
  obtain ⟨network, matcher, stored, i, member, below, off⟩ := h
  cases step with
  | refused => exact ⟨network, matcher, stored, i, member, below, off⟩
  | installed rule registry prepared =>
    obtain ⟨kept, below'⟩ := get?_installed prepared below
    have off' : ∀ o, (registry.insert rule).get? i.toUInt32 = some o → o.network ≠ network := by
      intro o known
      exact off o (kept ▸ known)
    by_cases same : rule.network = network
    · refine ⟨network, (matcher.insert? rule.id).getD matcher, ?_, i,
        Matcher.mem_ids_insert? member, below', off'⟩
      change (w.matchers.insert rule.network _)[network]? = _
      rw [Table.getElem?_insert, if_pos same, same, longest_of_stored stored]
    · refine ⟨network, matcher, ?_, i, member, below', off'⟩
      change (w.matchers.insert rule.network _)[network]? = _
      rw [Table.getElem?_insert, if_neg same, stored]

theorem Stray.deleting (h : w.Stray) (keyed : w.registry.Keyed)
    (step : w.DeletingOn w.longest id w') : w'.Stray := by
  obtain ⟨network, matcher, stored, i, member, below, off⟩ := h
  cases step with
  | unknown => exact ⟨network, matcher, stored, i, member, below, off⟩
  | deleted rule known counters =>
    have key : rule.id = id := (keyed.ids id rule known).1
    have off' : ∀ o, (w.registry.erase id).get? i.toUInt32 = some o → o.network ≠ network := by
      intro o there
      exact off o (Table.getElem?_of_erase there)
    by_cases same : rule.network = network
    · have other : i.toUInt32 ≠ rule.id := by
        intro is
        rw [is, key] at off
        exact off rule known same
      refine ⟨network, _, ?_, i, Matcher.mem_ids_erase.mpr ⟨member, other⟩, below, off'⟩
      change (w.matchers.insert rule.network _)[network]? = _
      rw [Table.getElem?_insert, if_pos same, same, longest_of_stored stored]
    · refine ⟨network, matcher, ?_, i, member, below, off'⟩
      change (w.matchers.insert rule.network _)[network]? = _
      rw [Table.getElem?_insert, if_neg same, stored]

/-- The first rule on a nested network makes the ids of the wider network stray. -/
theorem Nested.stray (h : v.Agrees most)
    (prepared : v.registry.prepare given = .ok (rule, registry))
    (nested : v.Nested rule.network) :
    (v.installed rule registry (v.longest rule.network)).Stray := by
  obtain ⟨wide, matcher, other, stored, listing, found⟩ := nested.longest
  obtain ⟨packed, lists⟩ := h.of_stored stored
  obtain ⟨i, member⟩ : ∃ i, i ∈ matcher.ids := by
    refine List.exists_mem_of_ne_nil _ fun none => listing ?_
    rw [packed, none]
    rfl
  obtain ⟨o, known, on⟩ := lists.named i member
  obtain ⟨kept, below⟩ := get?_installed prepared (h.keyed.ids _ o known).2.2
  refine ⟨rule.network, _, Std.ExtTreeMap.getElem?_insert_self, i, ?_, below, fun o' known' => ?_⟩
  · rw [found]
    exact Matcher.mem_ids_insert? member
  · have same : o = o' := Option.some.inj ((kept.trans known).symm.trans known')
    rw [← same, on]
    exact other

/-! ### Tables in memory -/

theorem Setting.settingOn (works : ∀ op, ¬ may op) (step : Setting may v given r w) :
    v.SettingOn v.own given r w := by
  cases step with
  | refused e invalid => exact .refused e invalid
  | unentered _ _ _ fault | unlisted _ _ _ fault => exact absurd fault (works _)
  | unrecorded _ _ _ _ _ fault => exact absurd fault (works _)
  | installed rule registry prepared matcher matched =>
    rw [matched.resolve_right fun fault => works _ fault.1]
    exact .installed rule registry prepared

theorem Agrees.deletingOn {r : Except ServiceError Unit} (h : v.Agrees most)
    (works : ∀ op, ¬ may op) (step : Deleting may v id r w) :
    r = .ok () ∧ v.DeletingOn v.own id w ∧ w.Agrees most := by
  obtain ⟨answered, agrees, -⟩ := h.deleting works step
  refine ⟨answered, ?_, agrees⟩
  cases step with
  | unknown absent => exact .unknown absent
  | unreleased | listed | recorded => cases answered
  | deleted rule known counters _ matcher matched =>
    rw [matched.resolve_right fun fault => works _ fault.1]
    exact .deleted rule known counters

theorem Agrees.settingOn (h : v.Agrees most) (step : v.SettingOn v.own given r w) :
    ∃ most', w.Agrees most' := by
  cases step with
  | refused => exact ⟨most, h⟩
  | installed rule registry prepared =>
    refine ⟨fun network => max (most network)
      (rulesOn (v.registry.toList ++ [rule]) network).length, ?_⟩
    exact h.installed prepared (fun _ => Nat.le_max_left _ _) (fun _ => Nat.le_max_right _ _) rfl

/-! ### Matchers that are the same so far -/

theorem Stray.congr (h : v.Stray) (matchers : w.matchers = v.matchers)
    (registry : w.registry = v.registry) : w.Stray := by
  unfold Stray
  rw [matchers, registry]
  exact h

theorem ListsOwn.congr (h : v.ListsOwn) (matchers : w.matchers = v.matchers)
    (registry : w.registry = v.registry) : w.ListsOwn := by
  unfold ListsOwn
  rw [matchers, registry]
  exact h

theorem longest_congr (same : w.matchers = v.matchers) : w.longest = v.longest := by
  funext network
  rw [longest, longest, same]

theorem matchers_setting (same : w.matchers = v.matchers) (h : v.Alike w)
    (first : v.SettingOn v.own given r v') (second : w.SettingOn w.longest given r' w')
    (apart : ∀ prepared, v.registry.prepare given = .ok prepared → ¬ v.Nested given.network) :
    w'.matchers = v'.matchers := by
  obtain ⟨-, ⟨rfl, rfl, -⟩ | ⟨rule, registry, prepared, rfl, rfl⟩⟩ := h.settings first second
  · exact same
  · have on : rule.network = given.network := by
      rw [(Registry.prepare_ok prepared).1]
    have looked : w.longest rule.network = v.own rule.network := by
      rw [longest_congr same, on, longest_eq_own (apart _ prepared)]
    change w.matchers.insert rule.network _ = v.matchers.insert rule.network _
    rw [looked, same]

theorem stray_setting (same : w.matchers = v.matchers) (h : v.Alike w) (agrees : v.Agrees most)
    (first : v.SettingOn v.own given r v') (second : w.SettingOn w.longest given r' w')
    {prepared : Rule × Registry} (accepted : v.registry.prepare given = .ok prepared)
    (nested : v.Nested given.network) : w'.Stray := by
  obtain ⟨-, ⟨-, -, e, invalid⟩ | ⟨rule, registry, prepared, -, rfl⟩⟩ := h.settings first second
  · rw [accepted] at invalid
    cases invalid
  · have on : rule.network = given.network := by
      rw [(Registry.prepare_ok prepared).1]
    rw [longest_congr same]
    refine (Nested.stray agrees prepared (on ▸ nested)).congr ?_ rfl
    change w.matchers.insert rule.network _ = v.matchers.insert rule.network _
    rw [same]

theorem matchers_deleting (same : w.matchers = v.matchers) (h : v.Alike w)
    (agrees : v.Agrees most) (first : v.DeletingOn v.own id v')
    (second : w.DeletingOn w.longest id w') : w'.matchers = v'.matchers := by
  obtain ⟨rfl, rfl⟩ | ⟨rule, counters, counters', known, rfl, rfl⟩ := h.deletions first second
  · exact same
  · have stored : rule.network ∈ v.matchers :=
      agrees.stored rule (Registry.mem_toList.mpr ⟨id, known⟩)
    have looked : w.longest rule.network = v.own rule.network := by
      rw [longest_congr same, longest_eq_own fun nested => nested.1 stored]
    change w.matchers.insert rule.network _ = v.matchers.insert rule.network _
    rw [looked, same]

end Snapshot
end EdgeControl.Firewall
