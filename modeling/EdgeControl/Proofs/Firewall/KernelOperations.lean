import EdgeControl.Kernel
import EdgeControl.Proofs.Firewall.Operations
import EdgeControl.Proofs.Kernel.LongestPrefix

/-!
The operations of a firewall on the kernel's tables, as long as these are open and have room. They
do what they do on tables in memory, except that a matcher is looked up by longest prefix.
-/
namespace EdgeControl

open EdgeControl.Action

namespace Kernel

namespace Table

variable {κ α : Type} [Ord κ] [Std.TransOrd κ] {t : Table κ α} {k : κ} {v : α}

def HasRoom (t : Table κ α) (k : κ) : Prop :=
  t.entries.contains k = true ∨ t.entries.size < t.capacity

theorem insert_ok (writable : t.writable = true) (room : t.HasRoom k) :
    t.insert k v = .ok {t with entries := t.entries.insert k v} := by
  have fits : (t.entries.contains k || decide (t.entries.size < t.capacity)) = true := by
    rw [Bool.or_eq_true, decide_eq_true_iff]
    exact room
  simp only [insert, writable, if_true, store?, fits]

theorem erase_ok (writable : t.writable = true) (there : t.entries.contains k = true) :
    t.erase k = .ok {t with entries := t.entries.erase k} := by
  simp only [erase, writable, if_true, discard?, there]

end Table

structure FirewallOpen (k : Kernel) : Prop where
  rules : k.rules.writable = true
  readable : k.matchers.readable = true
  matchers : k.matchers.writable = true
  advRules : k.advRules.writable = true

structure Fits (k : Kernel) (network : Network) (id : UInt32) : Prop where
  rules : k.rules.HasRoom network
  matchers : k.matchers.HasRoom network
  advRules : k.advRules.HasRoom id

def matcherFor (k : Kernel) (network : Network) : Firewall.Matcher :=
  (network.supernets.findSome? fun m => k.matchers.entries[m]?).getD .empty

variable {α : Type} {k k' : Kernel} {call : String}

theorem ensures_writing {f : Kernel → Except TableError Kernel}
    {post : Except ServiceError Unit → Kernel → Prop} (works : f k = .ok k')
    (h : post (.ok ()) k') : (writing call f).Ensures k post := by
  refine .bind (.get_bind ?_)
  rw [works]
  exact .pure fun _ => h

theorem ensures_reading {f : Kernel → Except TableError α} {a : α}
    {post : Except ServiceError α → Kernel → Prop} (works : f k = .ok a) (h : post (.ok a) k) :
    (reading call f).Ensures k post := by
  refine .get_bind ?_
  rw [works]
  exact .pure h

section Firewall

variable {post : Except ServiceError Unit → Kernel → Prop} {network : Network}
  {entry : Firewall.RuleEntry} {matcher : Firewall.Matcher} {id : UInt32}

theorem ensures_insertRule (opened : k.FirewallOpen) (room : k.rules.HasRoom network)
    (h : post (.ok ()) {k with
      rules := {k.rules with entries := k.rules.entries.insert network entry}}) :
    (FirewallTables.insertRule network entry : Action Kernel Unit).Ensures k post := by
  refine ensures_writing ?_ h
  rw [Table.insert_ok opened.rules room]
  rfl

theorem ensures_removeRule (opened : k.FirewallOpen)
    (there : k.rules.entries.contains network = true)
    (h : post (.ok ()) {k with
      rules := {k.rules with entries := k.rules.entries.erase network}}) :
    (FirewallTables.removeRule network : Action Kernel Unit).Ensures k post := by
  refine ensures_writing ?_ h
  rw [Table.erase_ok opened.rules there]
  rfl

theorem ensures_matcher? {post : Except ServiceError (Option Firewall.Matcher) → Kernel → Prop}
    (opened : k.FirewallOpen)
    (h : post (.ok (network.supernets.findSome? fun m => k.matchers.entries[m]?)) k) :
    (FirewallTables.matcher? network : Action Kernel _).Ensures k post :=
  ensures_reading (if_pos opened.readable) h

theorem ensures_setMatcher (opened : k.FirewallOpen) (room : k.matchers.HasRoom network)
    (h : post (.ok ()) {k with
      matchers := {k.matchers with entries := k.matchers.entries.insert network matcher}}) :
    (FirewallTables.setMatcher network matcher : Action Kernel Unit).Ensures k post := by
  refine ensures_writing ?_ h
  rw [Table.insert_ok opened.matchers room]
  rfl

theorem ensures_insertAdvRule (opened : k.FirewallOpen) (room : k.advRules.HasRoom id)
    (h : post (.ok ()) {k with
      advRules := {k.advRules with entries := k.advRules.entries.insert id entry}}) :
    (FirewallTables.insertAdvRule id entry : Action Kernel Unit).Ensures k post := by
  refine ensures_writing ?_ h
  rw [Table.insert_ok opened.advRules room]
  rfl

theorem ensures_removeAdvRule (opened : k.FirewallOpen)
    (there : k.advRules.entries.contains id = true)
    (h : post (.ok ()) {k with
      advRules := {k.advRules with entries := k.advRules.entries.erase id}}) :
    (FirewallTables.removeAdvRule id : Action Kernel Unit).Ensures k post := by
  refine ensures_writing ?_ h
  rw [Table.erase_ok opened.advRules there]
  rfl

theorem ensures_removeDropCounter
    (h : ∀ r dropCounters, post r {k with dropCounters}) :
    (FirewallTables.removeDropCounter id : Action Kernel Unit).Ensures k post := by
  refine .bind (.get_bind (.ofExcept (fun k' removed => ?_) fun e _ => h _ k.dropCounters))
  dsimp only at removed
  cases erased : k.dropCounters.erase id with
  | ok dropCounters =>
    rw [erased] at removed
    cases removed
    exact fun _ => h _ dropCounters
  | error e =>
    rw [erased] at removed
    cases removed

end Firewall
end Kernel

namespace Firewall

namespace Snapshot

variable (read : Network → Matcher) (v : Snapshot)

/-- Setting a rule when nothing fails, where the matchers read as `read`. -/
inductive SettingOn (given : Rule) : Except ServiceError UInt32 → Snapshot → Prop
  | refused (e : RuleError) (invalid : v.registry.prepare given = .error e) :
      SettingOn given (.error e.toService) v
  | installed (rule : Rule) (registry : Registry)
      (prepared : v.registry.prepare given = .ok (rule, registry)) :
      SettingOn given (.ok rule.id) (v.installed rule registry (read rule.network))

inductive DeletingOn (id : UInt32) : Snapshot → Prop
  | unknown (absent : v.registry.get? id = none) : DeletingOn id v
  | deleted (rule : Rule) (known : v.registry.get? id = some rule)
      (counters : Std.ExtTreeMap UInt32 UInt64) :
      DeletingOn id (v.deleted rule id counters (read rule.network))

end Snapshot

namespace Service

open Snapshot

def held (s : Service Kernel) : Snapshot where
  registry := s.registry
  rules := s.base.rules.entries
  matchers := s.base.matchers.entries
  advRules := s.base.advRules.entries
  dropCounters := s.base.dropCounters.entries

variable {s : Service Kernel} {given rule : Rule} {id : UInt32}

theorem matcherOf_held (opened : s.base.FirewallOpen)
    {post : Except ServiceError Matcher → Service Kernel → Prop}
    (h : post (.ok (s.base.matcherFor rule.network)) s) : (matcherOf rule).Ensures s post :=
  .bind (.result (.onPart (Kernel.ensures_matcher? opened (.pure h))))

theorem addToMatcher_held (opened : s.base.FirewallOpen)
    (room : s.base.matchers.HasRoom rule.network)
    {post : Except ServiceError Unit → Service Kernel → Prop}
    (h : post (.ok ()) {s with base := {s.base with matchers := {s.base.matchers with
      entries := s.base.matchers.entries.insert rule.network
        (((s.base.matcherFor rule.network).insert? rule.id).getD
          (s.base.matcherFor rule.network))}}}) :
    (addToMatcher rule).Ensures s post := by
  refine .bind (matcherOf_held opened (.guarded (fun _ => .note ?_) fun _ => ?_))
  · exact .note_bind (.orNote (.onPart (Kernel.ensures_setMatcher opened room h)))
  · exact .note_bind (.orNote (.onPart (Kernel.ensures_setMatcher opened room h)))

theorem dropFromMatcher_held (opened : s.base.FirewallOpen)
    (room : s.base.matchers.HasRoom rule.network)
    {post : Except ServiceError Unit → Service Kernel → Prop}
    (h : post (.ok ()) {s with base := {s.base with matchers := {s.base.matchers with
      entries := s.base.matchers.entries.insert rule.network
        ((s.base.matcherFor rule.network).erase rule.id)}}}) :
    (dropFromMatcher rule).Ensures s post :=
  .bind (matcherOf_held opened (.note_bind (.onPart (Kernel.ensures_setMatcher opened room h))))

theorem setRule_held (opened : s.base.FirewallOpen)
    (fits : ∀ rule registry, s.registry.prepare given = .ok (rule, registry) →
      s.base.Fits rule.network rule.id) :
    (setRule given).Ensures s fun r t => t.base.FirewallOpen ∧
      s.held.SettingOn s.base.matcherFor given r t.held := by
  refine .bind (.get_bind (.bind (.ofExcept (fun found prepared => ?_) fun e invalid => ?_)))
  · obtain ⟨rule, registry⟩ := found
    have room := fits rule registry prepared
    refine .set_bind (.pure (.bind (.orNote (.onPart ?_))))
    refine Kernel.ensures_insertRule opened room.rules (.bind ?_)
    refine addToMatcher_held ?opened ?room ?_
    case opened => exact {opened with}
    case room => exact room.matchers
    refine .bind (.orNote (.onPart (Kernel.ensures_insertAdvRule ?_ ?_ ?_)))
    · exact {opened with}
    · exact room.advRules
    · exact .note_bind (.modify_bind (.pure ⟨{opened with}, .installed rule registry prepared⟩))
  · exact ⟨opened, .refused e invalid⟩

theorem releaseNetwork_held (opened : s.base.FirewallOpen)
    (there : s.base.rules.entries.contains rule.network = true)
    {post : Except ServiceError Unit → Service Kernel → Prop}
    (h : post (.ok ()) {s with base := {s.base with rules := {s.base.rules with
      entries := (s.held.released rule).rules}}}) :
    (releaseNetwork rule).Ensures s post := by
  refine .get_bind ?_
  unfold released at h
  cases survivor : survivor? s.registry rule with
  | some kept =>
    rw [show survivor? s.held.registry rule = some kept from survivor] at h
    exact .note_bind (.onPart (Kernel.ensures_insertRule opened (.inl there) h))
  | none =>
    rw [show survivor? s.held.registry rule = none from survivor] at h
    exact .onPart (Kernel.ensures_removeRule opened there h)

theorem deleteRule_held (opened : s.base.FirewallOpen)
    (there : ∀ rule, s.registry.get? id = some rule →
      s.base.rules.entries.contains rule.network = true ∧
      s.base.matchers.entries.contains rule.network = true ∧
      s.base.advRules.entries.contains id = true) :
    (deleteRule id).Ensures s fun r t => t.base.FirewallOpen ∧ r = .ok () ∧
      s.held.DeletingOn s.base.matcherFor id t.held := by
  refine .get_bind ?_
  cases known : s.registry.get? id with
  | none => exact .pure ⟨opened, rfl, .unknown known⟩
  | some rule =>
    obtain ⟨entered, listed, recorded⟩ := there rule known
    refine .bind (releaseNetwork_held opened entered (.bind (.result (.onPart ?_))))
    refine Kernel.ensures_removeDropCounter fun removed dropCounters => ?_
    have ended : (do
        dropFromMatcher rule
        onBase (FirewallTables.removeAdvRule id)
        modify fun s => {s with registry := s.registry.erase id}
        note (.info "firewall rule deleted" [("id", id), ("network", .display rule.network)]) :
          Action (Service Kernel) Unit).Ensures
        {s with base := {s.base with
          rules := {s.base.rules with entries := (s.held.released rule).rules}
          dropCounters}}
        fun r t => t.base.FirewallOpen ∧ r = .ok () ∧
          s.held.DeletingOn s.base.matcherFor id t.held := by
      refine .bind (dropFromMatcher_held ?opened ?room ?_)
      case opened => exact {opened with}
      case room => exact .inl listed
      refine .bind (.onPart (Kernel.ensures_removeAdvRule ?_ ?_ ?_))
      · exact {opened with}
      · exact recorded
      · exact .modify_bind (.note ⟨{opened with}, rfl, .deleted rule known dropCounters.entries⟩)
    cases removed with
    | ok _ => exact ended
    | error e => exact .note_bind ended

end Service
end Firewall
end EdgeControl
