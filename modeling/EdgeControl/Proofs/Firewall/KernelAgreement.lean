import EdgeControl.Proofs.Firewall.LongestMatch
import EdgeControl.Proofs.InTurn
import Mathlib.Data.List.Induction

/-!
One run of a firewall on the kernel's tables and on tables in memory. Answers, rules and records
agree. The matchers part for good when the first rule on a network finds the matcher of a wider
network: the kernel's lookup gives that one for the missing one, and so the new network lists the
rules of the wider one.
-/
namespace EdgeControl.Firewall

inductive Order where
  | set (rule : Rule)
  | delete (id : UInt32)

section Runs

variable {P : Type} [FirewallTables P]

def Order.answer (o : Order) (s : Service P) : Except ServiceError (Option UInt32) :=
  match o with
  | .set rule => ((Service.setRule rule).outcome s #[]).answer.map some
  | .delete id => ((Service.deleteRule id).outcome s #[]).answer.map fun _ => none

def Order.after (o : Order) (s : Service P) : Service P :=
  match o with
  | .set rule => ((Service.setRule rule).outcome s #[]).state
  | .delete id => ((Service.deleteRule id).outcome s #[]).state

def Service.replay (s : Service P) (orders : List Order) : Service P :=
  orders.foldl (fun t o => o.after t) s

def Service.answers (s : Service P) : List Order → List (Except ServiceError (Option UInt32))
  | [] => []
  | o :: orders => o.answer s :: (o.after s).answers orders

theorem Service.replay_concat (s : Service P) (orders : List Order) (o : Order) :
    s.replay (orders ++ [o]) = o.after (s.replay orders) := by
  rw [replay, replay, List.foldl_append]
  rfl

theorem Service.answers_concat (s : Service P) (orders : List Order) (o : Order) :
    s.answers (orders ++ [o]) = s.answers orders ++ [o.answer (s.replay orders)] := by
  induction orders generalizing s with
  | nil => rfl
  | cons first orders ih =>
    rw [List.cons_append, answers, answers, ih]
    rfl

end Runs

namespace Service

def inMemory : Service Memory := {base := ∅}

def inKernel (k : Kernel) : Service Kernel := {base := k}

end Service

open Service

/-- The order sets the first rule on a network that is nested in one with rules. -/
def Order.Nests (o : Order) (s : Service Memory) : Prop :=
  ∃ rule prepared, o = .set rule ∧ s.registry.prepare rule = .ok prepared ∧
    s.snapshot.Nested rule.network

def Apart (orders : List Order) : Prop :=
  ∀ before o after, orders = before ++ o :: after → ¬ o.Nests (inMemory.replay before)

def Roomy (k : Kernel) (orders : List Order) : Prop :=
  ∀ before given after rule registry, orders = before ++ .set given :: after →
    ((inKernel k).replay before).registry.prepare given = .ok (rule, registry) →
    ((inKernel k).replay before).base.Fits rule.network rule.id

structure Blank (k : Kernel) : Prop where
  opened : k.FirewallOpen
  rules : k.rules.entries = ∅
  matchers : k.matchers.entries = ∅
  advRules : k.advRules.entries = ∅

variable {orders : List Order} {o : Order} {k : Kernel} {s : Service Memory} {t : Service Kernel}

theorem apart_concat :
    Apart (orders ++ [o]) ↔ Apart orders ∧ ¬ o.Nests (inMemory.replay orders) := by
  constructor
  · intro h
    constructor
    · intro before x after split
      exact h before x (after ++ [o]) (by simp [split])
    · exact h orders o [] rfl
  · rintro ⟨earlier, last⟩ before x after split
    rcases concat_eq_append_cons split with ⟨rfl, rfl, -⟩ | ⟨rest, split, -⟩
    · exact last
    · exact earlier before x rest split

theorem roomy_concat : Roomy k (orders ++ [o]) ↔ Roomy k orders ∧
    ∀ given rule registry, o = .set given →
      ((inKernel k).replay orders).registry.prepare given = .ok (rule, registry) →
      ((inKernel k).replay orders).base.Fits rule.network rule.id := by
  constructor
  · intro h
    constructor
    · intro before given after rule registry split
      exact h before given (after ++ [o]) rule registry (by simp [split])
    · intro given rule registry is
      exact h orders given [] rule registry (is ▸ rfl)
  · rintro ⟨earlier, last⟩ before given after rule registry split
    rcases concat_eq_append_cons split with ⟨rfl, same, -⟩ | ⟨rest, split, -⟩
    · exact last given rule registry same
    · exact earlier before given rest rule registry split

structure Paired (orders : List Order) (s : Service Memory) (t : Service Kernel) : Prop where
  replayed : inMemory.replay orders = s
  reliable : ∀ op, ¬ s.base.faults.MayFail op
  agrees : ∃ most, s.snapshot.Agrees most
  opened : t.base.FirewallOpen
  alike : s.snapshot.Alike t.held
  matchers : Apart orders ∧ t.held.matchers = s.snapshot.matchers ∨ ¬ Apart orders ∧ t.held.Stray

theorem Paired.set (h : Paired orders s t) {given : Rule}
    (room : ∀ rule registry, t.registry.prepare given = .ok (rule, registry) →
      t.base.Fits rule.network rule.id) :
    (Order.set given).answer t = (Order.set given).answer s ∧
      Paired (orders ++ [.set given]) ((Order.set given).after s) ((Order.set given).after t) := by
  obtain ⟨most, agrees⟩ := h.agrees
  obtain ⟨faults, step⟩ := setRule_ensures s given #[]
  obtain ⟨opened, second⟩ := setRule_held h.opened room #[]
  have first := step.settingOn h.reliable
  have answered := (h.alike.settings first second).1
  have alike := h.alike.setting first second
  refine ⟨congrArg (Except.map some) answered, ?_⟩
  constructor
  · rw [replay_concat, h.replayed]
  · intro op
    exact faults ▸ h.reliable op
  · exact agrees.settingOn first
  · exact opened
  · exact alike
  · rw [apart_concat, h.replayed]
    rcases h.matchers with ⟨apart, same⟩ | ⟨nested, stray⟩
    · by_cases nests : (Order.set given).Nests s
      · obtain ⟨rule, prepared, is, accepted, nested⟩ := id nests
        cases is
        refine .inr ⟨fun both => both.2 nests, ?_⟩
        exact Snapshot.stray_setting same h.alike agrees first second accepted nested
      · refine .inl ⟨⟨apart, nests⟩, Snapshot.matchers_setting same h.alike first second ?_⟩
        intro prepared accepted nested
        exact nests ⟨given, prepared, rfl, accepted, nested⟩
    · exact .inr ⟨fun both => nested both.1, stray.setting second⟩

theorem Paired.delete (h : Paired orders s t) (id : UInt32) :
    (Order.delete id).answer t = (Order.delete id).answer s ∧
      Paired (orders ++ [.delete id]) ((Order.delete id).after s) ((Order.delete id).after t) := by
  obtain ⟨most, agrees⟩ := h.agrees
  have there : ∀ rule, t.registry.get? id = some rule →
      t.base.rules.entries.contains rule.network = true ∧
      t.base.matchers.entries.contains rule.network = true ∧
      t.base.advRules.entries.contains id = true := by
    intro rule known
    have registry : t.registry = s.registry := h.alike.registry
    have rules : t.base.rules.entries = s.snapshot.rules := h.alike.rules
    have advRules : t.base.advRules.entries = s.snapshot.advRules := h.alike.advRules
    rw [registry] at known
    obtain ⟨entered, listed, recorded⟩ := agrees.recorded known
    rw [rules, advRules]
    exact ⟨entered, (h.alike.stored rule.network).mpr listed, recorded⟩
  obtain ⟨faults, step⟩ := deleteRule_ensures s id #[]
  obtain ⟨opened, answered', second⟩ := deleteRule_held h.opened there #[]
  obtain ⟨answered, first, agrees'⟩ := agrees.deletingOn h.reliable step
  have alike := h.alike.deleting first second
  refine ⟨congrArg (Except.map fun _ => none) (answered'.trans answered.symm), ?_⟩
  constructor
  · rw [replay_concat, h.replayed]
  · intro op
    exact faults ▸ h.reliable op
  · exact ⟨most, agrees'⟩
  · exact opened
  · exact alike
  · have apart : Apart (orders ++ [.delete id]) ↔ Apart orders := by
      rw [apart_concat, and_iff_left]
      rintro ⟨rule, prepared, is, -⟩
      cases is
    rw [apart]
    rcases h.matchers with ⟨apart, same⟩ | ⟨nested, stray⟩
    · exact .inl ⟨apart, Snapshot.matchers_deleting same h.alike agrees first second⟩
    · refine .inr ⟨nested, stray.deleting ?_ second⟩
      rw [h.alike.registry]
      exact agrees.keyed

theorem replay_paired (blank : Blank k) (orders : List Order) (room : Roomy k orders) :
    (inKernel k).answers orders = inMemory.answers orders ∧
      Paired orders (inMemory.replay orders) ((inKernel k).replay orders) := by
  induction orders using List.reverseRecOn with
  | nil =>
    refine ⟨rfl, rfl, ?_, ⟨_, Snapshot.Agrees.start⟩, blank.opened, ?_, .inl ⟨?_, blank.matchers⟩⟩
    · exact Faults.not_mayFail_none
    · refine ⟨rfl, blank.rules, blank.advRules, fun network => ?_⟩
      change network ∈ k.matchers.entries ↔ _
      rw [blank.matchers]
      rfl
    · intro before o after split
      cases before <;> cases split
  | append_singleton orders o ih =>
    obtain ⟨room, last⟩ := roomy_concat.mp room
    obtain ⟨answered, paired⟩ := ih room
    rw [answers_concat, answers_concat, replay_concat, replay_concat, answered]
    cases o with
    | set given =>
      obtain ⟨same, paired⟩ := paired.set fun rule registry => last given rule registry rfl
      exact ⟨by rw [same], paired⟩
    | delete id =>
      obtain ⟨same, paired⟩ := paired.delete id
      exact ⟨by rw [same], paired⟩

/-- A firewall on the kernel's tables answers as one on tables in memory, and has the same rules
and records. It has the same matchers as long as no rule was the first on a nested network; from
then on some matcher lists a rule of another network. -/
theorem replay_agrees_iff (k : Kernel) (blank : Blank k) (orders : List Order)
    (room : Roomy k orders) :
    (inKernel k).answers orders = inMemory.answers orders ∧
    ((inKernel k).replay orders).registry = (inMemory.replay orders).registry ∧
    ((inKernel k).replay orders).base.rules.entries = (inMemory.replay orders).base.rules ∧
    ((inKernel k).replay orders).base.advRules.entries = (inMemory.replay orders).base.advRules ∧
    (((inKernel k).replay orders).base.matchers.entries = (inMemory.replay orders).base.matchers ↔
      Apart orders) ∧
    (((inKernel k).replay orders).held.ListsOwn ↔ Apart orders) := by
  obtain ⟨answered, paired⟩ := replay_paired blank orders room
  obtain ⟨most, agrees⟩ := paired.agrees
  have lists (same : ((inKernel k).replay orders).held.matchers =
      (inMemory.replay orders).snapshot.matchers) :
      ((inKernel k).replay orders).held.ListsOwn :=
    agrees.listsOwn.congr same paired.alike.registry
  refine ⟨answered, paired.alike.registry, paired.alike.rules, paired.alike.advRules, ?_⟩
  rcases paired.matchers with ⟨apart, same⟩ | ⟨nested, stray⟩
  · exact ⟨iff_of_true same apart, iff_of_true (lists same) apart⟩
  · exact ⟨iff_of_false (fun same => stray.not_listsOwn (lists same)) nested,
      iff_of_false stray.not_listsOwn nested⟩

namespace Sample

def kernel : Kernel where
  host := {}
  calls := .ofSpec Kernel.TableName.calls.spec
  rules := .ofSpec Kernel.TableName.rules.spec
  matchers := .ofSpec Kernel.TableName.advRuleMatcher.spec
  advRules := .ofSpec Kernel.TableName.advRules.spec
  dropCounters := .ofSpec Kernel.TableName.dropCounter.spec
  floodCounters := .ofSpec Kernel.TableName.dosCounter.spec
  packetCounts := .ofSpec Kernel.TableName.counter.spec
  frontend := .ofSpec ⟨0, 0, .zero⟩ Kernel.TableName.frontendInfo.spec
  redirect := .ofSpec Kernel.TableName.redirect.spec
  backendInfo := .ofSpec Kernel.TableName.backendInfo.spec
  backendIfindex := .ofSpec Kernel.TableName.backendIfindex.spec
  rotation := .ofSpec 0 Kernel.TableName.rotation.spec
  flows := .ofSpec Kernel.TableName.conntrack.spec

def wide : Network := ⟨.ofOctets 10 0 0 0, 8, by decide, by decide⟩

def narrow : Network := ⟨.ofOctets 10 1 0 0, 16, by decide, by decide⟩

end Sample

theorem Sample.blank : Blank Sample.kernel := ⟨⟨rfl, rfl, rfl, rfl⟩, rfl, rfl, rfl⟩

/-- The rule on the narrower network comes first. -/
theorem replay_agrees_narrow_first :
    let orders := [Order.set {network := Sample.narrow, protocol := .tcp},
      .set {network := Sample.wide, protocol := .tcp}, .delete 1]
    Roomy Sample.kernel orders ∧ Apart orders ∧
      ((inKernel Sample.kernel).replay orders).held.ListsOwn := by
  intro orders
  have none : Roomy Sample.kernel [] := by
    intro before given after rule registry split
    cases before <;> cases split
  have one : Roomy Sample.kernel [.set {network := Sample.narrow, protocol := .tcp}] := by
    refine roomy_concat.mpr ⟨none, fun given rule registry _ _ => ⟨.inr ?_, .inr ?_, .inr ?_⟩⟩
    all_goals decide +kernel
  have two : Roomy Sample.kernel [.set {network := Sample.narrow, protocol := .tcp},
      .set {network := Sample.wide, protocol := .tcp}] := by
    refine roomy_concat.mpr ⟨one, fun given rule registry _ _ => ⟨.inr ?_, .inr ?_, .inr ?_⟩⟩
    all_goals decide +kernel
  have room : Roomy Sample.kernel orders := by
    refine roomy_concat.mpr ⟨two, fun given rule registry is => ?_⟩
    cases is
  obtain ⟨-, -, -, -, matchers, lists⟩ := replay_agrees_iff Sample.kernel Sample.blank orders room
  have same : ((inKernel Sample.kernel).replay orders).base.matchers.entries =
      (inMemory.replay orders).base.matchers := by
    decide +kernel
  exact ⟨room, matchers.mp same, lists.mpr (matchers.mp same)⟩

/-- The rule on the wider network comes first. -/
theorem replay_disagrees :
    let orders := [Order.set {network := Sample.wide, protocol := .tcp},
      .set {network := Sample.narrow, protocol := .tcp}]
    (((inKernel Sample.kernel).replay orders).held.matchers[Sample.narrow]?).map Matcher.ids =
        some [1, 2] ∧
      ((inMemory.replay orders).base.matchers[Sample.narrow]?).map Matcher.ids = some [2] ∧
      (((inKernel Sample.kernel).replay orders).registry.get? 1).map Rule.network =
        some Sample.wide :=
  ⟨by decide +kernel, by decide +kernel, by decide +kernel⟩

end EdgeControl.Firewall
