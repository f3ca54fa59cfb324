import EdgeControl.Proofs.Flood.Reaction
import EdgeControl.Proofs.InTurn
import Mathlib.Data.List.Chain

/-!
Sources that stay within the limit of a policy. The limit is a count for the time between two
passes, but a pass compares a counter with the reading before. When a pass cannot read the counters,
the next one takes what was counted in both for its own.
-/
namespace EdgeControl.Flood

open Service

/-! ### Passes that see the counters, and passes that do not -/

structure Tick where
  observed : List (CounterKey × UInt64)
  table : Monitor.IsTable observed
  faults : Faults := .none

namespace Tick

def call (t : Tick) : Call := {request := .tick t.observed, faults := t.faults}

def Blind (t : Tick) : Prop := t.faults.fails .counters = true

instance (t : Tick) : Decidable t.Blind := inferInstanceAs (Decidable (_ = _))

def entry? (t : Tick) (key : CounterKey) : Option UInt64 := t.observed.lookup key

/-- Where a counter stands at the time of the pass. One that is not there stands at 0. -/
def count (t : Tick) (key : CounterKey) : UInt64 := (t.entry? key).getD 0

def read? (t : Tick) (key : CounterKey) : Option UInt64 := if t.Blind then none else t.entry? key

theorem entry?_eq_some_iff {t : Tick} {key : CounterKey} {count : UInt64} :
    t.entry? key = some count ↔ (key, count) ∈ t.observed := by
  constructor
  · intro found
    obtain ⟨before, after, split, -⟩ := List.lookup_eq_some_iff.mp found
    simp [split]
  · intro member
    cases found : t.entry? key with
    | none =>
      have absent := List.lookup_eq_none_iff.mp found (key, count) member
      simp at absent
    | some other =>
      obtain ⟨before, after, split, -⟩ := List.lookup_eq_some_iff.mp found
      have there : (key, other) ∈ t.observed := by simp [split]
      have same := List.inj_on_of_nodup_map t.table.distinct there member rfl
      simpa using same

theorem entry?_eq_none_iff {t : Tick} {key : CounterKey} :
    t.entry? key = none ↔ key ∉ t.observed.map Prod.fst := by
  constructor
  · intro absent member
    obtain ⟨⟨k, count⟩, there, rfl⟩ := List.mem_map.mp member
    rw [entry?_eq_some_iff.mpr there] at absent
    cases absent
  · intro absent
    cases found : t.entry? key with
    | none => rfl
    | some count => exact absurd (List.mem_map_of_mem (entry?_eq_some_iff.mp found)) absent

end Tick

theorem tickOn_blind (s : Service Memory) (observed : List (CounterKey × UInt64))
    (blind : s.firewall.base.faults.fails .counters = true) :
    (tickOn observed).Ensures s fun _ t => t.snapshot = s.snapshot := by
  refine .bind (.result (.onPart (.onPart (.bind (Memory.ensures_ask_now ?_ ?_)))))
  · intro _
    exact .note_bind (.pure rfl)
  · intro seeing
    rw [blind] at seeing
    cases seeing

theorem tickOn_seeing (s : Service Memory) (observed : List (CounterKey × UInt64))
    (seeing : ¬ s.firewall.base.faults.fails .counters = true) :
    (tickOn observed).Ensures s fun _ t => ∃ bs,
      Snapshot.MitigatingAll s.firewall.base.faults.MayFail (s.snapshot.evaluated observed)
        (s.snapshot.mitigations observed) bs t.snapshot := by
  refine .bind (.result (.onPart (.onPart (.bind (Memory.ensures_ask_now ?_ ?_)))))
  · intro blind
    exact absurd blind seeing
  · intro _
    refine .pure (.note_bind (.get_bind (.set_bind (.bind ((noteAll_ensures _ _ _).mono ?_)))))
    rintro _ t ⟨rfl, rfl⟩
    refine .bind ((mitigateAll_ensures _ _).mono ?_)
    rintro _ u ⟨bs, rfl, steps⟩
    exact .pure ⟨bs, steps⟩

theorem Tick.blind_after {t : Tick} (blind : t.Blind) (s : Service Memory) :
    (t.call.after s).snapshot = s.snapshot :=
  tickOn_blind {s with firewall := {s.firewall with base := {s.firewall.base with
    faults := t.faults}}} t.observed blind #[]

theorem Tick.seeing_after {t : Tick} (seeing : ¬ t.Blind) (s : Service Memory) : ∃ bs,
    Snapshot.MitigatingAll t.faults.MayFail (s.snapshot.evaluated t.observed)
      (s.snapshot.mitigations t.observed) bs (t.call.after s).snapshot :=
  tickOn_seeing {s with firewall := {s.firewall with base := {s.firewall.base with
    faults := t.faults}}} t.observed seeing #[]

/-! ### What becomes of a policy in a pass -/

/-- The same policy later on, with perhaps more rules and more sources blocked. -/
structure Policy.Later (p q : Policy) : Prop where
  protocol : q.protocol = p.protocol
  flag : q.flag = p.flag
  limit : q.limit = p.limit
  blocked : ∀ a ∈ p.blocked, a ∈ q.blocked

theorem Policy.Later.refl (p : Policy) : p.Later p := ⟨rfl, rfl, rfl, fun _ member => member⟩

theorem Policy.Later.trans {p q r : Policy} (h : p.Later q) (h' : q.Later r) : p.Later r := by
  constructor
  · rw [h'.protocol, h.protocol]
  · rw [h'.flag, h.flag]
  · rw [h'.limit, h.limit]
  · intro a member
    exact h'.blocked a (h.blocked a member)

theorem Policy.Later.counter {p q : Policy} (h : p.Later q) (source : Ipv4) :
    q.counter source = p.counter source := by
  simp only [Policy.counter, Policy.flagBits, h.protocol, h.flag]

theorem Policy.Later.credit (p : Policy) (id : UInt32) (source : Ipv4) :
    p.Later (p.credit id source) :=
  ⟨rfl, rfl, rfl, fun _ member => Policy.mem_credit.mpr (.inr member)⟩

namespace Snapshot

variable {may : Operation → Prop} {v w : Snapshot} {id : UInt32} {source : Ipv4} {p : Policy}
  {m : Mitigation} {ms : List Mitigation} {b : Bool} {bs : List Bool}

/-- The policy does not block the source, and none of its rules is one against the source. -/
def Spares (v : Snapshot) (id : UInt32) (source : Ipv4) : Prop :=
  ∃ p, v.monitor.get? id = some p ∧ source ∉ p.blocked ∧
    ∀ i ∈ p.ruleIds, v.firewall.registry.get? i ≠ some (p.rule source i)

theorem Mitigating.later (step : v.Mitigating may m b w) (known : v.monitor.get? id = some p) :
    ∃ q, w.monitor.get? id = some q ∧ p.Later q := by
  cases step with
  | refused | unrecorded => exact ⟨p, known, .refl p⟩
  | installed i firewall step monitor recorded =>
    have after := Monitor.get?_record recorded id
    rw [known, Option.map_some] at after
    refine ⟨_, after, ?_⟩
    split
    · exact .credit p i m.source
    · exact .refl p

theorem MitigatingAll.later (steps : MitigatingAll may v ms bs w)
    (known : v.monitor.get? id = some p) : ∃ q, w.monitor.get? id = some q ∧ p.Later q := by
  induction steps generalizing p with
  | done => exact ⟨p, known, .refl p⟩
  | next first _ ih =>
    obtain ⟨q, known, later⟩ := first.later known
    obtain ⟨r, known, later'⟩ := ih known
    exact ⟨r, known, later.trans later'⟩

theorem MitigatingAll.counts (steps : MitigatingAll may v ms bs w) :
    w.monitor.counts = v.monitor.counts := by
  induction steps with
  | done => rfl
  | next first _ ih =>
    rw [ih]
    cases first with
    | refused | unrecorded => rfl
    | installed i firewall step monitor recorded => exact (Monitor.record_frame recorded).1

theorem rule_ne {q : Policy} {other : Ipv4} {i j : UInt32} (apart : other ≠ source)
    (asks : m.rule = .blockHost other q.protocol) :
    ({m.rule with id := i, dropCount := 0} : Firewall.Rule) ≠ p.rule source j := by
  intro same
  rw [asks] at same
  exact apart (congrArg (fun rule => rule.network.addr) same)

theorem Mitigating.spares (step : v.Mitigating may m b w) (h : v.ledger.Orderly)
    (founded : v.monitor.Founded m) (other : m.policyId = id → m.source ≠ source)
    (spared : v.Spares id source) : w.Spares id source := by
  obtain ⟨p, known, free, unruled⟩ := spared
  have old {r : Except ServiceError UInt32} {firewall : Firewall.Snapshot}
      (step : v.firewall.Setting may m.rule r firewall) :
      ∀ i ∈ p.ruleIds, firewall.registry.get? i ≠ some (p.rule source i) := by
    intro i member
    rw [(step.kept h.keyed).2.2 i (h.given id p known i member)]
    exact unruled i member
  cases step with
  | refused e firewall step => exact ⟨p, known, free, old step⟩
  | unrecorded i firewall step => exact ⟨p, known, free, old step⟩
  | installed i firewall step monitor recorded =>
    have after := Monitor.get?_record recorded id
    rw [known, Option.map_some] at after
    by_cases own : m.policyId = id
    · rw [if_pos own] at after
      refine ⟨_, after, ?_, ?_⟩
      · intro member
        rcases Policy.mem_credit.mp member with same | before
        · exact other own same
        · exact free before
      · intro j member
        rcases List.mem_append.mp member with before | new
        · exact old step j before
        · obtain ⟨q, -, asks⟩ := founded
          rw [List.mem_singleton.mp new, step.get?, if_pos step.succeeded.1.symm]
          intro same
          exact rule_ne (other own) asks (Option.some.inj same)
    · rw [if_neg own] at after
      exact ⟨p, after, free, old step⟩

theorem MitigatingAll.spares (steps : MitigatingAll may v ms bs w) (h : v.ledger.Orderly)
    (founded : ∀ m ∈ ms, v.monitor.Founded m)
    (others : ∀ m ∈ ms, m.policyId = id → m.source ≠ source) (spared : v.Spares id source) :
    w.Spares id source := by
  induction steps with
  | done => exact spared
  | @next v u w m b ms bs first rest ih =>
    obtain ⟨orderly, -, still⟩ := first.follows h (founded m List.mem_cons_self)
    apply ih orderly
    · intro x member
      exact still x (founded x (List.mem_cons_of_mem m member))
    · intro x member
      exact others x (List.mem_cons_of_mem m member)
    · exact first.spares h (founded m List.mem_cons_self) (others m List.mem_cons_self) spared

structure Blank (v : Snapshot) : Prop where
  counts : ∀ key, v.monitor.lastCount? key = none
  policies : ∀ id p, v.monitor.get? id = some p → p.ruleIds = [] ∧ p.blocked = ∅

theorem SettingPolicy.blank {given : Policy} {r : Except ServiceError UInt32}
    (step : v.SettingPolicy given r w) (h : v.Blank) : w.Blank := by
  cases step with
  | refused => exact h
  | registered i monitor accepted =>
    obtain ⟨-, -, -, counts, -⟩ := Monitor.insert_ok accepted
    constructor
    · intro key
      simp only [Monitor.lastCount?, counts]
      exact h.counts key
    · intro id p known
      rcases Monitor.get?_of_insert accepted known with rfl | before
      · exact ⟨rfl, rfl⟩
      · exact h.policies id p before

end Snapshot

theorem Tick.later {t : Tick} {s : Service Memory} {id : UInt32} {p : Policy}
    (known : s.monitor.get? id = some p) :
    ∃ q, (t.call.after s).monitor.get? id = some q ∧ p.Later q := by
  by_cases blind : t.Blind
  · have same : (t.call.after s).monitor = s.monitor :=
      congrArg Snapshot.monitor (t.blind_after blind s)
    exact ⟨p, same ▸ known, .refl p⟩
  · obtain ⟨bs, steps⟩ := t.seeing_after blind s
    exact steps.later (Monitor.get?_evaluate.trans known)

/-! ### Runs of passes -/

def opening (policies : List Policy) : List Call :=
  policies.map fun p => {request := .setPolicy p}

def watch (policies : List Policy) (ticks : List Tick) : Service Memory :=
  run (opening policies ++ ticks.map Tick.call)

def lastRead? (key : CounterKey) (ticks : List Tick) : Option UInt64 :=
  ticks.reverse.findSome? fun t => t.read? key

/-- A pass with some before it does not read a counter that grew by more than the limit since it
was read last. -/
def Tick.Within (t : Tick) (key : CounterKey) (limit : UInt64) (before : List Tick) : Prop :=
  ∀ count, t.read? key = some count →
    count.toNat ≤ ((lastRead? key before).getD 0).toNat + limit.toNat

def Within (key : CounterKey) (limit : UInt64) : List Tick → Prop :=
  InTurn fun before t => t.Within key limit before

/-- From nothing to the first pass, and from each pass to the next one, a counter grows by at most
the limit. -/
def Gradual (key : CounterKey) (limit : UInt64) (ticks : List Tick) : Prop :=
  (0 :: ticks.map fun t => t.count key).IsChain fun m n => n.toNat ≤ m.toNat + limit.toNat

variable {policies : List Policy} {ticks : List Tick} {t : Tick} {key : CounterKey} {id : UInt32}
  {p q : Policy} {source : Ipv4} {limit : UInt64}

theorem watch_concat (policies : List Policy) (ticks : List Tick) (t : Tick) :
    watch policies (ticks ++ [t]) = t.call.after (watch policies ticks) := by
  simp [watch, ← List.append_assoc]

theorem lastRead?_concat (key : CounterKey) (ticks : List Tick) (t : Tick) :
    lastRead? key (ticks ++ [t]) = (t.read? key).or (lastRead? key ticks) := by
  simp only [lastRead?, List.reverse_append, List.reverse_singleton, List.findSome?_append,
    List.findSome?_singleton]

theorem within_concat :
    Within key limit (ticks ++ [t]) ↔ Within key limit ticks ∧ t.Within key limit ticks :=
  inTurn_concat

theorem opening_blank (policies : List Policy) : (run (opening policies)).snapshot.Blank := by
  induction policies using List.reverseRecOn with
  | nil => exact ⟨fun key => rfl, fun id p known => nomatch known⟩
  | append_singleton policies given ih =>
    rw [opening, List.map_append, List.map_singleton, run_concat]
    exact ((run (opening policies)).settingPolicy .none given).blank ih

theorem watch_lastCount? (policies : List Policy) (ticks : List Tick) (key : CounterKey) :
    (watch policies ticks).monitor.lastCount? key = lastRead? key ticks := by
  induction ticks using List.reverseRecOn with
  | nil =>
    have unread : (run (opening policies)).monitor.lastCount? key = none :=
      (opening_blank policies).counts key
    simpa [watch, lastRead?] using unread
  | append_singleton ticks t ih =>
    rw [watch_concat, lastRead?_concat, Tick.read?]
    by_cases blind : t.Blind
    · have same := congrArg Snapshot.monitor (t.blind_after blind (watch policies ticks))
      rw [if_pos blind, Option.none_or, ← ih]
      exact congrArg (·.lastCount? key) same
    · obtain ⟨bs, steps⟩ := t.seeing_after blind (watch policies ticks)
      have counts : (t.call.after (watch policies ticks)).monitor.lastCount? key =
          ((watch policies ticks).monitor.evaluate t.observed).2.lastCount? key :=
        congrArg (·[key]?) steps.counts
      rw [if_neg blind, counts]
      cases found : t.entry? key with
      | none =>
        rw [Monitor.lastCount?_evaluate_of_absent (Tick.entry?_eq_none_iff.mp found), ih,
          Option.none_or]
      | some count =>
        rw [Monitor.lastCount?_evaluate_of_mem t.table.distinct (Tick.entry?_eq_some_iff.mp found),
          Option.some_or]

theorem watch_policy (known : (run (opening policies)).monitor.get? id = some p)
    (ticks : List Tick) : ∃ q, (watch policies ticks).monitor.get? id = some q ∧ p.Later q := by
  induction ticks using List.reverseRecOn with
  | nil => exact ⟨p, by simpa [watch] using known, .refl p⟩
  | append_singleton ticks t ih =>
    obtain ⟨q, there, later⟩ := ih
    obtain ⟨r, there, later'⟩ := t.later there
    rw [watch_concat]
    exact ⟨r, there, later.trans later'⟩

theorem not_due (known : (run (opening policies)).monitor.get? id = some p) (seeing : ¬ t.Blind)
    (within : t.Within (p.counter source) p.limit ticks) {m : Mitigation}
    (member : m ∈ (watch policies ticks).snapshot.mitigations t.observed) :
    ¬ (m.policyId = id ∧ m.source = source) := by
  rintro ⟨rfl, rfl⟩
  have orderly : (watch policies ticks).snapshot.ledger.Orderly := run_orderly _
  obtain ⟨q, there, -, -, count, read, exceeds⟩ :=
    (Monitor.mem_mitigations orderly.named t.table).mp member
  obtain ⟨q', there', later⟩ := watch_policy known ticks
  cases there.symm.trans there'
  rw [later.counter] at read exceeds
  have seen : t.read? (p.counter m.source) = some count := by
    rw [Tick.read?, if_neg seeing, Tick.entry?_eq_some_iff]
    exact read
  have bound := within count seen
  have remembered : (watch policies ticks).snapshot.ledger.monitor.lastCount?
      (p.counter m.source) = lastRead? (p.counter m.source) ticks :=
    watch_lastCount? policies ticks _
  rw [remembered, later.limit] at exceeds
  omega

theorem watch_spares (known : (run (opening policies)).monitor.get? id = some p)
    (within : Within (p.counter source) p.limit ticks) :
    (watch policies ticks).snapshot.Spares id source := by
  induction ticks using List.reverseRecOn with
  | nil =>
    obtain ⟨ruleIds, blocked⟩ := (opening_blank policies).policies id p known
    have known' : (watch policies []).monitor.get? id = some p := by simpa [watch] using known
    refine ⟨p, known', ?_, ?_⟩
    · simp [blocked]
    · simp [ruleIds]
  | append_singleton ticks t ih =>
    obtain ⟨before, last⟩ := within_concat.mp within
    have spared := ih before
    rw [watch_concat]
    by_cases blind : t.Blind
    · rw [t.blind_after blind]
      exact spared
    · obtain ⟨bs, steps⟩ := t.seeing_after blind (watch policies ticks)
      have orderly : (watch policies ticks).snapshot.ledger.Orderly := run_orderly _
      apply steps.spares (orderly.evaluated t.observed)
      · intro m member
        exact Monitor.evaluate_founded orderly.named member
      · intro m member same other
        exact not_due known blind last member ⟨same, other⟩
      · obtain ⟨q, there, free, unruled⟩ := spared
        exact ⟨q, Monitor.get?_evaluate.trans there, free, unruled⟩

theorem blocked_of_exceeds (known : (run (opening policies)).monitor.get? id = some p)
    (reliable : t.call.Reliable)
    (supplied : Supplied (opening policies ++ ticks.map Tick.call ++ [t.call])) {count : UInt64}
    (read : t.read? (p.counter source) = some count)
    (exceeds : ((lastRead? (p.counter source) ticks).getD 0).toNat + p.limit.toNat < count.toNat) :
    ∃ r, (watch policies (ticks ++ [t])).monitor.get? id = some r ∧ source ∈ r.blocked := by
  obtain ⟨q, there, later⟩ := watch_policy known ticks
  rw [watch_concat]
  by_cases blocked : source ∈ q.blocked
  · obtain ⟨r, after, grown⟩ := t.later there
    exact ⟨r, after, grown.blocked source blocked⟩
  · have seeing : ¬ t.Blind := by
      intro blind
      simp [Tick.read?, blind] at read
    rw [Tick.read?, if_neg seeing, Tick.entry?_eq_some_iff] at read
    obtain ⟨n, -, step⟩ := (watch policies ticks).ticking t.faults t.observed
    have room := supplied (opening policies ++ ticks.map Tick.call) [] t.observed t.faults rfl
    obtain ⟨installed, reaction, -⟩ := step.reacts reliable (run_orderly _) t.table room
    have remembered : (watch policies ticks).snapshot.ledger.monitor.lastCount? (p.counter source) =
        lastRead? (p.counter source) ticks := watch_lastCount? policies ticks _
    have due : (watch policies ticks).snapshot.ledger.monitor.Due t.observed
        ⟨id, source, .blockHost source q.protocol⟩ := by
      refine ⟨q, there, blocked, rfl, count, ?_, ?_⟩
      · rw [later.counter]
        exact read
      · rw [later.counter, later.limit, remembered]
        omega
    obtain ⟨e, member, same⟩ := List.mem_map.mp ((reaction.due _).mpr due)
    obtain ⟨r, after, -, blocked⟩ := reaction.recorded e member
    rw [same] at after blocked
    exact ⟨r, after, blocked⟩

theorem watch_within (known : (run (opening policies)).monitor.get? id = some p)
    (clean : ∀ t ∈ ticks, t.Blind ∨ t.call.Reliable)
    (supplied : Supplied (opening policies ++ ticks.map Tick.call))
    (free : ∀ q, (watch policies ticks).monitor.get? id = some q → source ∉ q.blocked) :
    Within (p.counter source) p.limit ticks := by
  induction ticks using List.reverseRecOn with
  | nil => exact inTurn_nil
  | append_singleton ticks t ih =>
    rw [List.map_append, List.map_singleton, ← List.append_assoc] at supplied
    rw [within_concat]
    constructor
    · apply ih
      · intro u member
        exact clean u (List.mem_append_left [t] member)
      · exact supplied.of_concat
      · intro q there blocked
        obtain ⟨r, after, grown⟩ := t.later there
        rw [← watch_concat] at after
        exact free r after (grown.blocked source blocked)
    · intro count read
      by_contra exceeds
      have seeing : ¬ t.Blind := by
        intro blind
        simp [Tick.read?, blind] at read
      have reliable := (clean t (by simp)).resolve_left seeing
      obtain ⟨r, after, blocked⟩ := blocked_of_exceeds known reliable supplied read (by omega)
      exact free r after blocked

theorem within_of_gradual (seeing : ∀ t ∈ ticks, ¬ t.Blind) (gradual : Gradual key limit ticks) :
    Within key limit ticks := by
  rintro before t after rfl count read
  have standing : t.count key = count := by
    have found : t.entry? key = some count := by simpa [Tick.read?, seeing t (by simp)] using read
    simp [Tick.count, found]
  cases before using List.reverseRecOn with
  | nil =>
    have first : (t.count key).toNat ≤ (0 : UInt64).toNat + limit.toNat :=
      (List.isChain_cons_cons.mp gradual).1
    rw [standing] at first
    simpa [lastRead?] using first
  | append_singleton before u =>
    -- The pass just before read the counter, or it was not there.
    have split : (0 :: (before ++ [u] ++ t :: after).map fun t => t.count key) =
        (0 :: before.map fun t => t.count key) ++ u.count key :: t.count key ::
          after.map fun t => t.count key := by simp
    rw [Gradual, split, List.isChain_split, List.isChain_cons_cons] at gradual
    have step := gradual.2.1
    rw [standing] at step
    rw [lastRead?_concat, Tick.read?, if_neg (seeing u (by simp))]
    cases found : u.entry? key with
    | none =>
      have nothing : u.count key = 0 := by simp [Tick.count, found]
      rw [nothing, UInt64.toNat_zero] at step
      omega
    | some last =>
      have same : u.count key = last := by simp [Tick.count, found]
      rw [same] at step
      simpa using step

/-- A policy spares a source if, and when nothing fails but readings as a whole and ids are left
only if, no reading finds the source's counter grown by more than the limit since the reading
before. When every reading works that is so for a source that stays within the limit from pass to
pass. -/
theorem watch_spares_iff (policies : List Policy) (ticks : List Tick) (id : UInt32) (p : Policy)
    (known : (run (opening policies)).monitor.get? id = some p) (source : Ipv4) :
    (Within (p.counter source) p.limit ticks →
      ∀ before, before <+: ticks → (watch policies before).snapshot.Spares id source) ∧
    ((∀ t ∈ ticks, t.Blind ∨ t.call.Reliable) →
      Supplied (opening policies ++ ticks.map Tick.call) →
      (∀ before, before <+: ticks → (watch policies before).snapshot.Spares id source) →
      Within (p.counter source) p.limit ticks) ∧
    ((∀ t ∈ ticks, ¬ t.Blind) → Gradual (p.counter source) p.limit ticks →
      Within (p.counter source) p.limit ticks) := by
  refine ⟨?_, ?_, within_of_gradual⟩
  · intro within before first
    exact watch_spares known (InTurn.of_prefix within first)
  · intro clean supplied spared
    apply watch_within known clean supplied
    intro q there blocked
    obtain ⟨r, there', free, -⟩ := spared ticks List.prefix_rfl
    cases there.symm.trans there'
    exact free blocked

namespace Sample

def tick (count : UInt64) (faults : Faults) : Tick where
  observed := counted count
  table := ⟨by simp [counted], by simp [counted]⟩
  faults

def unreadable : Faults := {plan := fun _ op => op == .counters}

end Sample

/-- The counter grows by 80 from pass to pass, and the limit is 100. The second pass cannot read it,
so the third one finds it grown by 160. -/
theorem gradual_source_blocked :
    let ticks := [Sample.tick 80 .none, Sample.tick 160 Sample.unreadable, Sample.tick 240 .none]
    Gradual (Sample.policy.counter Sample.source) Sample.policy.limit ticks ∧
      ¬ (watch [Sample.policy] ticks).snapshot.Spares 1 Sample.source := by
  intro ticks
  constructor
  · simp only [Gradual, ticks, List.map_cons, List.map_nil, List.isChain_cons_cons]
    decide +kernel
  · rintro ⟨p, known, free, -⟩
    have blocked : ((watch [Sample.policy] ticks).snapshot.monitor.get? 1).map
        (fun p => p.blocked.contains Sample.source) = some true := by decide +kernel
    rw [known, Option.map_some, Option.some.injEq] at blocked
    exact free (Std.ExtTreeSet.mem_iff_contains.mpr blocked)

/-- The same counts, all of them read. -/
theorem watch_spares_iff_seeing :
    let ticks := [Sample.tick 80 .none, Sample.tick 160 .none, Sample.tick 240 .none]
    ∀ before, before <+: ticks →
      (watch [Sample.policy] before).snapshot.Spares 1 Sample.source := by
  intro ticks
  obtain ⟨spares, -, seeing⟩ := watch_spares_iff [Sample.policy] ticks 1 (Sample.policy.fresh 1) rfl
    Sample.source
  apply spares
  apply seeing
  · decide +kernel
  · simp only [Gradual, ticks, List.map_cons, List.map_nil, List.isChain_cons_cons]
    decide +kernel

end EdgeControl.Flood
