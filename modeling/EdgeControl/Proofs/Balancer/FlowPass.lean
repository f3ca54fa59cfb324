import EdgeControl.Proofs.Balancer.Untouched
import EdgeControl.Proofs.Flow.Pass

/-!
A pass over the flows of a host in memory: how the table reads, which removals work, and what the
pass leaves of the table and of the tracker.
-/
namespace EdgeControl

open EdgeControl.Action

/-- The flows that are gone when each is removed in turn. A removal is one operation, and the plan
may let it fail. -/
def Faults.removable (f : Faults) : List Flow.Key → List Flow.Key
  | [] => []
  | key :: keys =>
    if f.fails .removeFlow then f.next.removable keys else key :: f.next.removable keys

theorem Faults.removable_sublist (f : Faults) (keys : List Flow.Key) :
    (f.removable keys).Sublist keys := by
  induction keys generalizing f with
  | nil => exact .slnil
  | cons key keys ih =>
    unfold removable
    split
    · exact (ih f.next).cons key
    · exact (ih f.next).cons_cons key

theorem Faults.removable_eq_nil {f : Faults} (fails : ∀ n, f.plan n .removeFlow = true)
    (keys : List Flow.Key) : f.removable keys = [] := by
  induction keys generalizing f with
  | nil => rfl
  | cons key keys ih =>
    have now : f.fails .removeFlow = true := fails _
    rw [removable, if_pos now]
    exact ih fails

theorem Memory.ensures_removeFlow {m : Memory} {key : Flow.Key}
    {post : Except ServiceError Unit → Memory → Prop} (there : m.flows.contains key = true)
    (fails : m.faults.fails .removeFlow = true → post (.error Operation.removeFlow.failure) m.asked)
    (works : m.faults.fails .removeFlow = false →
      post (.ok ()) {m.asked with flows := m.flows.erase key}) :
    (FlowTable.removeFlow key : Action Memory Unit).Ensures m post := by
  refine .bind (.get_bind (.set_bind ?_))
  cases failing : m.faults.fails .removeFlow with
  | true => exact .throw (fails failing)
  | false =>
    refine .pure (.get_bind ?_)
    rw [if_pos there]
    exact fun _ => works failing

namespace Flow.Tracker

theorem get?_retain (t : Tracker) (live : List Key) (key : Key) :
    (t.retain (.ofList live)).get? key = if key ∈ live then t.get? key else none := by
  unfold retain get?
  rw [Std.ExtTreeMap.getElem?_filter', Std.ExtTreeSet.contains_ofList]
  by_cases member : key ∈ live
  · simp [member]
    cases t.entries[key]? <;> rfl
  · simp [member]

end Flow.Tracker

namespace Balancer

open EdgeControl.Flow (Key Info Observation)

namespace Service

/-! ### Removals -/

/-- The given flows were removed in turn, as far as the plan let it happen. -/
structure Purged (keys : List Key) (s : Service Memory) (results : List (Except ServiceError Key))
    (t : Service Memory) : Prop where
  successes : successes results = s.base.faults.removable keys
  failures : failures results = [] ↔ s.base.faults.removable keys = keys
  tracker : t.tracker = (s.base.faults.removable keys).foldl Flow.Tracker.forget s.tracker
  flows : ∀ key : Key, t.base.flows[key]? =
    if key ∈ s.base.faults.removable keys then none else s.base.flows[key]?
  settings : t.settings = s.settings
  snapshot : t.snapshot = s.snapshot

variable {keys : List Key} {key : Key} {s t : Service Memory}
  {results : List (Except ServiceError Key)}

theorem Purged.kept (fails : s.base.faults.fails .removeFlow = true) (e : ServiceError)
    (h : Purged keys {s with base := s.base.asked} results t) :
    Purged (key :: keys) s (.error e :: results) t := by
  have removable : s.base.faults.removable (key :: keys) = s.base.faults.next.removable keys := by
    simp [Faults.removable, fails]
  have fewer : s.base.faults.next.removable keys ≠ key :: keys := by
    intro same
    have short := (s.base.faults.next.removable_sublist keys).length_le
    rw [same, List.length_cons] at short
    omega
  constructor
  · rw [removable]
    exact h.successes
  · rw [removable]
    exact iff_of_false (List.cons_ne_nil _ _) fewer
  · rw [removable]
    exact h.tracker
  · rw [removable]
    exact h.flows
  · exact h.settings
  · exact h.snapshot

theorem Purged.gone (works : s.base.faults.fails .removeFlow = false)
    (h : Purged keys {s with
      base := {s.base.asked with flows := s.base.flows.erase key}
      tracker := s.tracker.forget key} results t) :
    Purged (key :: keys) s (.ok key :: results) t := by
  have removable : s.base.faults.removable (key :: keys) =
      key :: s.base.faults.next.removable keys := by
    simp [Faults.removable, works]
  constructor
  · rw [removable]
    exact congrArg (key :: ·) h.successes
  · rw [removable, List.cons_inj_right]
    exact h.failures
  · rw [removable]
    exact h.tracker
  · intro k
    rw [removable, h.flows k]
    by_cases same : key = k
    · simp [same]
    · have other : ¬ k = key := Ne.symm same
      simp [same, other, Table.getElem?_erase]
      rfl
  · exact h.settings
  · exact h.snapshot

theorem purgeAll_ensures (keys : List Key) (s : Service Memory) (distinct : keys.Nodup)
    (there : ∀ key ∈ keys, s.base.flows.contains key = true) :
    (keys.mapM purge).Ensures s fun r t =>
      ∃ results, r = .ok results ∧ Purged keys s results t := by
  induction keys generalizing s with
  | nil =>
    exact .pure ⟨[], rfl, rfl, by simp [failures, Faults.removable], rfl,
      fun key => by simp [Faults.removable], rfl, rfl⟩
  | cons key keys ih =>
    obtain ⟨fresh, distinct⟩ := List.nodup_cons.mp distinct
    have here := there key List.mem_cons_self
    have others := fun k member => there k (List.mem_cons_of_mem key member)
    rw [List.mapM_cons]
    refine .bind (.bind (.result (.onPart (Memory.ensures_removeFlow here ?_ ?_))))
    · intro fails
      refine .pure (.bind ((ih {s with base := s.base.asked} distinct others).mono ?_))
      rintro _ t ⟨results, rfl, h⟩
      exact .pure ⟨_, rfl, h.kept fails _⟩
    · intro works
      have left : ∀ k ∈ keys, (s.base.flows.erase key).contains k = true := by
        intro k member
        have other : key ≠ k := fun same => fresh (same ▸ member)
        rw [Std.ExtTreeMap.contains_eq_isSome_getElem?, Table.getElem?_erase, if_neg other,
          ← Std.ExtTreeMap.contains_eq_isSome_getElem?]
        exact others k member
      refine .modify_bind (.pure (.bind ((ih _ distinct left).mono ?_)))
      rintro _ t ⟨results, rfl, h⟩
      exact .pure ⟨_, rfl, h.gone works⟩

theorem dropStale_ensures (s : Service Memory) (live : List Key) :
    (dropStale live).Ensures s fun r t =>
      r = .ok () ∧ t = {s with tracker := s.tracker.retain (.ofList live)} := by
  refine .get_bind (.set_bind ?_)
  dsimp only
  split
  · exact .note ⟨rfl, rfl⟩
  · exact .pure ⟨rfl, rfl⟩

theorem throwAll_ensures (s : Service Memory) (es : List ServiceError) :
    (throwAll es).Ensures s fun r t => (r = .ok () ↔ es = []) ∧ t = s := by
  cases es with
  | nil => exact .pure ⟨by simp, rfl⟩
  | cons e es => exact .throw ⟨by simp, rfl⟩

/-! ### Readings of the table -/

def syncFlowsOn (reading : List (Except ServiceError Observation)) (now : Instant) :
    Action (Service Memory) Nat :=
  @syncFlows Memory ⟨Pure.pure reading, FlowTable.removeFlow⟩ now

def ownReading (m : Memory) : List (Except ServiceError Observation) :=
  m.flows.toList.map .ok ++ m.unreadable.map fun why => .error (.engine why)

theorem successes_ownReading (m : Memory) : successes (ownReading m) = m.flows.toList := by
  simp [successes, ownReading, List.filterMap_append, List.filterMap_map, Function.comp_def,
    Except.toOption]

end Service

open Service

/-- What the host does during a pass: the table of flows, what is read of it, and which removals
fail. Any part of the table may be unreadable. -/
structure Scan where
  flows : Std.ExtTreeMap Key Info
  reading : List (Except ServiceError Observation)
  now : Instant
  faults : Faults := .none
  distinct : ((successes reading).map Prod.fst).Nodup
  present : ∀ key info, (key, info) ∈ successes reading → flows[key]? = some info
  complete : failures reading = [] →
    ∀ (key : Key) info, flows[key]? = some info → (key, info) ∈ successes reading

namespace Scan

/-- A host in memory reads all of its table, by ascending keys, and then what is unreadable. -/
def own (m : Memory) (now : Instant) : Scan where
  flows := m.flows
  reading := ownReading m
  now
  faults := m.faults
  distinct := by
    rw [successes_ownReading, Std.ExtTreeMap.map_fst_toList_eq_keys]
    exact Std.ExtTreeMap.nodup_keys
  present := by
    intro key info read
    rw [successes_ownReading] at read
    exact Std.ExtTreeMap.mem_toList_iff_getElem?_eq_some.mp read
  complete := by
    intro _ key info there
    rw [successes_ownReading]
    exact Std.ExtTreeMap.mem_toList_iff_getElem?_eq_some.mpr there

variable (scan : Scan) (s : Service Memory)

def observed : List Observation := successes scan.reading

def unread : List ServiceError := failures scan.reading

theorem nodup_observed : (scan.observed.map Prod.fst).Nodup := scan.distinct

def pass : Flow.Pass := (s.tracker.sync scan.observed scan.now s.settings.gcLifetime).1

def synced : Flow.Tracker := (s.tracker.sync scan.observed scan.now s.settings.gcLifetime).2

def removed : List Key := scan.faults.removable (scan.pass s).purge

def facing : Service Memory :=
  {s with base := {s.base with flows := scan.flows, faults := scan.faults}}

def outcome : Outcome (Service Memory) Nat :=
  (syncFlowsOn scan.reading scan.now).outcome (scan.facing s) #[]

theorem outcome_own (now : Instant) :
    (syncFlows now).outcome s #[] = (own s.base now).outcome s := by
  unfold outcome syncFlowsOn syncFlows
  rw [outcome_bind, outcome_bind]
  rfl

structure Swept (r : Except ServiceError Nat) (t : Service Memory) : Prop where
  answer : ∀ n, r = .ok n ↔ n = (scan.removed s).length ∧ scan.unread = [] ∧
    (scan.pass s).errors = [] ∧ scan.removed s = (scan.pass s).purge
  flows : ∀ key : Key,
    t.base.flows[key]? = if key ∈ scan.removed s then none else scan.flows[key]?
  tracker : ∀ key, t.tracker.get? key =
    if key ∈ scan.removed s ∨ (s.settings.gcEnabled = true ∧ scan.unread = [] ∧
      key ∉ scan.observed.map Prod.fst) then none else (scan.synced s).get? key
  undecodable : t.tracker.undecodable = (scan.synced s).undecodable
  settings : t.settings = s.settings
  snapshot : t.snapshot = s.snapshot

variable {scan s}

theorem due_present {key : Key} (due : key ∈ (scan.pass s).purge) :
    scan.flows.contains key = true := by
  have purge : (scan.pass s).purge = _ :=
    congrArg Flow.Pass.purge (Flow.Tracker.sync_fst s.tracker scan.distinct)
  rw [purge] at due
  obtain ⟨⟨k, info⟩, member, found⟩ := List.mem_filterMap.mp due
  obtain ⟨rfl, -⟩ := Flow.Tracker.due?_eq_some_iff.mp found
  rw [Std.ExtTreeMap.contains_eq_isSome_getElem?, scan.present k info member]
  rfl

section Ending

variable {u : Service Memory} {results : List (Except ServiceError Key)}

theorem reported_swept
    (purged : Purged (scan.pass s).purge {scan.facing s with tracker := scan.synced s} results u)
    (tracker : Flow.Tracker)
    (entries : ∀ key, tracker.get? key =
      if key ∈ scan.removed s ∨ (s.settings.gcEnabled = true ∧ scan.unread = [] ∧
        key ∉ scan.observed.map Prod.fst) then none else (scan.synced s).get? key)
    (failed : tracker.undecodable = (scan.synced s).undecodable) :
    (do
      throwAll (scan.unread ++ (scan.pass s).errors.map Flow.FlowError.toService ++
        failures results)
      return (scan.removed s).length : Action (Service Memory) Nat).Ensures {u with tracker}
      (scan.Swept s) := by
  refine .bind ((throwAll_ensures _ _).mono ?_)
  rintro r t ⟨whole, rfl⟩
  have quiet : r = .ok () ↔ scan.unread = [] ∧ (scan.pass s).errors = [] ∧
      scan.removed s = (scan.pass s).purge := by
    rw [whole, List.append_eq_nil_iff, List.append_eq_nil_iff, List.map_eq_nil_iff, and_assoc,
      purged.failures]
    rfl
  have rest (r' : Except ServiceError Nat) (answer : ∀ n, r' = .ok n ↔
      n = (scan.removed s).length ∧ r = .ok ()) : scan.Swept s r' {u with tracker} := by
    constructor
    · intro n
      rw [answer n, quiet]
    · exact purged.flows
    · exact entries
    · exact failed
    · exact purged.settings
    · exact purged.snapshot
  cases r with
  | ok x => exact .pure (rest _ fun n => by simp [eq_comm])
  | error e => exact rest _ fun n => by simp

theorem dropped_swept
    (purged : Purged (scan.pass s).purge {scan.facing s with tracker := scan.synced s} results u) :
    (do
      if s.settings.gcEnabled && scan.unread.isEmpty then
        dropStale ((scan.observed.map Prod.fst).filter fun key => !(scan.removed s).contains key)
      throwAll (scan.unread ++ (scan.pass s).errors.map Flow.FlowError.toService ++
        failures results)
      return (scan.removed s).length : Action (Service Memory) Nat).Ensures u (scan.Swept s) := by
  have forgotten (key : Key) :
      u.tracker.get? key = if key ∈ scan.removed s then none else (scan.synced s).get? key := by
    rw [purged.tracker]
    exact Flow.Tracker.get?_foldl_forget _ _ key
  have undecodable : u.tracker.undecodable = (scan.synced s).undecodable := by
    rw [purged.tracker]
    exact Flow.Tracker.undecodable_foldl_forget _ _
  refine .guarded (fun enabled => ?_) fun disabled => ?_
  · rw [Bool.and_eq_true, List.isEmpty_iff] at enabled
    refine (dropStale_ensures u _).mono ?_
    rintro _ t ⟨rfl, rfl⟩
    refine reported_swept purged _ (fun key => ?_) undecodable
    rw [Flow.Tracker.get?_retain, forgotten]
    simp only [List.mem_filter, enabled, true_and]
    by_cases gone : key ∈ scan.removed s
    · simp [gone]
    · by_cases read : key ∈ scan.observed.map Prod.fst
      · simp [gone, read]
      · simp [gone, read]
  · rw [Bool.and_eq_true, List.isEmpty_iff] at disabled
    refine reported_swept purged u.tracker (fun key => ?_) undecodable
    rw [forgotten]
    by_cases gone : key ∈ scan.removed s
    · simp [gone]
    · have kept : ¬ (s.settings.gcEnabled = true ∧ scan.unread = [] ∧
          key ∉ scan.observed.map Prod.fst) :=
        fun ⟨gc, whole, _⟩ => disabled ⟨gc, whole⟩
      simp only [gone, kept, or_false, if_false]

theorem ending_swept
    (purged : Purged (scan.pass s).purge {scan.facing s with tracker := scan.synced s} results u) :
    (do
      if !(successes results).isEmpty then
        note (.debug "conntrack entries purged" [("count", (successes results).length)])
      if s.settings.gcEnabled && scan.unread.isEmpty then
        dropStale ((scan.observed.map Prod.fst).filter fun key => !(successes results).contains key)
      throwAll (scan.unread ++ (scan.pass s).errors.map Flow.FlowError.toService ++
        failures results)
      return (successes results).length : Action (Service Memory) Nat).Ensures u
      (scan.Swept s) := by
  have successes : successes results = scan.removed s := purged.successes
  rw [successes]
  exact .guarded (fun _ => .note (dropped_swept purged)) fun _ => dropped_swept purged

end Ending

theorem swept (scan : Scan) (s : Service Memory) :
    scan.Swept s (scan.outcome s).answer (scan.outcome s).state := by
  refine (?_ : (syncFlowsOn scan.reading scan.now).Ensures (scan.facing s) (scan.Swept s)) #[]
  refine .bind (.onPart (.pure (.get_bind (.set_bind ?_))))
  have once : (scan.pass s).purge.Nodup := Flow.Tracker.purge_nodup s.tracker scan.distinct
  refine .bind ((purgeAll_ensures (scan.pass s).purge
    {scan.facing s with tracker := scan.synced s} once fun key => due_present).mono ?_)
  rintro _ u ⟨results, rfl, purged⟩
  exact ending_swept purged

end Scan
end Balancer
end EdgeControl
