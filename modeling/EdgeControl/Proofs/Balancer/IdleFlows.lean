import EdgeControl.Proofs.Balancer.Reconciliation

/-!
Which UDP flows are purged, and whether they were idle. The tracker keeps the time of a flow until
its counter grows, and asks for nothing else. So a flow that went away and came back with a smaller
counter is taken for the old one, and it is as old as that one was.
-/
namespace EdgeControl.Balancer

open EdgeControl.Flow (Key Info Entry meaning?)
open Service

theorem exists_last_suffix {α : Type} {p : α → Prop} {l : List α} {a : α} (member : a ∈ l)
    (holds : p a) : ∃ b rest, b :: rest <:+ l ∧ p b ∧ ∀ c ∈ rest, ¬ p c := by
  induction l generalizing a with
  | nil => cases member
  | cons d l ih =>
    by_cases later : ∃ c ∈ l, p c
    · obtain ⟨c, inside, meets⟩ := later
      obtain ⟨b, rest, suffix, found, none⟩ := ih inside meets
      exact ⟨b, rest, suffix.trans (List.suffix_cons d l), found, none⟩
    · rcases List.mem_cons.mp member with rfl | inside
      · exact ⟨a, l, List.suffix_rfl, holds, fun c inside meets => later ⟨c, inside, meets⟩⟩
      · exact absurd ⟨a, inside, holds⟩ later

namespace Scan

def Counts (scan : Scan) (key : Key) (n : UInt64) : Prop :=
  ∃ info, (key, info) ∈ scan.observed ∧ info.counter = n

/-- The pass reads the flow with a counter that is not larger, and with the same one if the record
cannot be made out. -/
def Unmoved (scan : Scan) (key : Key) (n : UInt64) : Prop :=
  ∃ info, (key, info) ∈ scan.observed ∧ info.counter ≤ n ∧
    (meaning? key info = none → info.counter = n)

/-- A pass longer ago than the lifetime and all passes since then read the flow with one counter. -/
def Idle (last : Scan) (lifetime : Nat) (scans : List Scan) (key : Key) : Prop :=
  ∃ n first after, first :: after <:+ scans ∧ lifetime < first.now.elapsed last.now ∧
    last.Counts key n ∧ ∀ scan ∈ first :: after, scan.Counts key n

/-- The passes from the last one on that is longer ago than the lifetime. -/
structure Window (last : Scan) (lifetime : Nat) (scans : List Scan) (first : Scan)
    (after : List Scan) : Prop where
  suffix : first :: after <:+ scans
  old : lifetime < first.now.elapsed last.now
  recent : ∀ scan ∈ after, ¬ lifetime < scan.now.elapsed last.now

variable {scan last first older : Scan} {scans after later : List Scan} {key : Key}
  {info other : Info} {lifetime : Nat}

theorem record_unique (read : (key, info) ∈ scan.observed) (again : (key, other) ∈ scan.observed) :
    info = other := by
  have found := scan.present key info read
  rw [scan.present key other again] at found
  exact (Option.some.inj found).symm

theorem Window.suffix_of_old (h : last.Window lifetime scans first after)
    (suffix : older :: later <:+ scans) (old : lifetime < older.now.elapsed last.now) :
    first :: after <:+ older :: later := by
  rcases List.suffix_or_suffix_of_suffix h.suffix suffix with inside | around
  · exact inside
  · rcases List.suffix_cons_iff.mp around with same | inside
    · simp [same]
    · have member := inside.subset List.mem_cons_self
      exact absurd old (h.recent older member)

end Scan

/-! ### What the time of an entry says -/

/-- An entry has its time from the first of some passes, and its counter never grew since. -/
structure Dates (settings : Flow.Settings) (key : Key) (e : Entry) (first : Scan)
    (after : List Scan) : Prop where
  time : first.now = e.lastSeen
  fallen : ∀ scan ∈ first :: after, ∀ info, (key, info) ∈ scan.observed →
    meaning? key info ≠ none → e.counter ≤ info.counter
  read : settings.gcEnabled = true → ∀ scan ∈ first :: after, scan.unread = [] →
    key ∈ scan.observed.map Prod.fst

def Dated (settings : Flow.Settings) (scans : List Scan) (s : Service Memory) : Prop :=
  ∀ key e, s.tracker.get? key = some e →
    ∃ first after, first :: after <:+ scans ∧ Dates settings key e first after

variable {settings : Flow.Settings} {scan first : Scan} {scans after : List Scan}
  {s : Service Memory} {key : Key} {info : Info} {e : Entry}

theorem Dates.concat (h : Dates settings key e first after) {e' : Entry}
    (time : e'.lastSeen = e.lastSeen) (below : e'.counter ≤ e.counter)
    (fallen : ∀ info, (key, info) ∈ scan.observed → meaning? key info ≠ none →
      e'.counter ≤ info.counter)
    (read : settings.gcEnabled = true → scan.unread = [] → key ∈ scan.observed.map Prod.fst) :
    Dates settings key e' first (after ++ [scan]) := by
  constructor
  · rw [time, h.time]
  · intro t member info
    rw [← List.cons_append, List.mem_append, List.mem_singleton] at member
    rcases member with before | rfl
    · intro observed known
      exact UInt64.le_trans below (h.fallen t before info observed known)
    · exact fallen info
  · intro gc t member
    rw [← List.cons_append, List.mem_append, List.mem_singleton] at member
    rcases member with before | rfl
    · exact h.read gc t before
    · exact read gc

theorem Dates.begin (time : scan.now = e.lastSeen) (member : (key, info) ∈ scan.observed)
    (counter : e.counter = info.counter) : Dates settings key e scan [] := by
  constructor
  · exact time
  · intro t first other again _
    rw [List.mem_singleton.mp first] at again
    rw [counter, Scan.record_unique member again]
    exact UInt64.le_refl _
  · intro _ t first _
    rw [List.mem_singleton.mp first]
    exact List.mem_map_of_mem member

theorem suffix_concat {α : Type} {a b : α} {l m : List α} (h : a :: l <:+ m) :
    a :: (l ++ [b]) <:+ m ++ [b] := by
  obtain ⟨before, rfl⟩ := h
  exact ⟨before, by simp⟩

theorem Dated.observed (h : Dated settings scans s) (tracking : Tracking settings turns s)
    (member : (key, info) ∈ scan.observed) (found : (scan.synced s).get? key = some e)
    (read : settings.gcEnabled = true → scan.unread = [] → key ∈ scan.observed.map Prod.fst) :
    ∃ first after, first :: after <:+ scans ++ [scan] ∧ Dates settings key e first after := by
  rw [Scan.synced, tracking.coherent.get?_sync scan.nodup_observed member] at found
  cases known : meaning? key info with
  | none =>
    -- The record cannot be made out, so the entry stays as it was.
    simp only [known, Option.map_none, Option.none_or] at found
    obtain ⟨first, after, suffix, dates⟩ := h key e found
    refine ⟨first, after ++ [scan], suffix_concat suffix, ?_⟩
    apply dates.concat rfl (UInt64.le_refl _) _ read
    intro other again made
    rw [Scan.record_unique again member] at made
    exact absurd known made
  | some m =>
    simp only [known, Option.map_some, Option.some_or, Option.some.injEq] at found
    subst found
    have anew (now : s.tracker.seen key info scan.now = scan.now) :
        ∃ first after, first :: after <:+ scans ++ [scan] ∧ Dates settings key
          (.ofMeaning key info m (s.tracker.seen key info scan.now)) first after :=
      ⟨scan, [], List.suffix_append scans [scan], .begin now.symm member rfl⟩
    cases old : s.tracker.get? key with
    | none => exact anew (by simp [Flow.Tracker.seen, old])
    | some e =>
      by_cases grown : e.counter < info.counter
      · exact anew (by simp [Flow.Tracker.seen, old, grown])
      · obtain ⟨first, after, suffix, dates⟩ := h key e old
        refine ⟨first, after ++ [scan], suffix_concat suffix, ?_⟩
        apply dates.concat _ (UInt64.not_lt.mp grown) _ read
        · simp [Flow.Entry.ofMeaning, Flow.Tracker.seen, old, grown]
        · intro other again _
          rw [Scan.record_unique again member]
          exact UInt64.le_refl _

theorem Dated.pass (h : Dated settings scans s) (tracking : Tracking settings turns s)
    (scan : Scan) : Dated settings (scans ++ [scan]) (scan.outcome s).state := by
  intro key e found
  rw [(scan.swept s).tracker] at found
  split at found
  · cases found
  · rename_i kept
    rw [tracking.settings] at kept
    have read : settings.gcEnabled = true → scan.unread = [] →
        key ∈ scan.observed.map Prod.fst := by
      intro gc whole
      by_contra absent
      exact kept (.inr ⟨gc, whole, absent⟩)
    by_cases observed : key ∈ scan.observed.map Prod.fst
    · obtain ⟨⟨k, info⟩, member, rfl⟩ := List.mem_map.mp observed
      exact h.observed tracking member found read
    · rw [Scan.synced, Flow.Tracker.get?_sync_of_absent s.tracker observed] at found
      obtain ⟨first, after, suffix, dates⟩ := h key e found
      refine ⟨first, after ++ [scan], suffix_concat suffix, ?_⟩
      apply dates.concat rfl (UInt64.le_refl _) _ read
      intro info member
      exact absurd (List.mem_map_of_mem member) observed

theorem play_dated (frontend : Frontend) (settings : Flow.Settings) (scans : List Scan) :
    Dated settings scans ((fresh frontend settings).play (scans.map .pass)) := by
  induction scans using List.reverseRecOn with
  | nil =>
    intro key e found
    cases found
  | append_singleton scans scan ih =>
    have tracking := play_tracking frontend settings (scans.map .pass)
    have after := ih.pass tracking scan
    simpa [play, Turn.after] using after

/-! ### What is purged -/

theorem Dated.removed (h : Dated settings scans s) (tracking : Tracking settings turns s)
    {last : Scan} (there : last.flows[key]? = some info)
    (alive : Flow.State.ofNumber info.status ≠ .ok .closed)
    (gone : (last.outcome s).state.base.flows[key]? = none) :
    Protocol.ofNumber key.protocol = .ok .udp ∧ (key, info) ∈ last.observed ∧
      ∃ e first after, first :: after <:+ scans ∧ Dates settings key e first after ∧
        settings.gcLifetime < first.now.elapsed last.now ∧ info.counter ≤ e.counter := by
  rw [(last.swept s).flows] at gone
  split at gone
  · rename_i removed
    have due : key ∈ (last.pass s).purge := (Faults.removable_sublist _ _).subset removed
    obtain ⟨other, member, protocol, state, known, overdue⟩ := (tracking.mem_purge key).mp due
    have same : other = info := by
      have found := last.present key other member
      rw [there] at found
      exact (Option.some.inj found).symm
    subst same
    obtain ⟨protocol_known, state_known⟩ := Flow.meaning?_eq_some_iff.mp known
    rcases overdue with rfl | ⟨rfl, old⟩
    · exact absurd state_known alive
    · refine ⟨protocol_known, member, ?_⟩
      rw [tracking.settings] at old
      have nothing : ¬ settings.gcLifetime < last.now.elapsed last.now := by
        simp [Instant.elapsed]
      cases entry : s.tracker.get? key with
      | none => simp [Flow.Tracker.seen, entry, nothing] at old
      | some e =>
        by_cases grown : e.counter < other.counter
        · simp [Flow.Tracker.seen, entry, grown, nothing] at old
        · obtain ⟨first, after, suffix, dates⟩ := h key e entry
          simp only [Flow.Tracker.seen, entry, grown, if_false, ← dates.time] at old
          exact ⟨e, first, after, suffix, dates, old, UInt64.not_lt.mp grown⟩
  · rw [there] at gone
    cases gone

/-- A pass removes a flow that is not closed only if it is a UDP flow that was read for the first
time, or seen to grow, longer ago than the lifetime. The flow was idle exactly if every pass of the
window reads it and none reads a counter larger than the last one, that is if it did not go away and
its counter did not fall. -/
theorem purged_idle_iff (frontend : Frontend) (settings : Flow.Settings) (scans : List Scan)
    (last : Scan) (key : Key) (info : Info) (there : last.flows[key]? = some info)
    (alive : Flow.State.ofNumber info.status ≠ .ok .closed)
    (gone : (last.outcome ((fresh frontend settings).play
      (scans.map .pass))).state.base.flows[key]? = none) :
    Protocol.ofNumber key.protocol = .ok .udp ∧
      ∃ first after, last.Window settings.gcLifetime scans first after ∧
        (settings.gcEnabled = true → ∀ scan ∈ first :: after, scan.unread = [] →
          key ∈ scan.observed.map Prod.fst) ∧
        (last.Idle settings.gcLifetime scans key ↔
          ∀ scan ∈ first :: after, scan.Unmoved key info.counter) := by
  have dated := play_dated frontend settings scans
  have tracking := play_tracking frontend settings (scans.map .pass)
  obtain ⟨udp, read, e, origin, since, suffix, dates, old, below⟩ :=
    dated.removed tracking there alive gone
  obtain ⟨first, after, inside, late, recent⟩ :=
    exists_last_suffix (p := fun scan : Scan => settings.gcLifetime < scan.now.elapsed last.now)
      List.mem_cons_self old
  have window : last.Window settings.gcLifetime scans first after :=
    ⟨inside.trans suffix, late, recent⟩
  refine ⟨udp, first, after, window, ?_, ?_⟩
  · intro gc scan member
    exact dates.read gc scan (inside.subset member)
  · constructor
    · rintro ⟨n, older, later, begun, long, ⟨other, again, rfl⟩, counts⟩ scan member
      have around := window.suffix_of_old begun long
      obtain ⟨record, observed, same⟩ := counts scan (around.subset member)
      rw [Scan.record_unique again read] at same
      exact ⟨record, observed, same ▸ UInt64.le_refl _, fun _ => same⟩
    · intro unmoved
      refine ⟨info.counter, first, after, window.suffix, late, ⟨info, read, rfl⟩, ?_⟩
      intro scan member
      obtain ⟨record, observed, fallen, same⟩ := unmoved scan member
      refine ⟨record, observed, ?_⟩
      by_cases unknown : meaning? key record = none
      · exact same unknown
      · have above := dates.fallen scan (inside.subset member) record observed unknown
        exact UInt64.le_antisymm fallen (UInt64.le_trans below above)

namespace Sample

def query : Key := .ofEnds (.ofOctets 10 0 0 9) addr 5353 53 17

def counting (n : UInt64) (seconds : UInt64) : Scan :=
  .own {flows := (∅ : Std.ExtTreeMap Key Info).insert query {id := 1, status := 0, counter := n}}
    (.ofMillis (1000 * seconds))

def away (seconds : UInt64) : Scan := .own (∅ : Memory) (.ofMillis (1000 * seconds))

def minute : Flow.Settings := {gcLifetimeSecs := 60}

end Sample

/-- A flow is gone after a second. When it is back with its first packet it is removed at once. -/
theorem returned_flow_purged :
    let scans := [Sample.counting 5 0, Sample.away 1]
    let last := Sample.counting 1 100
    let o := last.outcome ((fresh Sample.frontend Sample.minute).play (scans.map .pass))
    o.answer = .ok 1 ∧ o.state.base.flows[Sample.query]? = none ∧
      ¬ last.Idle Sample.minute.gcLifetime scans Sample.query := by
  intro scans last o
  refine ⟨by decide +kernel, by decide +kernel, ?_⟩
  rintro ⟨n, first, after, suffix, -, -, counts⟩
  have member : Sample.away 1 ∈ first :: after := by
    rcases List.suffix_cons_iff.mp suffix with same | inside
    · simp [same]
    · rcases List.suffix_cons_iff.mp inside with same | none
      · simp [same]
      · simp at none
  obtain ⟨info, read, -⟩ := counts _ member
  cases read

/-- A flow that counts as much after a minute and a second as it did before is idle. -/
theorem purged_idle_iff_kept : (Sample.counting 5 61).Idle Sample.minute.gcLifetime
    [Sample.counting 5 0] Sample.query := by
  obtain ⟨-, first, after, window, -, idle⟩ := purged_idle_iff Sample.frontend Sample.minute
    [Sample.counting 5 0] (Sample.counting 5 61) Sample.query {id := 1, status := 0, counter := 5}
    (by decide +kernel) (by decide +kernel) (by decide +kernel)
  apply idle.mpr
  intro scan member
  have only := window.suffix.subset member
  rw [List.mem_singleton.mp only]
  exact ⟨{id := 1, status := 0, counter := 5}, by decide +kernel, by decide, fun _ => rfl⟩

end EdgeControl.Balancer
