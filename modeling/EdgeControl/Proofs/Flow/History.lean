import EdgeControl.Proofs.Flow.Pass
import EdgeControl.Proofs.InTurn
import Mathlib.Data.List.Induction

/-!
The tracker over a history of passes. After each pass any of the flows to purge may be forgotten,
as their records were removed from the data plane's table or not. What the tracker says of a flow is
what its last good record said, and its time is that of the last pass that began the entry or saw
the counter grow.
-/
namespace EdgeControl.Flow

open Tracker

/-- One pass, and which of the flows to purge are then forgotten. -/
structure Round where
  observed : List Observation
  distinct : (observed.map Prod.fst).Nodup
  now : Instant
  lifetime : Nat
  forgets : Key → Bool

namespace Round

def pass (r : Round) (t : Tracker) : Pass := (t.sync r.observed r.now r.lifetime).1

def synced (r : Round) (t : Tracker) : Tracker := (t.sync r.observed r.now r.lifetime).2

def after (r : Round) (t : Tracker) : Tracker :=
  ((r.pass t).purge.filter r.forgets).foldl forget (r.synced t)

def record? (r : Round) (key : Key) : Option Info :=
  (r.observed.lookup key).filter fun info => (meaning? key info).isSome

structure Reordered (r r' : Round) : Prop where
  observed : r.observed.Perm r'.observed
  now : r'.now = r.now
  lifetime : r'.lifetime = r.lifetime
  forgets : r'.forgets = r.forgets

end Round

def track (rounds : List Round) : Tracker := rounds.foldl (fun t r => r.after t) ∅

def lastRecord? (key : Key) (rounds : List Round) : Option Info :=
  rounds.reverse.findSome? (·.record? key)

def Creates (key : Key) (earlier : List Round) (r : Round) : Prop :=
  (track earlier).get? key = none ∧ ∃ info, r.record? key = some info

def Grows (key : Key) (earlier : List Round) (r : Round) : Prop :=
  ∃ old new, lastRecord? key earlier = some old ∧ r.record? key = some new ∧
    old.counter < new.counter

def Moves (key : Key) (earlier : List Round) (r : Round) : Prop :=
  Creates key earlier r ∨ Grows key earlier r

/-- The last pass that created the entry or saw the counter grow was at `time`. As that covers the
creation, no pass from before the entry counts. -/
def LastMoved (key : Key) (rounds : List Round) (time : Instant) : Prop :=
  ∃ earlier r later, rounds = earlier ++ r :: later ∧ r.now = time ∧ Moves key earlier r ∧
    ∀ between s rest, later = between ++ s :: rest → ¬ Moves key (earlier ++ r :: between) s

variable {r r' : Round} {rounds earlier earlier' : List Round} {key : Key} {info : Info}
  {e : Entry} {t : Tracker} {time : Instant}

theorem Round.record?_eq_some_iff : r.record? key = some info ↔
    (key, info) ∈ r.observed ∧ ∃ m, meaning? key info = some m := by
  have found : r.observed.lookup key = some info ↔ (key, info) ∈ r.observed := by
    constructor
    · intro h
      obtain ⟨front, back, split, -⟩ := List.lookup_eq_some_iff.mp h
      simp [split]
    · intro member
      obtain ⟨front, back, split⟩ := List.append_of_mem member
      have distinct := r.distinct
      rw [split, List.map_append, List.map_cons, List.nodup_append] at distinct
      refine List.lookup_eq_some_iff.mpr ⟨front, back, split, fun p earlier => ?_⟩
      have other := distinct.2.2 p.1 (List.mem_map_of_mem earlier) key List.mem_cons_self
      simpa using Ne.symm other
  rw [Round.record?, Option.filter_eq_some_iff, found, Option.isSome_iff_exists]

theorem track_concat (rounds : List Round) (r : Round) :
    track (rounds ++ [r]) = r.after (track rounds) := by
  rw [track, track, List.foldl_concat]

theorem lastRecord?_concat (key : Key) (rounds : List Round) (r : Round) :
    lastRecord? key (rounds ++ [r]) = (r.record? key).or (lastRecord? key rounds) := by
  rw [lastRecord?, List.reverse_append, List.findSome?_append, List.reverse_singleton,
    List.findSome?_singleton]
  rfl

theorem LastMoved.self (moves : Moves key earlier r) : LastMoved key (earlier ++ [r]) r.now := by
  refine ⟨earlier, r, [], rfl, rfl, moves, ?_⟩
  intro between s rest split
  simp at split

theorem LastMoved.concat (h : LastMoved key rounds time) (still : ¬ Moves key rounds r) :
    LastMoved key (rounds ++ [r]) time := by
  obtain ⟨earlier, moved, later, rfl, at_, moves, none⟩ := h
  refine ⟨earlier, moved, later ++ [r], by simp, at_, moves, ?_⟩
  intro between s rest split
  rcases concat_eq_append_cons split with ⟨rfl, rfl, -⟩ | ⟨rest, before, -⟩
  · exact still
  · exact none between s rest before

/-! ### One pass -/

theorem Round.get?_synced (h : t.Coherent) (r : Round) (key : Key) :
    (r.synced t).get? key = match r.record? key with
      | none => t.get? key
      | some info =>
        (meaning? key info).map fun m => .ofMeaning key info m (t.seen key info r.now) := by
  cases record : r.record? key with
  | some info =>
    obtain ⟨member, m, known⟩ := record?_eq_some_iff.mp record
    have synced : (t.sync r.observed r.now r.lifetime).2.get? key = _ :=
      h.get?_sync r.distinct member
    simp [Round.synced, synced, known]
  | none =>
    by_cases read : key ∈ r.observed.map Prod.fst
    · obtain ⟨⟨k, info⟩, member, rfl⟩ := List.mem_map.mp read
      have unknown : meaning? k info = none := by
        cases known : meaning? k info with
        | none => rfl
        | some m =>
          have found := record?_eq_some_iff.mpr ⟨member, m, known⟩
          rw [record] at found
          cases found
      have synced : (t.sync r.observed r.now r.lifetime).2.get? k = _ :=
        h.get?_sync r.distinct member
      simp [Round.synced, synced, unknown]
    · exact get?_sync_of_absent t read

theorem Round.get?_after (r : Round) (t : Tracker) (key : Key) :
    (r.after t).get? key =
      if key ∈ (r.pass t).purge ∧ r.forgets key = true then none else (r.synced t).get? key := by
  simp only [Round.after, get?_foldl_forget, List.mem_filter]

/-! ### What the entries remember -/

structure Remembers (rounds : List Round) (t : Tracker) : Prop where
  coherent : t.Coherent
  counter : ∀ key e, t.get? key = some e →
    ∃ info, lastRecord? key rounds = some info ∧ info.counter = e.counter
  lastSeen : ∀ key e, t.get? key = some e → LastMoved key rounds e.lastSeen

theorem Moves.read (moves : Moves key earlier r) : ∃ info, r.record? key = some info := by
  rcases moves with ⟨-, info, read⟩ | ⟨-, info, -, read, -⟩
  · exact ⟨info, read⟩
  · exact ⟨info, read⟩

theorem Remembers.seen (h : Remembers rounds (track rounds)) (record : r.record? key = some info) :
    LastMoved key (rounds ++ [r]) ((track rounds).seen key info r.now) := by
  cases known : (track rounds).get? key with
  | none =>
    have seen : (track rounds).seen key info r.now = r.now := by simp [Tracker.seen, known]
    rw [seen]
    exact .self (.inl ⟨known, info, record⟩)
  | some old =>
    obtain ⟨before, last, counter⟩ := h.counter key old known
    by_cases grown : old.counter < info.counter
    · have seen : (track rounds).seen key info r.now = r.now := by
        simp [Tracker.seen, known, grown]
      rw [seen]
      exact .self (.inr ⟨before, info, last, record, counter ▸ grown⟩)
    · have seen : (track rounds).seen key info r.now = old.lastSeen := by
        simp [Tracker.seen, known, grown]
      have still : ¬ Moves key rounds r := by
        rintro (⟨absent, -⟩ | ⟨past, new, read, now, grows⟩)
        · simp [known] at absent
        · rw [last] at read
          rw [record] at now
          cases read
          cases now
          exact grown (counter ▸ grows)
      rw [seen]
      exact (h.lastSeen key old known).concat still

theorem Remembers.synced (h : Remembers rounds (track rounds)) (r : Round) :
    Remembers (rounds ++ [r]) (r.synced (track rounds)) := by
  constructor
  · exact h.coherent.sync r.distinct
  · intro key e found
    rw [Round.get?_synced h.coherent] at found
    rw [lastRecord?_concat]
    cases record : r.record? key with
    | none =>
      rw [record] at found
      simpa using h.counter key e found
    | some info =>
      rw [record] at found
      obtain ⟨m, -, rfl⟩ := Option.map_eq_some_iff.mp found
      exact ⟨info, rfl, rfl⟩
  · intro key e found
    rw [Round.get?_synced h.coherent] at found
    cases record : r.record? key with
    | none =>
      rw [record] at found
      refine (h.lastSeen key e found).concat fun moves => ?_
      obtain ⟨info, read⟩ := moves.read
      simp [record] at read
    | some info =>
      rw [record] at found
      obtain ⟨m, -, rfl⟩ := Option.map_eq_some_iff.mp found
      exact h.seen record

theorem Remembers.forget (h : Remembers rounds t) (gone : List Key) :
    Remembers rounds (gone.foldl forget t) := by
  have kept {key : Key} {e : Entry} (found : (gone.foldl Tracker.forget t).get? key = some e) :
      t.get? key = some e := by
    rw [get?_foldl_forget] at found
    split at found
    · cases found
    · exact found
  constructor
  · exact h.coherent.foldl_forget gone
  · intro key e found
    exact h.counter key e (kept found)
  · intro key e found
    exact h.lastSeen key e (kept found)

theorem track_remembers (rounds : List Round) : Remembers rounds (track rounds) := by
  induction rounds using List.reverseRecOn with
  | nil =>
    constructor
    · exact .empty
    · intro key e found
      cases found
    · intro key e found
      cases found
  | append_singleton rounds r ih =>
    rw [track_concat]
    exact (ih.synced r).forget _

/-! ### The order of the readings -/

theorem Round.Reordered.sync (h : r.Reordered r') (t : Tracker) :
    r'.synced t = r.synced t ∧ (r'.pass t).purge.Perm (r.pass t).purge ∧
      (r'.pass t).errors.Perm (r.pass t).errors := by
  unfold Round.synced Round.pass
  rw [h.now, h.lifetime]
  exact (sync_perm t r.distinct h.observed).imp .symm (.imp .symm .symm)

theorem Round.Reordered.after (h : r.Reordered r') (t : Tracker) : r'.after t = r.after t := by
  obtain ⟨synced, purge, -⟩ := h.sync t
  refine eq_of_get? (fun key => ?_) (fun key => ?_)
  · simp only [Round.get?_after, synced, h.forgets, purge.mem_iff]
  · rw [Round.after, Round.after, undecodable_foldl_forget, undecodable_foldl_forget, synced]

theorem track_reordered (h : List.Forall₂ Round.Reordered earlier earlier') :
    track earlier' = track earlier := by
  have from_ (t : Tracker) : earlier'.foldl (fun t r => r.after t) t =
      earlier.foldl (fun t r => r.after t) t := by
    induction h generalizing t with
    | nil => rfl
    | cons first rest ih => rw [List.foldl_cons, List.foldl_cons, first.after, ih]
  exact from_ ∅

/-! ### A pass at the end of a history -/

/-- What a pass makes of the tracker and of the flows to purge, in terms of the records read. -/
structure Round.Pursues (earlier : List Round) (r : Round) : Prop where
  readable : ∀ key info, (key, info) ∈ r.observed →
    ((∃ e, (track earlier).decode (key, info) r.now = .ok e) ↔ r.record? key = some info)
  carried : ∀ key info, r.record? key = some info →
    ∃ e, (r.synced (track earlier)).get? key = some e ∧ Describes key e ∧
      State.ofNumber info.status = .ok e.state ∧ e.counter = info.counter ∧ e.backendId = info.id
  unchanged : ∀ key, r.record? key = none →
    (r.synced (track earlier)).get? key = (track earlier).get? key
  lastSeen : ∀ key e, (r.synced (track earlier)).get? key = some e →
    LastMoved key (earlier ++ [r]) e.lastSeen
  once : (r.pass (track earlier)).purge.Nodup
  purge : ∀ key, key ∈ (r.pass (track earlier)).purge ↔
    ∃ info e, r.record? key = some info ∧ (r.synced (track earlier)).get? key = some e ∧
      (e.state = .closed ∨ (e.protocol = .udp ∧ r.lifetime < e.lastSeen.elapsed r.now))
  forgotten : ∀ key, (track (earlier ++ [r])).get? key =
    if key ∈ (r.pass (track earlier)).purge ∧ r.forgets key = true then none
    else (r.synced (track earlier)).get? key

theorem Round.pursues (earlier : List Round) (r : Round) : r.Pursues earlier := by
  have remembers := track_remembers earlier
  have coherent := remembers.coherent
  have synced (key : Key) := get?_synced coherent r key
  have made {key : Key} {info : Info} (record : r.record? key = some info) :
      ∃ m, meaning? key info = some m ∧ (r.synced (track earlier)).get? key =
        some (.ofMeaning key info m ((track earlier).seen key info r.now)) := by
    obtain ⟨-, m, known⟩ := record?_eq_some_iff.mp record
    have entry := synced key
    rw [record] at entry
    simp only [known, Option.map_some] at entry
    exact ⟨m, known, entry⟩
  constructor
  · intro key info member
    have decoded := coherent.decode key info r.now
    rw [record?_eq_some_iff, and_iff_right member]
    cases read : (track earlier).decode (key, info) r.now with
    | ok e =>
      rw [read] at decoded
      obtain ⟨m, known, -⟩ := Option.map_eq_some_iff.mp decoded.symm
      exact ⟨fun _ => ⟨m, known⟩, fun _ => ⟨e, rfl⟩⟩
    | error e =>
      rw [read] at decoded
      have unknown : meaning? key info = none := Option.map_eq_none_iff.mp decoded.symm
      simp [unknown]
  · intro key info record
    obtain ⟨m, known, entry⟩ := made record
    have state := (meaning?_eq_some_iff.mp known).2
    exact ⟨_, entry, describes_ofMeaning known _, state, rfl, rfl⟩
  · intro key none
    rw [synced, none]
  · exact (remembers.synced r).lastSeen
  · exact purge_nodup _ r.distinct
  · intro key
    rw [Round.pass, coherent.mem_purge r.distinct]
    constructor
    · rintro ⟨info, member, protocol, state, known, overdue⟩
      have record := record?_eq_some_iff.mpr ⟨member, _, known⟩
      obtain ⟨m, same, entry⟩ := made record
      rw [known] at same
      cases same
      exact ⟨info, _, record, entry, overdue⟩
    · rintro ⟨info, e, record, entry, overdue⟩
      obtain ⟨⟨protocol, state⟩, known, entry'⟩ := made record
      rw [entry'] at entry
      cases entry
      exact ⟨info, (record?_eq_some_iff.mp record).1, protocol, state, known, overdue⟩
  · intro key
    rw [track_concat, get?_after]

/-- After every history a pass carries over what the records say, moves the time of an entry only as
it should, and names the flows to purge. Nothing of this depends on the order of the readings. -/
theorem track_pursues (earlier : List Round) (r : Round) :
    r.Pursues earlier ∧ ∀ earlier' r', List.Forall₂ Round.Reordered earlier earlier' →
      r.Reordered r' → track earlier' = track earlier ∧
        r'.synced (track earlier') = r.synced (track earlier) ∧
        (r'.pass (track earlier')).purge.Perm (r.pass (track earlier)).purge ∧
        (r'.pass (track earlier')).errors.Perm (r.pass (track earlier)).errors := by
  refine ⟨r.pursues earlier, ?_⟩
  intro earlier' r' reordered last
  have same := track_reordered reordered
  rw [same]
  exact ⟨rfl, last.sync (track earlier)⟩

namespace Sample

def flow : Key := .ofEnds (.ofOctets 10 0 0 9) (.ofOctets 10 0 0 1) 53 53 17

def round (seconds : UInt64) (status : UInt8) (counter : UInt64) : Round where
  observed := [(flow, {id := 1, status, counter})]
  distinct := by simp
  now := .ofMillis (1000 * seconds)
  lifetime := 10 * nanosPerSecond
  forgets := fun _ => false

end Sample

/-- The counter grew last at the second pass. The clock went back then, and the third record cannot
be made out. -/
theorem track_pursues_idle :
    let earlier := [Sample.round 30 0 5, Sample.round 20 0 6, Sample.round 25 9 8]
    let r := Sample.round 31 0 6
    LastMoved Sample.flow (earlier ++ [r]) (.ofMillis 20000) ∧
      Sample.flow ∈ (r.pass (track earlier)).purge := by
  intro earlier r
  obtain ⟨pursues, -⟩ := track_pursues earlier r
  have entry : ((r.synced (track earlier)).get? Sample.flow).map
      (fun e => (e.protocol, e.lastSeen)) = some (.udp, .ofMillis 20000) := by decide +kernel
  obtain ⟨e, found, same⟩ := Option.map_eq_some_iff.mp entry
  have lastSeen : e.lastSeen = .ofMillis 20000 := congrArg Prod.snd same
  have record : r.record? Sample.flow = some {id := 1, status := 0, counter := 6} := by
    decide +kernel
  have idle : r.lifetime < e.lastSeen.elapsed r.now := by
    rw [lastSeen]
    decide +kernel
  have udp : e.protocol = .udp := congrArg Prod.fst same
  exact ⟨lastSeen ▸ pursues.lastSeen _ e found,
    (pursues.purge _).mpr ⟨_, e, record, found, .inr ⟨udp, idle⟩⟩⟩

end EdgeControl.Flow
