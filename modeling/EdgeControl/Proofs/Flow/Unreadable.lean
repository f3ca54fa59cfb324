import EdgeControl.Proofs.Flow.Pass
import Mathlib.Data.List.Forall2
import Mathlib.Data.List.Induction

/-!
Records that cannot be made out, under any calls to the tracker. What the tracker remembers of them
is the reading of the last pass and nothing older, so a flow is reported whenever it fails after a
pass in which it did not. Besides the report such a record is as good as not read.
-/
namespace EdgeControl.Flow

open Tracker

inductive Call where
  | sync (observed : List Observation) (distinct : (observed.map Prod.fst).Nodup) (now : Instant)
    (lifetime : Nat)
  | forget (key : Key)
  | retain (live : Std.ExtTreeSet Key)

def Call.after (t : Tracker) : Call → Tracker
  | .sync observed _ now lifetime => (t.sync observed now lifetime).2
  | .forget key => t.forget key
  | .retain live => t.retain live

def replay (calls : List Call) : Tracker := calls.foldl Call.after ∅

def Call.reading? : Call → Option (List Observation)
  | .sync observed _ _ _ => some observed
  | .forget _ => none
  | .retain _ => none

def lastReading (calls : List Call) : List Observation :=
  (calls.reverse.findSome? Call.reading?).getD []

/-- The protocol of the flow or the state in its record is unknown. -/
def Unreadable (o : Observation) : Prop := meaning? o.1 o.2 = none

def FailsIn (reading : List Observation) (key : Key) : Prop :=
  ∃ info, (key, info) ∈ reading ∧ Unreadable (key, info)

/-- The errors are those of the records that cannot be made out, one for each, except where the flow
failed in the reading before. -/
def Reports (previous observed : List Observation) (now : Instant) (errors : List FlowError) :
    Prop :=
  ∃ news : List Observation, news.Sublist observed ∧
    (∀ o ∈ observed, o ∈ news ↔ Unreadable o ∧ ¬ FailsIn previous o.1) ∧
      List.Forall₂ (fun o e => Entry.ofRecord o.1 o.2 now = .error e) news errors

variable {t : Tracker} {calls : List Call} {reading observed : List Observation} {o : Observation}
variable {key : Key} {info : Info} {e : FlowError} {now : Instant} {lifetime : Nat}

/-- What the tracker keeps of the failures is which flows failed in the last reading. -/
structure Recalls (t : Tracker) (reading : List Observation) : Prop where
  coherent : t.Coherent
  failed : ∀ key, key ∈ t.undecodable ↔ FailsIn reading key

theorem lastReading_concat (calls : List Call) (c : Call) :
    lastReading (calls ++ [c]) = c.reading?.getD (lastReading calls) := by
  unfold lastReading
  rw [List.reverse_concat, List.findSome?_cons]
  cases c.reading? <;> rfl

theorem Tracker.Coherent.forget (h : t.Coherent) (k : Key) : (t.forget k).Coherent := by
  intro key e found
  rw [get?_forget] at found
  split at found
  · cases found
  · exact h key e found

theorem Tracker.Coherent.retain (h : t.Coherent) (live : Std.ExtTreeSet Key) :
    (t.retain live).Coherent := by
  intro key e found
  unfold Tracker.retain Tracker.get? at found
  rw [Std.ExtTreeMap.getElem?_filter', Option.filter_eq_some_iff] at found
  exact h key e found.1

theorem Recalls.after (h : Recalls t reading) (c : Call) :
    Recalls (c.after t) (c.reading?.getD reading) := by
  cases c with
  | sync observed distinct now lifetime =>
    exact ⟨h.coherent.sync distinct, fun key => h.coherent.mem_undecodable_sync distinct⟩
  | forget key => exact ⟨h.coherent.forget key, h.failed⟩
  | retain live => exact ⟨h.coherent.retain live, h.failed⟩

theorem replay_recalls (calls : List Call) : Recalls (replay calls) (lastReading calls) := by
  induction calls using List.reverseRecOn with
  | nil =>
    refine ⟨Coherent.empty, fun key => iff_of_false Std.ExtTreeSet.not_mem_empty ?_⟩
    rintro ⟨info, ⟨⟩, -⟩
  | append_singleton calls c ih =>
    rw [replay, List.foldl_concat, lastReading_concat]
    exact ih.after c

theorem refresh_eq_error_iff {known : Entry} :
    refresh known info now = .error e ↔ State.ofNumber info.status = .error e := by
  unfold refresh
  cases State.ofNumber info.status <;> simp [bind, Except.bind, pure, Except.pure]

theorem Tracker.Coherent.decode_eq_error_iff (h : t.Coherent) :
    t.decode o now = .error e ↔ Entry.ofRecord o.1 o.2 now = .error e := by
  unfold Tracker.decode
  cases found : t.get? o.1 with
  | none => rfl
  | some known =>
    rw [refresh_eq_error_iff, Entry.ofRecord, (h _ known found).protocol]
    cases State.ofNumber o.2.status <;> simp [Except.mapError, bind, Except.bind, pure, Except.pure]

theorem forall₂_filterMap {α β : Type} (f : α → Option β) (items : List α) :
    List.Forall₂ (fun a b => f a = some b) (items.filter fun a => (f a).isSome)
      (items.filterMap f) := by
  induction items with
  | nil => exact .nil
  | cons a items ih =>
    cases found : f a with
    | none => simpa [found] using ih
    | some b => simpa [found] using ih

theorem complaint?_eq_some_iff {before : Std.ExtTreeSet Key} :
    t.complaint? now before o = some e ↔ t.decode o now = .error e ∧ o.1 ∉ before := by
  unfold Tracker.complaint?
  cases t.decode o now with
  | ok _ => simp
  | error _ => simp [and_comm]

theorem Recalls.reports (h : Recalls t reading) (distinct : (observed.map Prod.fst).Nodup) :
    Reports reading observed now (t.sync observed now lifetime).1.errors := by
  have fails (o : Observation) : (∃ e, t.decode o now = .error e) ↔ Unreadable o := by
    rw [Unreadable, ← @Coherent.decode_eq_none_iff t now h.coherent o]
    cases t.decode o now <;> simp [Except.toOption]
  have new (o : Observation) : (t.complaint? now t.undecodable o).isSome = true ↔
      Unreadable o ∧ ¬ FailsIn reading o.1 := by
    simp only [Option.isSome_iff_exists, complaint?_eq_some_iff, exists_and_right, fails, h.failed]
  refine ⟨observed.filter fun o => (t.complaint? now t.undecodable o).isSome, List.filter_sublist,
    fun o member => ?_, ?_⟩
  · rw [List.mem_filter, new]
    exact and_iff_right member
  · rw [sync_fst t distinct]
    refine (forall₂_filterMap _ observed).imp fun o e complaint => ?_
    exact h.coherent.decode_eq_error_iff.mp (complaint?_eq_some_iff.mp complaint).1

/-! ### Without the record -/

/-- What a pass over a reading does besides its errors. A record that cannot be made out leaves the
entry of its flow as it is, has no flow purged, and changes nothing for the others. -/
structure Ignored (t : Tracker) (observed : List Observation) (now : Instant) (lifetime : Nat) :
    Prop where
  kept : ∀ o ∈ observed, Unreadable o →
    (t.sync observed now lifetime).2.get? o.1 = t.get? o.1
  stays : ∀ o ∈ observed, Unreadable o → o.1 ∉ (t.sync observed now lifetime).1.purge
  entries : ∀ key, (t.sync observed now lifetime).2.get? key =
    (t.sync (observed.filter fun o => (meaning? o.1 o.2).isSome) now lifetime).2.get? key
  purge : (t.sync observed now lifetime).1.purge =
    (t.sync (observed.filter fun o => (meaning? o.1 o.2).isSome) now lifetime).1.purge

theorem Tracker.Coherent.ignored (h : t.Coherent) (distinct : (observed.map Prod.fst).Nodup) :
    Ignored t observed now lifetime := by
  have fewer : ((observed.filter fun o => (meaning? o.1 o.2).isSome).map Prod.fst).Nodup :=
    distinct.sublist (List.filter_sublist.map _)
  have kept (o : Observation) (member : o ∈ observed) (unreadable : Unreadable o) :
      (t.sync observed now lifetime).2.get? o.1 = t.get? o.1 := by
    rw [h.get?_sync distinct member, unreadable]
    rfl
  have not_due (o : Observation) (unreadable : Unreadable o) : t.due? now lifetime o = none := by
    by_contra due
    obtain ⟨k, due⟩ := Option.ne_none_iff_exists'.mp due
    obtain ⟨-, protocol, state, known, -⟩ := h.due?_eq_some_iff.mp due
    cases unreadable.symm.trans known
  constructor
  · exact kept
  · rintro ⟨key, info⟩ member unreadable due
    obtain ⟨info', read, protocol, state, known, -⟩ := (h.mem_purge distinct).mp due
    obtain rfl : info = info' :=
      congrArg Prod.snd (List.inj_on_of_nodup_map distinct member read rfl)
    cases unreadable.symm.trans known
  · intro key
    by_cases read : ∃ o ∈ observed.filter fun o => (meaning? o.1 o.2).isSome, o.1 = key
    · obtain ⟨o, member, rfl⟩ := read
      rw [Tracker.get?_sync t distinct (List.mem_of_mem_filter member),
        Tracker.get?_sync t fewer member]
    · rw [get?_sync_of_absent t (mt List.mem_map.mp read)]
      by_cases failed : key ∈ observed.map Prod.fst
      · obtain ⟨o, member, rfl⟩ := List.mem_map.mp failed
        refine kept o member (Option.not_isSome_iff_eq_none.mp fun readable => read ?_)
        exact ⟨o, List.mem_filter.mpr ⟨member, readable⟩, rfl⟩
      · exact get?_sync_of_absent t failed
  · rw [sync_fst t distinct, sync_fst t fewer, List.filterMap_filter]
    refine List.filterMap_congr fun o member => ?_
    cases known : meaning? o.1 o.2 with
    | none => exact not_due o known
    | some m => rfl

/-- After any calls a pass reports each flow whose record cannot be made out, unless the flow failed
in the pass before, and goes on as if those records had not been read. -/
theorem replay_unreadable (calls : List Call) (observed : List Observation)
    (distinct : (observed.map Prod.fst).Nodup) (now : Instant) (lifetime : Nat) :
    Reports (lastReading calls) observed now
        ((replay calls).sync observed now lifetime).1.errors ∧
      Ignored (replay calls) observed now lifetime := by
  have recalls := replay_recalls calls
  exact ⟨recalls.reports distinct, recalls.coherent.ignored distinct⟩

/-- A flow with an unknown state is reported by the first of two passes that read it so, and keeps
the entry from before them. -/
theorem unknown_state_reported_once :
    let known : Observation := (⟨0, 0, 0, 0, 6⟩, {id := 1, status := 2, counter := 1})
    let unknown : Observation := (⟨0, 0, 0, 0, 6⟩, {id := 1, status := 200, counter := 5})
    let before := replay [.sync [known] (by decide) (.ofMillis 0) 0]
    let between := replay [.sync [known] (by decide) (.ofMillis 0) 0,
      .sync [unknown] (by decide) (.ofMillis 1) 0, .forget ⟨0, 0, 0, 0, 17⟩]
    (before.sync [unknown] (.ofMillis 1) 0).1.errors = [.unknownState 200] ∧
      (before.sync [unknown] (.ofMillis 1) 0).2.get? known.1 = before.get? known.1 ∧
      (between.sync [unknown] (.ofMillis 2) 0).1.errors = [] := by
  intro known unknown before between
  have unreadable : Unreadable unknown := rfl
  obtain ⟨-, ignored⟩ := replay_unreadable [.sync [known] (by decide) (.ofMillis 0) 0] [unknown]
    (by decide) (.ofMillis 1) 0
  obtain ⟨⟨news, within, new, errors⟩, -⟩ :=
    replay_unreadable [.sync [known] (by decide) (.ofMillis 0) 0,
      .sync [unknown] (by decide) (.ofMillis 1) 0, .forget ⟨0, 0, 0, 0, 17⟩] [unknown] (by decide)
      (.ofMillis 2) 0
  have quiet : news = [] := by
    refine List.eq_nil_iff_forall_not_mem.mpr fun o member => ?_
    have read : o ∈ [unknown] := within.subset member
    obtain rfl := List.mem_singleton.mp read
    exact ((new unknown read).mp member).2 ⟨_, List.mem_cons_self, unreadable⟩
  rw [quiet] at errors
  exact ⟨by decide +kernel, ignored.kept unknown List.mem_cons_self unreadable,
    List.forall₂_nil_left_iff.mp errors⟩

end EdgeControl.Flow
