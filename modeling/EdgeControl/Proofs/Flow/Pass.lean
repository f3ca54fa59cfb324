import EdgeControl.Flow.Tracker
import EdgeControl.Proofs.Table
import Mathlib.Data.List.Nodup

/-!
What a pass over a reading makes of the tracker. Each flow is read at most once, so what becomes of
it depends on its own record and on what the tracker had before the pass, and the order of the
reading does not matter.
-/
namespace EdgeControl.Flow

/-- The protocol and the state that a key and a record stand for, if both are known. -/
def meaning? (key : Key) (info : Info) : Option (Protocol × State) :=
  match Protocol.ofNumber key.protocol, State.ofNumber info.status with
  | .ok protocol, .ok state => some (protocol, state)
  | _, _ => none

theorem meaning?_eq_some_iff {key : Key} {info : Info} {protocol : Protocol} {state : State} :
    meaning? key info = some (protocol, state) ↔
      Protocol.ofNumber key.protocol = .ok protocol ∧ State.ofNumber info.status = .ok state := by
  unfold meaning?
  cases Protocol.ofNumber key.protocol with
  | error e => simp
  | ok p =>
    cases State.ofNumber info.status with
    | error e => simp
    | ok s => simp

def Entry.ofMeaning (key : Key) (info : Info) (meaning : Protocol × State) (seen : Instant) :
    Entry where
  srcAddr := key.source
  dstAddr := key.destination
  srcPort := key.sourcePort
  dstPort := key.destinationPort
  protocol := meaning.1
  state := meaning.2
  lastSeen := seen
  backendId := info.id
  counter := info.counter

namespace Tracker

variable {t u : Tracker} {o : Observation} {key : Key} {info : Info} {e : Entry}
  {now : Instant} {lifetime : Nat} {before : Std.ExtTreeSet Key}
  {observed observed' : List Observation}

theorem eq_of_get? (entries : ∀ key, t.get? key = u.get? key)
    (undecodable : ∀ key, key ∈ t.undecodable ↔ key ∈ u.undecodable) : t = u := by
  have first : t.entries = u.entries := by
    ext key e
    rw [show t.entries[key]? = u.entries[key]? from entries key]
  have second : t.undecodable = u.undecodable := Std.ExtTreeSet.ext_mem fun {key} => undecodable key
  cases t
  cases u
  simp only at first second
  rw [first, second]

@[simp] theorem get?_forget (t : Tracker) (k key : Key) :
    (t.forget k).get? key = if k = key then none else t.get? key :=
  Table.getElem?_erase

@[simp] theorem undecodable_forget (t : Tracker) (k : Key) :
    (t.forget k).undecodable = t.undecodable := rfl

theorem get?_foldl_forget (t : Tracker) (gone : List Key) (key : Key) :
    (gone.foldl forget t).get? key = if key ∈ gone then none else t.get? key := by
  induction gone generalizing t with
  | nil => simp
  | cons k gone ih =>
    rw [List.foldl_cons, ih, get?_forget]
    by_cases first : k = key
    · simp [first]
    · have other : ¬ key = k := Ne.symm first
      simp [first, other]

theorem undecodable_foldl_forget (t : Tracker) (gone : List Key) :
    (gone.foldl forget t).undecodable = t.undecodable := by
  induction gone generalizing t with
  | nil => rfl
  | cons k gone ih => rw [List.foldl_cons, ih, undecodable_forget]

/-! ### One record -/

theorem decode_congr (same : t.get? o.1 = u.get? o.1) : t.decode o now = u.decode o now := by
  unfold decode
  rw [same]

theorem get?_observe (t : Tracker) (o : Observation) (key : Key) :
    (t.observe now lifetime before o).2.get? key =
      if o.1 = key then (t.decode o now).toOption.or (t.get? key) else t.get? key := by
  unfold observe
  cases t.decode o now with
  | ok e => exact Table.getElem?_insert
  | error e => simp [Except.toOption, get?]

theorem mem_undecodable_observe (t : Tracker) (o : Observation) (key : Key) :
    key ∈ (t.observe now lifetime before o).2.undecodable ↔
      key ∈ t.undecodable ∨ (o.1 = key ∧ (t.decode o now).toOption = none) := by
  unfold observe
  cases t.decode o now with
  | ok e => simp [Except.toOption]
  | error e => simp [Except.toOption, Std.ExtTreeSet.mem_insert, or_comm]

def due? (t : Tracker) (now : Instant) (lifetime : Nat) (o : Observation) : Option Key :=
  match t.decode o now with
  | .ok e => if e.expired now lifetime then some o.1 else none
  | .error _ => none

/-- What is reported of a record, where `before` has the keys that failed already. -/
def complaint? (t : Tracker) (now : Instant) (before : Std.ExtTreeSet Key) (o : Observation) :
    Option FlowError :=
  match t.decode o now with
  | .ok _ => none
  | .error e => if before.contains o.1 then none else some e

theorem observe_fst (t : Tracker) (o : Observation) : (t.observe now lifetime before o).1 =
    ⟨(t.due? now lifetime o).toList, (t.complaint? now before o).toList⟩ := by
  unfold observe due? complaint?
  cases t.decode o now with
  | ok e => cases overdue : e.expired now lifetime <;> simp [overdue]
  | error e => cases before.contains o.1 <;> simp

theorem due?_eq_some_iff : t.due? now lifetime o = some key ↔
    o.1 = key ∧ ∃ e, t.decode o now = .ok e ∧ e.expired now lifetime = true := by
  unfold due?
  cases t.decode o now with
  | ok e => simp [and_comm]
  | error e => simp

/-! ### A whole reading -/

theorem observeAll_cons (t : Tracker) (o : Observation) (rest : List Observation) :
    observeAll now lifetime before t (o :: rest) =
      (let (first, u) := t.observe now lifetime before o
       let (others, w) := observeAll now lifetime before u rest
       (⟨first.purge ++ others.purge, first.errors ++ others.errors⟩, w)) := rfl

theorem decode_observe (t : Tracker) {p : Observation} (other : o.1 ≠ p.1) :
    (t.observe now lifetime before o).2.decode p now = t.decode p now :=
  decode_congr (by rw [get?_observe, if_neg other])

theorem observeAll_fst (t : Tracker) (distinct : (observed.map Prod.fst).Nodup) :
    (observeAll now lifetime before t observed).1 =
      ⟨observed.filterMap (t.due? now lifetime), observed.filterMap (t.complaint? now before)⟩ := by
  induction observed generalizing t with
  | nil => rfl
  | cons o rest ih =>
    obtain ⟨fresh, distinct⟩ := List.nodup_cons.mp distinct
    have untouched (p : Observation) (later : p ∈ rest) :
        (t.observe now lifetime before o).2.decode p now = t.decode p now :=
      t.decode_observe fun same => fresh (same ▸ List.mem_map_of_mem later)
    have purge : rest.filterMap ((t.observe now lifetime before o).2.due? now lifetime) =
        rest.filterMap (t.due? now lifetime) :=
      List.filterMap_congr fun p later => by unfold due?; rw [untouched p later]
    have errors : rest.filterMap ((t.observe now lifetime before o).2.complaint? now before) =
        rest.filterMap (t.complaint? now before) :=
      List.filterMap_congr fun p later => by unfold complaint?; rw [untouched p later]
    simp only [observeAll_cons, observe_fst, ih _ distinct, purge, errors, List.filterMap_cons]
    cases t.due? now lifetime o <;> cases t.complaint? now before o <;> rfl

theorem get?_observeAll_of_absent (t : Tracker) (absent : key ∉ observed.map Prod.fst) :
    (observeAll now lifetime before t observed).2.get? key = t.get? key := by
  induction observed generalizing t with
  | nil => rfl
  | cons o rest ih =>
    rw [List.map_cons, List.mem_cons, not_or] at absent
    simp only [observeAll_cons]
    rw [ih _ absent.2, get?_observe, if_neg (Ne.symm absent.1)]

theorem get?_observeAll (t : Tracker) (distinct : (observed.map Prod.fst).Nodup)
    {p : Observation} (member : p ∈ observed) :
    (observeAll now lifetime before t observed).2.get? p.1 =
      (t.decode p now).toOption.or (t.get? p.1) := by
  induction observed generalizing t with
  | nil => cases member
  | cons o rest ih =>
    obtain ⟨fresh, distinct⟩ := List.nodup_cons.mp distinct
    simp only [observeAll_cons]
    rcases List.mem_cons.mp member with rfl | later
    · rw [get?_observeAll_of_absent _ fresh, get?_observe, if_pos rfl]
    · have other : o.1 ≠ p.1 := fun same => fresh (same ▸ List.mem_map_of_mem later)
      rw [ih _ distinct later, t.decode_observe other, get?_observe, if_neg other]

theorem mem_undecodable_observeAll (t : Tracker) (distinct : (observed.map Prod.fst).Nodup) :
    key ∈ (observeAll now lifetime before t observed).2.undecodable ↔
      key ∈ t.undecodable ∨ ∃ o ∈ observed, o.1 = key ∧ (t.decode o now).toOption = none := by
  induction observed generalizing t with
  | nil => simp [observeAll]
  | cons o rest ih =>
    obtain ⟨fresh, distinct⟩ := List.nodup_cons.mp distinct
    have untouched : (∃ p ∈ rest, p.1 = key ∧
          ((t.observe now lifetime before o).2.decode p now).toOption = none) ↔
        ∃ p ∈ rest, p.1 = key ∧ (t.decode p now).toOption = none := by
      refine exists_congr fun p => and_congr_right fun later => ?_
      have other : o.1 ≠ p.1 := fun same => fresh (same ▸ List.mem_map_of_mem later)
      rw [t.decode_observe other]
    simp only [observeAll_cons]
    rw [ih _ distinct, mem_undecodable_observe, untouched, or_assoc]
    simp only [List.mem_cons, exists_eq_or_imp]

theorem sync_fst (t : Tracker) (distinct : (observed.map Prod.fst).Nodup) :
    (t.sync observed now lifetime).1 =
      ⟨observed.filterMap (t.due? now lifetime),
        observed.filterMap (t.complaint? now t.undecodable)⟩ :=
  observeAll_fst {t with undecodable := ∅} distinct

theorem get?_sync_of_absent (t : Tracker) (absent : key ∉ observed.map Prod.fst) :
    (t.sync observed now lifetime).2.get? key = t.get? key :=
  get?_observeAll_of_absent {t with undecodable := ∅} absent

theorem get?_sync (t : Tracker) (distinct : (observed.map Prod.fst).Nodup) (member : o ∈ observed) :
    (t.sync observed now lifetime).2.get? o.1 = (t.decode o now).toOption.or (t.get? o.1) :=
  get?_observeAll {t with undecodable := ∅} distinct member

theorem mem_undecodable_sync (t : Tracker) (distinct : (observed.map Prod.fst).Nodup) :
    key ∈ (t.sync observed now lifetime).2.undecodable ↔
      ∃ o ∈ observed, o.1 = key ∧ (t.decode o now).toOption = none :=
  (mem_undecodable_observeAll {t with undecodable := ∅} distinct).trans
    (or_iff_right Std.ExtTreeSet.not_mem_empty)

theorem purge_nodup (t : Tracker) (distinct : (observed.map Prod.fst).Nodup) :
    (t.sync observed now lifetime).1.purge.Nodup := by
  rw [sync_fst t distinct, List.Nodup, List.pairwise_filterMap]
  refine (List.pairwise_map.mp distinct).imp fun {p q} other a first b second same => other ?_
  rw [(due?_eq_some_iff.mp first).1, (due?_eq_some_iff.mp second).1, same]

/-- Another order of the reading gives the same tracker, and the same lists up to their order. -/
theorem sync_perm (t : Tracker) (distinct : (observed.map Prod.fst).Nodup)
    (same : observed.Perm observed') :
    (t.sync observed now lifetime).2 = (t.sync observed' now lifetime).2 ∧
      (t.sync observed now lifetime).1.purge.Perm (t.sync observed' now lifetime).1.purge ∧
      (t.sync observed now lifetime).1.errors.Perm (t.sync observed' now lifetime).1.errors := by
  have distinct' : (observed'.map Prod.fst).Nodup := (same.map Prod.fst).nodup_iff.mp distinct
  refine ⟨eq_of_get? (fun key => ?_) fun key => ?_, ?_, ?_⟩
  · by_cases read : key ∈ observed.map Prod.fst
    · obtain ⟨o, member, rfl⟩ := List.mem_map.mp read
      rw [get?_sync t distinct member, get?_sync t distinct' (same.mem_iff.mp member)]
    · have read' : key ∉ observed'.map Prod.fst :=
        fun there => read ((same.map Prod.fst).mem_iff.mpr there)
      rw [get?_sync_of_absent t read, get?_sync_of_absent t read']
  · simp only [mem_undecodable_sync t distinct, mem_undecodable_sync t distinct', same.mem_iff]
  · rw [sync_fst t distinct, sync_fst t distinct']
    exact same.filterMap _
  · rw [sync_fst t distinct, sync_fst t distinct']
    exact same.filterMap _

/-! ### What the entries say -/

structure Describes (key : Key) (e : Entry) : Prop where
  srcAddr : e.srcAddr = key.source
  dstAddr : e.dstAddr = key.destination
  srcPort : e.srcPort = key.sourcePort
  dstPort : e.dstPort = key.destinationPort
  protocol : Protocol.ofNumber key.protocol = .ok e.protocol

def Coherent (t : Tracker) : Prop := ∀ key e, t.get? key = some e → Describes key e

/-- The time that the entry of a flow gets from a record read at `now`. -/
def seen (t : Tracker) (key : Key) (info : Info) (now : Instant) : Instant :=
  match t.get? key with
  | none => now
  | some e => if e.counter < info.counter then now else e.lastSeen

theorem Coherent.decode (h : t.Coherent) (key : Key) (info : Info) (now : Instant) :
    (t.decode (key, info) now).toOption =
      (meaning? key info).map fun m => .ofMeaning key info m (t.seen key info now) := by
  unfold Tracker.decode Tracker.seen meaning?
  cases found : t.get? key with
  | some e =>
    obtain ⟨srcAddr, dstAddr, srcPort, dstPort, protocol⟩ := h key e found
    rw [protocol]
    cases state : State.ofNumber info.status with
    | error e => simp [refresh, state, bind, Except.bind, Except.toOption]
    | ok s =>
      simp [refresh, state, bind, Except.bind, Except.toOption, pure, Except.pure,
        Entry.ofMeaning, srcAddr, dstAddr, srcPort, dstPort]
  | none =>
    cases protocol : Protocol.ofNumber key.protocol with
    | error e =>
      simp [Entry.ofRecord, protocol, Except.mapError, bind, Except.bind, Except.toOption]
    | ok p =>
      cases state : State.ofNumber info.status with
      | error e =>
        simp [Entry.ofRecord, protocol, state, Except.mapError, bind, Except.bind, Except.toOption]
      | ok s =>
        simp [Entry.ofRecord, protocol, state, Except.mapError, bind, Except.bind,
          Except.toOption, pure, Except.pure, Entry.ofMeaning]

theorem describes_ofMeaning {m : Protocol × State} (known : meaning? key info = some m)
    (seen : Instant) : Describes key (.ofMeaning key info m seen) :=
  ⟨rfl, rfl, rfl, rfl, (meaning?_eq_some_iff.mp known).1⟩

theorem Coherent.empty : (∅ : Tracker).Coherent := by
  intro key e found
  cases found

theorem Coherent.get?_sync (h : t.Coherent) (distinct : (observed.map Prod.fst).Nodup)
    (member : (key, info) ∈ observed) : (t.sync observed now lifetime).2.get? key =
      ((meaning? key info).map fun m => Entry.ofMeaning key info m (t.seen key info now)).or
        (t.get? key) := by
  rw [← h.decode]
  exact Tracker.get?_sync t distinct member

theorem Coherent.sync (h : t.Coherent) (distinct : (observed.map Prod.fst).Nodup) :
    (t.sync observed now lifetime).2.Coherent := by
  intro key e found
  by_cases read : key ∈ observed.map Prod.fst
  · obtain ⟨⟨k, info⟩, member, rfl⟩ := List.mem_map.mp read
    rw [h.get?_sync distinct member] at found
    cases known : meaning? k info with
    | none =>
      rw [known] at found
      exact h _ e found
    | some m =>
      rw [known] at found
      cases found
      exact describes_ofMeaning known _
  · rw [get?_sync_of_absent t read] at found
    exact h key e found

theorem Coherent.decode_eq_none_iff (h : t.Coherent) {o : Observation} :
    (t.decode o now).toOption = none ↔ meaning? o.1 o.2 = none := by
  rw [h.decode o.1 o.2, Option.map_eq_none_iff]

theorem Coherent.mem_undecodable_sync (h : t.Coherent) (distinct : (observed.map Prod.fst).Nodup) :
    key ∈ (t.sync observed now lifetime).2.undecodable ↔
      ∃ info, (key, info) ∈ observed ∧ meaning? key info = none := by
  rw [Tracker.mem_undecodable_sync t distinct]
  constructor
  · rintro ⟨⟨k, info⟩, member, rfl, failed⟩
    exact ⟨info, member, h.decode_eq_none_iff.mp failed⟩
  · rintro ⟨info, member, unknown⟩
    exact ⟨(key, info), member, rfl, h.decode_eq_none_iff.mpr unknown⟩

theorem Coherent.errors_eq_nil_iff (h : t.Coherent) (distinct : (observed.map Prod.fst).Nodup) :
    (t.sync observed now lifetime).1.errors = [] ↔
      ∀ key info, (key, info) ∈ observed → meaning? key info = none → key ∈ t.undecodable := by
  have quiet (o : Observation) : t.complaint? now t.undecodable o = none ↔
      (meaning? o.1 o.2 = none → o.1 ∈ t.undecodable) := by
    rw [← @decode_eq_none_iff t now h o]
    unfold complaint?
    cases t.decode o now with
    | ok e => simp [Except.toOption]
    | error e => simp [Except.toOption]
  rw [sync_fst t distinct]
  simp only [List.filterMap_eq_nil_iff, quiet]
  exact ⟨fun all key info member => all (key, info) member, fun all o member => all o.1 o.2 member⟩

theorem Coherent.foldl_forget (h : t.Coherent) (gone : List Key) :
    (gone.foldl forget t).Coherent := by
  intro key e found
  rw [get?_foldl_forget] at found
  split at found
  · cases found
  · exact h key e found

/-- A flow is to be purged when it is closed, or a UDP flow that was idle for too long. -/
def Due (t : Tracker) (now : Instant) (lifetime : Nat) (key : Key) (info : Info) : Prop :=
  ∃ protocol state, meaning? key info = some (protocol, state) ∧
    (state = .closed ∨ (protocol = .udp ∧ lifetime < (t.seen key info now).elapsed now))

theorem Coherent.due?_eq_some_iff (h : t.Coherent) {k : Key} :
    t.due? now lifetime (key, info) = some k ↔ key = k ∧ t.Due now lifetime key info := by
  have decoded (e : Entry) : t.decode (key, info) now = .ok e ↔
      ∃ m, meaning? key info = some m ∧ .ofMeaning key info m (t.seen key info now) = e := by
    rw [← Option.map_eq_some_iff, ← h.decode]
    cases t.decode (key, info) now <;> simp [Except.toOption]
  have expired (m : Protocol × State) (seen : Instant) :
      (Entry.ofMeaning key info m seen).expired now lifetime = true ↔
        m.2 = .closed ∨ (m.1 = .udp ∧ lifetime < seen.elapsed now) := by
    rw [Entry.expired, Bool.or_eq_true, Bool.and_eq_true, beq_iff_eq, beq_iff_eq,
      decide_eq_true_iff]
    rfl
  rw [Tracker.due?_eq_some_iff, Due]
  constructor
  · rintro ⟨rfl, e, made, overdue⟩
    obtain ⟨⟨protocol, state⟩, known, rfl⟩ := (decoded e).mp made
    exact ⟨rfl, protocol, state, known, (expired _ _).mp overdue⟩
  · rintro ⟨rfl, protocol, state, known, overdue⟩
    exact ⟨rfl, _, (decoded _).mpr ⟨_, known, rfl⟩, (expired (protocol, state) _).mpr overdue⟩

theorem Coherent.mem_purge (h : t.Coherent) (distinct : (observed.map Prod.fst).Nodup) :
    key ∈ (t.sync observed now lifetime).1.purge ↔
      ∃ info, (key, info) ∈ observed ∧ t.Due now lifetime key info := by
  rw [sync_fst t distinct, List.mem_filterMap]
  constructor
  · rintro ⟨⟨k, info⟩, member, found⟩
    obtain ⟨rfl, due⟩ := h.due?_eq_some_iff.mp found
    exact ⟨info, member, due⟩
  · rintro ⟨info, member, due⟩
    exact ⟨(key, info), member, h.due?_eq_some_iff.mpr ⟨rfl, due⟩⟩

end Tracker
end EdgeControl.Flow
