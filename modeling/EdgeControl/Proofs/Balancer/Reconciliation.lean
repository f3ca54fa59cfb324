import EdgeControl.Proofs.Balancer.FlowPass
import Mathlib.Data.List.Induction

/-!
Runs of a balancer with passes over its flows among the other calls, in any order. Before each pass
the table of flows may have become any other one.
-/
namespace EdgeControl.Balancer

open EdgeControl.Flow (Key Info meaning?)
open Service

inductive Turn where
  | call (c : Call)
  | attachFrontend (during : Circumstances)
  | shutdown (during : Circumstances)
  | pass (scan : Scan)

def Turn.after (turn : Turn) (s : Service Memory) : Service Memory :=
  match turn with
  | .call c => c.after s
  | .attachFrontend during => (during.outcome s Service.attachFrontend).state
  | .shutdown during => (during.outcome s Service.shutdown).state
  | .pass scan => (scan.outcome s).state

def Turn.scan? : Turn → Option Scan
  | .pass scan => some scan
  | _ => none

def Service.play (s : Service Memory) (turns : List Turn) : Service Memory :=
  turns.foldl (fun t turn => turn.after t) s

def lastScan? (turns : List Turn) : Option Scan := turns.reverse.findSome? Turn.scan?

namespace Scan

variable (scan : Scan)

def Decoded (key : Key) : Prop := ∃ info m, (key, info) ∈ scan.observed ∧ meaning? key info = some m

def Undecoded (key : Key) : Prop := ∃ info, (key, info) ∈ scan.observed ∧ meaning? key info = none

def Due (s : Service Memory) (key : Key) : Prop :=
  ∃ info, (key, info) ∈ scan.observed ∧ s.tracker.Due scan.now s.settings.gcLifetime key info

/-- A pass takes the flows that it removes from the table and the tracker alike, and no others. It
fails exactly if something could not be read, made out for the first time in a row, or removed. -/
structure Reconciles (previous : Option Scan) (s : Service Memory) (removed : List Key)
    (r : Except ServiceError Nat) (t : Service Memory) : Prop where
  gone : ∀ key, scan.Due s key → key ∈ removed →
    t.base.flows[key]? = none ∧ t.tracker.get? key = none
  stuck : ∀ key, scan.Due s key → key ∉ removed →
    t.base.flows[key]?.isSome ∧ (t.tracker.get? key).isSome
  others : ∀ key, key ∉ removed → t.base.flows[key]? = scan.flows[key]?
  answer : ∀ n, r = .ok n ↔ n = removed.length ∧ scan.unread = [] ∧
    (∀ key, scan.Undecoded key → ∃ last, previous = some last ∧ last.Undecoded key) ∧
    ∀ key, scan.Due s key → key ∈ removed
  swept : s.settings.gcEnabled = true → scan.unread = [] →
    (∀ key, (t.tracker.get? key).isSome → t.base.flows[key]?.isSome) ∧
    ∀ key, scan.Decoded key → t.base.flows[key]?.isSome → (t.tracker.get? key).isSome
  kept : ¬ (s.settings.gcEnabled = true ∧ scan.unread = []) → ∀ key, key ∉ removed →
    (s.tracker.get? key).isSome ∨ scan.Decoded key → (t.tracker.get? key).isSome
  elsewhere : t.snapshot = s.snapshot

end Scan

/-! ### What the turns of a run keep -/

/-- The tracker knows whose records failed in the last pass. -/
structure Tracking (settings : Flow.Settings) (turns : List Turn) (s : Service Memory) : Prop where
  settings : s.settings = settings
  coherent : s.tracker.Coherent
  undecodable : ∀ key, key ∈ s.tracker.undecodable ↔
    ∃ last, lastScan? turns = some last ∧ last.Undecoded key

variable {scan : Scan} {s t : Service Memory} {turns : List Turn} {key : Key} {info : Info}
  {settings : Flow.Settings}

theorem lastScan?_concat (turns : List Turn) (turn : Turn) :
    lastScan? (turns ++ [turn]) = turn.scan?.or (lastScan? turns) := by
  rw [lastScan?, List.reverse_append, List.findSome?_append, List.reverse_singleton,
    List.findSome?_singleton]
  rfl

theorem Tracking.spared (h : Tracking settings turns s) {turn : Turn} (other : turn.scan? = none)
    (untouched : Untouched s t) : Tracking settings (turns ++ [turn]) t := by
  constructor
  · rw [untouched.settings, h.settings]
  · rw [untouched.tracker]
    exact h.coherent
  · rw [untouched.tracker, lastScan?_concat, other, Option.none_or]
    exact h.undecodable

theorem Tracking.pass (h : Tracking settings turns s) (scan : Scan) :
    Tracking settings (turns ++ [.pass scan]) (scan.outcome s).state := by
  have swept := scan.swept s
  constructor
  · rw [swept.settings, h.settings]
  · intro key e found
    rw [swept.tracker] at found
    split at found
    · cases found
    · exact h.coherent.sync scan.distinct key e found
  · intro key
    rw [swept.undecodable, lastScan?_concat, Scan.synced,
      h.coherent.mem_undecodable_sync scan.nodup_observed]
    simp [Turn.scan?, Scan.Undecoded]

theorem play_tracking (frontend : Frontend) (settings : Flow.Settings) (turns : List Turn) :
    Tracking settings turns ((fresh frontend settings).play turns) := by
  induction turns using List.reverseRecOn with
  | nil =>
    have none (key : Key) : key ∉ (∅ : Flow.Tracker).undecodable := Std.ExtTreeSet.not_mem_empty
    exact ⟨rfl, .empty, fun key => by simp [lastScan?, play, fresh, none key]⟩
  | append_singleton turns turn ih =>
    unfold play at ih ⊢
    rw [List.foldl_concat]
    cases turn with
    | call c => exact ih.spared rfl (c.untouched _)
    | attachFrontend during => exact ih.spared rfl (during.untouched _ attachFrontend_spares)
    | shutdown during => exact ih.spared rfl (during.untouched _ shutdown_spares)
    | pass scan => exact ih.pass scan

/-! ### Passes -/

theorem Tracking.mem_purge (h : Tracking settings turns s) (key : Key) :
    key ∈ (scan.pass s).purge ↔ scan.Due s key :=
  h.coherent.mem_purge scan.nodup_observed

theorem Tracking.quiet_iff (h : Tracking settings turns s) : (scan.pass s).errors = [] ↔
    ∀ key, scan.Undecoded key → ∃ last, lastScan? turns = some last ∧ last.Undecoded key := by
  rw [Scan.pass, h.coherent.errors_eq_nil_iff scan.nodup_observed]
  simp only [h.undecodable]
  constructor
  · rintro all key ⟨info, member, unknown⟩
    exact all key info member unknown
  · intro all key info member unknown
    exact all key ⟨info, member, unknown⟩

theorem Tracking.synced_of_decoded (h : Tracking settings turns s) (decoded : scan.Decoded key) :
    ((scan.synced s).get? key).isSome := by
  obtain ⟨info, m, member, known⟩ := decoded
  rw [Scan.synced, h.coherent.get?_sync scan.nodup_observed member, known]
  rfl

theorem Tracking.synced_of_known (h : Tracking settings turns s)
    (known : (s.tracker.get? key).isSome) : ((scan.synced s).get? key).isSome := by
  by_cases read : key ∈ scan.observed.map Prod.fst
  · obtain ⟨⟨k, info⟩, member, rfl⟩ := List.mem_map.mp read
    rw [Scan.synced, h.coherent.get?_sync scan.nodup_observed member, Option.isSome_or, known,
      Bool.or_true]
  · rw [Scan.synced, Flow.Tracker.get?_sync_of_absent s.tracker read]
    exact known

theorem Scan.Due.decoded (due : scan.Due s key) : scan.Decoded key := by
  obtain ⟨info, member, protocol, state, known, -⟩ := due
  exact ⟨info, _, member, known⟩

theorem Scan.Decoded.read (decoded : scan.Decoded key) : key ∈ scan.observed.map Prod.fst := by
  obtain ⟨info, m, member, -⟩ := decoded
  exact List.mem_map_of_mem member

theorem Scan.read_iff (whole : scan.unread = []) :
    key ∈ scan.observed.map Prod.fst ↔ scan.flows[key]?.isSome := by
  constructor
  · intro read
    obtain ⟨⟨k, info⟩, member, rfl⟩ := List.mem_map.mp read
    rw [scan.present k info member]
    rfl
  · intro there
    obtain ⟨info, found⟩ := Option.isSome_iff_exists.mp there
    exact List.mem_map_of_mem (scan.complete whole key info found)

theorem Scan.purge_nodup (scan : Scan) (s : Service Memory) : (scan.pass s).purge.Nodup :=
  Flow.Tracker.purge_nodup s.tracker scan.nodup_observed

theorem Scan.removed_eq_iff : scan.removed s = (scan.pass s).purge ↔
    ∀ key ∈ (scan.pass s).purge, key ∈ scan.removed s := by
  have sublist : (scan.removed s).Sublist (scan.pass s).purge := Faults.removable_sublist _ _
  constructor
  · intro same key due
    rw [same]
    exact due
  · intro all
    exact sublist.eq_of_length_le ((scan.purge_nodup s).length_le_of_subset all)

theorem Tracking.reconciles (h : Tracking settings turns s) (scan : Scan) :
    scan.Reconciles (lastScan? turns) s (scan.removed s) (scan.outcome s).answer
      (scan.outcome s).state := by
  have swept := scan.swept s
  constructor
  · intro key due removed
    rw [swept.flows, swept.tracker, if_pos removed, if_pos (.inl removed)]
    exact ⟨rfl, rfl⟩
  · intro key due stuck
    have read := due.decoded.read
    obtain ⟨info, member, -⟩ := id due
    rw [swept.flows, swept.tracker, if_neg stuck, if_neg (by simp [stuck, read]),
      scan.present key info member]
    exact ⟨rfl, h.synced_of_decoded due.decoded⟩
  · intro key stuck
    rw [swept.flows, if_neg stuck]
  · intro n
    rw [swept.answer, h.quiet_iff, Scan.removed_eq_iff]
    simp only [h.mem_purge]
  · intro gc whole
    constructor
    · intro key known
      rw [swept.tracker] at known
      split at known
      · cases known
      · rename_i kept
        simp only [gc, whole, true_and, not_or, not_not] at kept
        rw [swept.flows, if_neg kept.1]
        exact (Scan.read_iff whole).mp kept.2
    · intro key decoded there
      rw [swept.flows] at there
      split at there
      · cases there
      · rename_i stuck
        rw [swept.tracker, if_neg (by simp [stuck, decoded.read])]
        exact h.synced_of_decoded decoded
  · intro partly key stuck known
    have kept : ¬ (key ∈ scan.removed s ∨ (s.settings.gcEnabled = true ∧ scan.unread = [] ∧
        key ∉ scan.observed.map Prod.fst)) := by
      rintro (removed | ⟨gc, whole, -⟩)
      · exact stuck removed
      · exact partly ⟨gc, whole⟩
    rw [swept.tracker, if_neg kept]
    exact known.elim h.synced_of_known h.synced_of_decoded
  · exact swept.snapshot

/-- After every run a pass keeps the table of flows and the tracker in step. The flows whose turn it
is to be purged are removed one by one, and some of the removals may fail. -/
theorem play_reconciles (frontend : Frontend) (settings : Flow.Settings) (turns : List Turn)
    (scan : Scan) :
    let s := (fresh frontend settings).play turns
    s.settings = settings ∧ ∃ due, due.Nodup ∧ (∀ key, key ∈ due ↔ scan.Due s key) ∧
      scan.Reconciles (lastScan? turns) s (scan.faults.removable due) (scan.outcome s).answer
        (scan.outcome s).state := by
  intro s
  have tracking := play_tracking frontend settings turns
  exact ⟨tracking.settings, (scan.pass s).purge, scan.purge_nodup s, tracking.mem_purge,
    tracking.reconciles scan⟩

namespace Sample

def flow : Key := .ofEnds (.ofOctets 10 0 0 9) addr 40000 80 6

def clinging : Memory where
  flows := (∅ : Std.ExtTreeMap Key Info).insert flow {id := 1, status := 4, counter := 5}
  faults := {plan := fun _ o => o == .removeFlow}

end Sample

/-- The flow stays in the table and in the tracker, and the pass fails. -/
theorem play_reconciles_failed_removal :
    let s := (fresh Sample.frontend {}).play []
    let scan := Scan.own Sample.clinging (.ofMillis 5000)
    scan.Due s Sample.flow ∧ (scan.outcome s).state.base.flows[Sample.flow]?.isSome ∧
      ((scan.outcome s).state.tracker.get? Sample.flow).isSome ∧
      ∀ n, (scan.outcome s).answer ≠ .ok n := by
  intro s scan
  obtain ⟨-, due, -, -, h⟩ := play_reconciles Sample.frontend {} [] scan
  have closed : scan.Due s Sample.flow :=
    ⟨{id := 1, status := 4, counter := 5}, by decide +kernel, .tcp, .closed, by decide +kernel,
      .inl rfl⟩
  have stuck : Sample.flow ∉ scan.faults.removable due := by
    rw [Faults.removable_eq_nil fun _ => rfl]
    exact List.not_mem_nil
  obtain ⟨there, known⟩ := h.stuck _ closed stuck
  refine ⟨closed, there, known, fun n ok => ?_⟩
  exact stuck (((h.answer n).mp ok).2.2.2 _ closed)

end EdgeControl.Balancer
