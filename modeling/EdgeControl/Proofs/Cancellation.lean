import Mathlib.Order.Lattice
import Mathlib.Order.MinMax
import Mathlib.Tactic.ByContra
import EdgeControl.Loop

/-!
A loop over time. It waits no longer than for the first of the things it waits for, and a pass
lasts as long as it likes. When a pass lasts until the next deadline and the loop is cancelled
meanwhile, both have come as it waits again, and it may begin a pass once more.
-/
namespace EdgeControl

namespace Ticker

variable {t : Ticker} {now later : Nat}

theorem tick_next_le (due : t.next ≤ now) : (t.tick now).next ≤ now + t.period := by
  unfold tick
  split
  · exact le_rfl
  · exact Nat.add_le_add_right due t.period

/-- A ticker that waits after a late tick is a period away from the next one, but for what
counts as on time. -/
theorem lt_tick_next (delays : t.lateness = .delay)
    (short : later + tolerance < now + t.period) : later < (t.tick now).next := by
  unfold tick
  split
  case isTrue => exact Nat.lt_of_le_of_lt (Nat.le_add_right later tolerance) short
  case isFalse on_time =>
    have not_late : now ≤ t.next + tolerance := by
      by_contra late
      exact on_time ⟨Nat.lt_of_not_le late, delays⟩
    simp only
    omega

end Ticker

def LoopEvent.begins : LoopEvent → Bool
  | .beginPass _ => true
  | _ => false

namespace Loop

variable {l m : Loop} {e : LoopEvent} {now later last : Nat} {events : List (Nat × LoopEvent)}

def Ready (l : Loop) (now : Nat) : Prop :=
  l.phase = .waiting ∧ (l.cancelled ∨ l.ticker.next ≤ now)

/-- What can happen to a loop from `now` on, each event with its time. No time passes while the
loop is ready; in a pass, and after its end, it passes freely. -/
inductive Run : Nat → Loop → List (Nat × LoopEvent) → Nat → Loop → Prop
  | rest {now : Nat} {l : Loop} : Run now l [] now l
  | wait {now later last : Nat} {l m : Loop} {events : List (Nat × LoopEvent)}
      (le : now ≤ later) (idle : ∀ t, now ≤ t → t < later → ¬ l.Ready t)
      (run : Run later l events last m) : Run now l events last m
  | event {now last : Nat} {l k m : Loop} {events : List (Nat × LoopEvent)} {e : LoopEvent}
      (timely : ∀ t, e = .beginPass t → t = now) (happens : l.step? e = some k)
      (run : Run now k events last m) : Run now l ((now, e) :: events) last m

def begun (events : List (Nat × LoopEvent)) : Nat :=
  events.countP fun e => e.2.begins

def MayBegin (l : Loop) (now passes : Nat) : Prop :=
  ∃ events last m, Run now l events last m ∧ begun events = passes

def CancelledForGood (l : Loop) : Prop :=
  ∀ before now m after last k, Run 0 l before now m → m.cancelled → Run now m after last k →
    begun after = 0

/-- A cancelled loop that is neither in a pass nor has a tick due. -/
structure Quiet (l : Loop) (now : Nat) : Prop where
  cancelled : l.cancelled
  idle : l.phase = .ended ∨ l.phase = .waiting ∧ now < l.ticker.next

theorem Quiet.wait (quiet : l.Quiet now) (le : now ≤ later)
    (idle : ∀ t, now ≤ t → t < later → ¬ l.Ready t) : l.Quiet later := by
  rcases quiet.idle with ended | ⟨waiting, _⟩
  · exact ⟨quiet.cancelled, .inl ended⟩
  · -- the cancellation has come, so that no time can pass
    have same : later = now := by
      by_contra differ
      exact idle now le_rfl (by omega) ⟨waiting, .inl quiet.cancelled⟩
    exact same ▸ quiet

/-- What happens to a quiet loop is no pass, and it stays quiet. -/
theorem Quiet.event (quiet : l.Quiet now) (timely : ∀ t, e = .beginPass t → t = now)
    (happens : l.step? e = some m) : m.Quiet now ∧ e.begins = false := by
  cases e with
  | cancel =>
    cases happens
    exact ⟨⟨rfl, quiet.idle⟩, rfl⟩
  | beginPass t =>
    cases timely t rfl
    rcases quiet.idle with ended | ⟨_, early⟩
    · simp [step?, ended] at happens
    · simp [step?, Ticker.due, Nat.not_le.mpr early] at happens
  | endPass =>
    rcases quiet.idle with ended | ⟨waiting, _⟩
    · simp [step?, ended] at happens
    · simp [step?, waiting] at happens
  | stop =>
    simp only [step?, Option.ite_none_right_eq_some] at happens
    obtain ⟨_, same⟩ := happens
    cases same
    exact ⟨⟨quiet.cancelled, .inl rfl⟩, rfl⟩

theorem Quiet.run (run : Run now l events last m) (quiet : l.Quiet now) : begun events = 0 := by
  induction run with
  | rest => rfl
  | wait le idle _ ih => exact ih (quiet.wait le idle)
  | event timely happens _ ih =>
    obtain ⟨quiet', no_pass⟩ := quiet.event timely happens
    simp only [begun, List.countP_cons, no_pass]
    exact ih quiet'

theorem MayBegin.of_due {passes : Nat} (waiting : l.phase = .waiting) (due : l.ticker.next ≤ now)
    (more : MayBegin {l with phase := .passing, ticker := l.ticker.tick now} now passes) :
    l.MayBegin now (passes + 1) := by
  obtain ⟨events, last, m, run, count⟩ := more
  refine ⟨(now, .beginPass now) :: events, last, m, ?_, ?_⟩
  · apply Run.event _ _ run
    · rintro t ⟨⟩
      rfl
    · simp [step?, waiting, Ticker.due, due]
  · simp [begun, LoopEvent.begins, ← count]

/-- From a pass on, any number of passes may begin: each lasts until the next deadline. -/
theorem mayBegin_of_passing (passing : l.phase = .passing) (now passes : Nat) :
    l.MayBegin now passes := by
  induction passes generalizing l now with
  | zero => exact ⟨[], now, l, .rest, rfl⟩
  | succ passes ih =>
    let later := max now l.ticker.next
    have again : MayBegin {l with phase := .waiting} later (passes + 1) :=
      .of_due rfl (le_max_right now l.ticker.next) (ih rfl later)
    obtain ⟨events, last, m, run, count⟩ := again
    refine ⟨(later, .endPass) :: events, last, m, ?_, ?_⟩
    · apply Run.wait (le_max_left now l.ticker.next)
      · intro t _ _ ready
        exact absurd (passing.symm.trans ready.1) (by decide)
      · exact .event (by rintro t ⟨⟩) (by simp [step?, passing]) run
    · simpa [begun, LoopEvent.begins] using count

/-- A pass of a delaying loop that ends well within the period is the last one, once the loop has
been cancelled. -/
theorem begun_eq_zero_of_short_pass (begins : l.step? (.beginPass now) = some m)
    (delays : l.ticker.lateness = .delay)
    (short : later + Ticker.tolerance < now + l.ticker.period) {k : Loop}
    (run : Run later {m with phase := .waiting, cancelled := true} events last k) :
    begun events = 0 := by
  simp only [step?, Option.ite_none_right_eq_some] at begins
  obtain ⟨_, same⟩ := begins
  cases same
  exact Quiet.run run ⟨rfl, .inr ⟨rfl, Ticker.lt_tick_next delays short⟩⟩

/-- A pass that lasts a period, or longer, may be followed by any number of passes, although the
loop has been cancelled. -/
theorem mayBegin_of_long_pass (begins : l.step? (.beginPass now) = some m)
    (long : now + l.ticker.period ≤ later) (passes : Nat) :
    MayBegin {m with phase := .waiting, cancelled := true} later passes := by
  simp only [step?, Option.ite_none_right_eq_some, Ticker.due, decide_eq_true_eq] at begins
  obtain ⟨⟨_, due⟩, same⟩ := begins
  cases same
  cases passes with
  | zero => exact ⟨[], later, _, .rest, rfl⟩
  | succ passes =>
    exact .of_due rfl ((Ticker.tick_next_le due).trans long) (mayBegin_of_passing rfl later passes)

/-- A loop that is cancelled may begin further passes, and then any number of them, exactly when
it is in a pass or a tick is due. -/
theorem mayBegin_after_cancel_iff (l : Loop) (now passes : Nat) :
    MayBegin {l with cancelled := true} now (passes + 1) ↔
      l.phase = .passing ∨ l.phase = .waiting ∧ l.ticker.next ≤ now := by
  constructor
  · rintro ⟨events, last, m, run, count⟩
    by_contra neither
    obtain ⟨not_passing, not_due⟩ := not_or.mp neither
    have quiet : Quiet {l with cancelled := true} now := by
      refine ⟨rfl, ?_⟩
      cases phase : l.phase with
      | ended => exact .inl rfl
      | passing => exact absurd phase not_passing
      | waiting => exact .inr ⟨rfl, Nat.lt_of_not_le fun due => not_due ⟨phase, due⟩⟩
    rw [quiet.run run] at count
    cases count
  · rintro (passing | ⟨waiting, due⟩)
    · exact mayBegin_of_passing (l := {l with cancelled := true}) passing now (passes + 1)
    · exact .of_due waiting due (mayBegin_of_passing rfl now passes)

/-- A loop at a period of one second begins its pass at 1 s, is cancelled at 1.5 s, and its pass
ends at 2.5 s: it begins another one. -/
theorem cancelled_loop_passes_again :
    ¬ CancelledForGood {ticker := .start 1000000000 0 .delay} := by
  intro for_good
  have asleep : ∀ t, 0 ≤ t → t < 1000000000 →
      ¬ Ready {ticker := .start 1000000000 0 .delay} t := by
    rintro t - early ⟨-, cancelled | due⟩
    · cases cancelled
    · simp only [Ticker.start] at due
      omega
  have begins : step? {ticker := .start 1000000000 0 .delay} (.beginPass 1000000000) =
      some {ticker := ⟨1000000000, 2000000000, .delay⟩, phase := .passing} := by decide
  have begins_again : step? {ticker := ⟨1000000000, 2000000000, .delay⟩, cancelled := true}
      (.beginPass 2500000000) =
      some {ticker := ⟨1000000000, 3500000000, .delay⟩, phase := .passing, cancelled := true} := by
    decide
  have before : Run 0 {ticker := .start 1000000000 0 .delay}
      [(1000000000, .beginPass 1000000000), (1500000000, .cancel), (2500000000, .endPass)]
      2500000000 {ticker := ⟨1000000000, 2000000000, .delay⟩, cancelled := true} := by
    apply Run.wait (by decide) asleep
    apply Run.event (by rintro t ⟨⟩; rfl) begins
    apply Run.wait (by decide : 1000000000 ≤ 1500000000) (by rintro t - - ⟨⟨⟩, -⟩)
    apply Run.event (by rintro t ⟨⟩) rfl
    apply Run.wait (by decide : 1500000000 ≤ 2500000000) (by rintro t - - ⟨⟨⟩, -⟩)
    exact .event (by rintro t ⟨⟩) rfl .rest
  have after : Run 2500000000 {ticker := ⟨1000000000, 2000000000, .delay⟩, cancelled := true}
      [(2500000000, .beginPass 2500000000)] 2500000000
      {ticker := ⟨1000000000, 3500000000, .delay⟩, phase := .passing, cancelled := true} :=
    .event (by rintro t ⟨⟩; rfl) begins_again .rest
  have none_begins := for_good _ _ _ _ _ _ before rfl after
  cases none_begins

end Loop
end EdgeControl
