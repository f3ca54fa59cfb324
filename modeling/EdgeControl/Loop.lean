import EdgeControl.Action

/-!
Background loops. A loop waits for its next deadline or for its cancellation, and does one pass
for each deadline. When both have come while it waited it may take either. Times are nanoseconds
on a clock of the loop's own.
-/
namespace EdgeControl

inductive Lateness where
  /-- The next deadline is one period after the late tick. -/
  | delay
  /-- The deadlines stay where they were, and are caught up one after the other. -/
  | burst
  deriving DecidableEq, Repr

structure Ticker where
  period : Nat
  next : Nat
  lateness : Lateness
  deriving DecidableEq, Repr

namespace Ticker

/-- A tick that comes no later than this counts as on time. -/
def tolerance : Nat := 5 * 1000000

def start (period now : Nat) (lateness : Lateness) : Ticker := ⟨period, now + period, lateness⟩

def due (t : Ticker) (now : Nat) : Bool := t.next ≤ now

def tick (t : Ticker) (now : Nat) : Ticker :=
  if t.next + tolerance < now ∧ t.lateness = .delay then {t with next := now + t.period}
  else {t with next := t.next + t.period}

end Ticker

inductive Phase where
  | waiting
  | passing
  | ended
  deriving DecidableEq, Repr

structure Loop where
  ticker : Ticker
  phase : Phase := .waiting
  cancelled : Bool := false
  deriving DecidableEq, Repr

inductive LoopEvent where
  | cancel
  | beginPass (now : Nat)
  | endPass
  | stop
  deriving DecidableEq, Repr

namespace Loop

/-- The loop after an event, if the event can happen. A waiting loop that is cancelled may still
take a tick that is due. -/
def step? (l : Loop) : LoopEvent → Option Loop
  | .cancel => some {l with cancelled := true}
  | .beginPass now =>
    if l.phase = .waiting ∧ l.ticker.due now then
      some {l with phase := .passing, ticker := l.ticker.tick now}
    else none
  | .endPass => if l.phase = .passing then some {l with phase := .waiting} else none
  | .stop => if l.phase = .waiting ∧ l.cancelled then some {l with phase := .ended} else none

end Loop

structure Job (σ : Type) where
  lateness : Lateness
  started : List LogEvent := []
  pass : Action σ Unit
  stopped : List LogEvent := []

def Job.onPart {σ τ : Type} (part : σ → τ) (withPart : σ → τ → σ) (job : Job τ) : Job σ where
  lateness := job.lateness
  started := job.started
  pass := .onPart part withPart job.pass
  stopped := job.stopped

structure Running (σ : Type) where
  loop : Loop
  clock : Nat := 0
  state : σ

namespace Running

variable {σ : Type}

def onState {α : Type} (act : Action σ α) : Action (Running σ) α :=
  .onPart Running.state (fun r state => {r with state}) act

def happen (e : LoopEvent) : Action (Running σ) Unit :=
  modify fun r => {r with loop := (r.loop.step? e).getD r.loop}

def start (job : Job σ) (period : Nat) (state : σ) : Action (Running σ) Unit := do
  set {loop := {ticker := .start period 0 job.lateness}, state : Running σ}
  job.started.forM fun e => .note e

/-- Does the passes that are due, up to `limit` of them. -/
def catchUp (job : Job σ) : Nat → Action (Running σ) Unit
  | 0 => pure ()
  | limit + 1 => do
    let r ← get
    if r.loop.phase = .waiting && r.loop.ticker.due r.clock then
      happen (.beginPass r.clock)
      onState job.pass
      happen .endPass
      catchUp job limit

def advance (job : Job σ) (time : Nat) : Action (Running σ) Unit := do
  modify fun r => {r with clock := r.clock + time}
  let r ← get
  catchUp job ((r.clock - r.loop.ticker.next) / max 1 r.loop.ticker.period + 1)

def cancel (job : Job σ) : Action (Running σ) Unit := do
  happen .cancel
  let r ← get
  if r.loop.phase = .waiting then
    happen .stop
    job.stopped.forM fun e => .note e

def finished (r : Running σ) : Bool := r.loop.phase == .ended

end Running
end EdgeControl
