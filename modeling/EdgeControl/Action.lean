import EdgeControl.Log
import EdgeControl.ServiceError

/-!
Actions: what a service does in one call. An action may fail, it works on a state, and it leaves
log events. A failure does not take back what the action changed before it.
-/
namespace EdgeControl

abbrev Action (σ α : Type) : Type := ExceptT ServiceError (StateT σ (StateM Log)) α

/-- What an action came to: its answer, the state it left, and the log with its events added. -/
structure Outcome (σ α : Type) where
  answer : Except ServiceError α
  state : σ
  log : Log

namespace Action

variable {σ τ α β : Type}

def outcome (act : Action σ α) (s : σ) (log : Log) : Outcome σ α :=
  let ((answer, state), log) := Id.run ((act.run.run s).run log)
  ⟨answer, state, log⟩

def ofOutcome (f : σ → Log → Outcome σ α) : Action σ α :=
  ExceptT.mk fun s log =>
    let o := f s log
    pure ((o.answer, o.state), o.log)

def note (e : LogEvent) : Action σ Unit := ofOutcome fun s log => ⟨.ok (), s, log.push e⟩

def onPart (part : σ → τ) (withPart : σ → τ → σ) (act : Action τ α) : Action σ α :=
  ofOutcome fun s log =>
    let o := act.outcome (part s) log
    ⟨o.answer, withPart s o.state, o.log⟩

/-- The answer of an action as a value, so that its failure does not end the caller. -/
def result (act : Action σ α) : Action σ (Except ServiceError α) :=
  ofOutcome fun s log =>
    let o := act.outcome s log
    ⟨.ok o.answer, o.state, o.log⟩

def orNote (act : Action σ α) (event : ServiceError → LogEvent) : Action σ α :=
  ofOutcome fun s log =>
    let o := act.outcome s log
    match o.answer with
    | .ok _ => o
    | .error e => {o with log := o.log.push (event e)}

def ofExcept {ε : Type} (toService : ε → ServiceError) : Except ε α → Action σ α
  | .ok a => pure a
  | .error e => throw (toService e)

@[simp] theorem outcome_ofOutcome (f : σ → Log → Outcome σ α) (s : σ) (log : Log) :
    (ofOutcome f).outcome s log = f s log := rfl

@[simp] theorem outcome_pure (a : α) (s : σ) (log : Log) :
    (pure a : Action σ α).outcome s log = ⟨.ok a, s, log⟩ := rfl

@[simp] theorem outcome_throw (e : ServiceError) (s : σ) (log : Log) :
    (throw e : Action σ α).outcome s log = ⟨.error e, s, log⟩ := rfl

@[simp] theorem outcome_get (s : σ) (log : Log) :
    (get : Action σ σ).outcome s log = ⟨.ok s, s, log⟩ := rfl

@[simp] theorem outcome_set (s' s : σ) (log : Log) :
    (set s' : Action σ PUnit).outcome s log = ⟨.ok ⟨⟩, s', log⟩ := rfl

@[simp] theorem outcome_modify (f : σ → σ) (s : σ) (log : Log) :
    (modify f : Action σ PUnit).outcome s log = ⟨.ok ⟨⟩, f s, log⟩ := rfl

/-- An action goes on after another one only when that one did not fail. -/
theorem outcome_bind (act : Action σ α) (next : α → Action σ β) (s : σ) (log : Log) :
    (act >>= next).outcome s log =
      match (act.outcome s log).answer with
      | .ok a => (next a).outcome (act.outcome s log).state (act.outcome s log).log
      | .error e => ⟨.error e, (act.outcome s log).state, (act.outcome s log).log⟩ := by
  have run : (act >>= next).run = act.run >>= ExceptT.bindCont next := rfl
  simp only [outcome, run, StateT.run_bind, Id.run_bind]
  split
  · simp_all [ExceptT.bindCont]
    exact ⟨rfl, rfl, rfl⟩
  · simp_all [ExceptT.bindCont]

end Action
end EdgeControl
