import EdgeControl.Action

/-!
What an action ensures: every answer it can come to, with the state it leaves, meets a condition.
The log is no part of a condition, so nothing here depends on the events before an action. One rule
for each way in which actions are built.
-/
namespace EdgeControl.Action

variable {σ τ α β : Type}

/-- From `s` the action comes to an answer and a state that meet the condition. -/
def Ensures (act : Action σ α) (s : σ) (post : Except ServiceError α → σ → Prop) : Prop :=
  ∀ log, post (act.outcome s log).answer (act.outcome s log).state

namespace Ensures

variable {act : Action σ α} {next : α → Action σ β} {s : σ}
  {mid post : Except ServiceError α → σ → Prop} {post' : Except ServiceError β → σ → Prop}

theorem mono (h : act.Ensures s mid) (weaken : ∀ r t, mid r t → post r t) :
    act.Ensures s post :=
  fun log => weaken _ _ (h log)

/-- What the first of two actions has to ensure: without a failure the second one goes on from
there, and a failure is the failure of both. -/
@[reducible] def Then (next : α → Action σ β) (post : Except ServiceError β → σ → Prop) :
    Except ServiceError α → σ → Prop
  | .ok a, t => (next a).Ensures t post
  | .error e, t => post (.error e) t

theorem bind (h : act.Ensures s (Then next post')) : (act >>= next).Ensures s post' := by
  intro log
  have first := h log
  rw [outcome_bind]
  cases answered : (act.outcome s log).answer with
  | ok a =>
    rw [answered] at first
    exact first _
  | error e =>
    rw [answered] at first
    exact first

theorem pure {a : α} (h : post (.ok a) s) : (Pure.pure a : Action σ α).Ensures s post :=
  fun _ => h

theorem throw {e : ServiceError} (h : post (.error e) s) :
    (MonadExcept.throw e : Action σ α).Ensures s post :=
  fun _ => h

theorem get_bind {next : σ → Action σ β} (h : (next s).Ensures s post') :
    (get >>= next).Ensures s post' :=
  fun log => by simpa only [outcome_bind, outcome_get] using h log

theorem set_bind {s' : σ} {next : PUnit → Action σ β} (h : (next ⟨⟩).Ensures s' post') :
    (set s' >>= next).Ensures s post' :=
  fun log => by simpa only [outcome_bind, outcome_set] using h log

theorem modify_bind {f : σ → σ} {next : PUnit → Action σ β} (h : (next ⟨⟩).Ensures (f s) post') :
    (modify f >>= next).Ensures s post' :=
  fun log => by simpa only [outcome_bind, outcome_modify] using h log

theorem modify {f : σ → σ} {post : Except ServiceError PUnit → σ → Prop}
    (h : post (.ok ⟨⟩) (f s)) : (modify f : Action σ PUnit).Ensures s post :=
  fun _ => h

theorem note {e : LogEvent} {post : Except ServiceError Unit → σ → Prop} (h : post (.ok ()) s) :
    (note e : Action σ Unit).Ensures s post :=
  fun _ => h

theorem note_bind {e : LogEvent} {next : Unit → Action σ β} (h : (next ()).Ensures s post') :
    (Action.note e >>= next).Ensures s post' :=
  fun log => by simpa only [Action.note, outcome_bind, outcome_ofOutcome] using h (log.push e)

theorem guarded {c : Prop} [Decidable c] {act : Action σ Unit} {next : Unit → Action σ β}
    (taken : c → act.Ensures s (Then next post')) (left : ¬ c → (next ()).Ensures s post') :
    (if c then act >>= next else next ()).Ensures s post' := by
  split
  · rename_i holds
    exact bind (taken holds)
  · rename_i fails
    exact left fails

theorem onPart {part : σ → τ} {withPart : σ → τ → σ} {act : Action τ α}
    (h : act.Ensures (part s) fun r t => post r (withPart s t)) :
    (onPart part withPart act).Ensures s post :=
  fun log => h log

theorem result {post : Except ServiceError (Except ServiceError α) → σ → Prop}
    (h : act.Ensures s fun r t => post (.ok r) t) : act.result.Ensures s post :=
  fun log => h log

theorem orNote {event : ServiceError → LogEvent} (h : act.Ensures s post) :
    (act.orNote event).Ensures s post := by
  intro log
  have first := h log
  simp only [Action.orNote, outcome_ofOutcome]
  split
  · exact first
  · exact first

theorem ofExcept {ε : Type} {toService : ε → ServiceError} {x : Except ε α}
    (ok : ∀ a, x = .ok a → post (.ok a) s)
    (error : ∀ e, x = .error e → post (.error (toService e)) s) :
    (ofExcept toService x).Ensures s post := by
  cases x with
  | ok a => exact pure (ok a rfl)
  | error e => exact throw (error e rfl)

end Ensures

/-! ### Actions whose changes are all of one kind -/

def Confined (change : σ → σ → Prop) (act : Action σ α) : Prop :=
  ∀ s, act.Ensures s fun _ t => change s t

namespace Confined

variable {change : σ → σ → Prop} {act : Action σ α} {next : α → Action σ β}

section

variable [Std.Refl change]

theorem pure (a : α) : Confined change (Pure.pure a) := fun s => .pure (Std.Refl.refl s)

theorem throw (e : ServiceError) : Confined change (MonadExcept.throw e : Action σ α) :=
  fun s => .throw (Std.Refl.refl s)

theorem get : Confined change (MonadState.get : Action σ σ) := fun s _ => Std.Refl.refl s

theorem note (e : LogEvent) : Confined change (Action.note e) :=
  fun s => .note (Std.Refl.refl s)

theorem ofExcept {ε : Type} (toService : ε → ServiceError) (x : Except ε α) :
    Confined change (Action.ofExcept toService x) :=
  fun s => .ofExcept (fun _ _ => Std.Refl.refl s) fun _ _ => Std.Refl.refl s

end

theorem modify {f : σ → σ} (h : ∀ s, change s (f s)) :
    Confined change (modify f : Action σ PUnit) :=
  fun s => .modify (h s)

theorem result (h : Confined change act) : Confined change act.result :=
  fun s => .result (h s)

theorem onPart {part : σ → τ} {withPart : σ → τ → σ} (h : ∀ s t, change s (withPart s t))
    (act : Action τ α) : Confined change (Action.onPart part withPart act) :=
  fun s _ => h s _

theorem get_bind {next : σ → Action σ β} (h : ∀ s, (next s).Ensures s fun _ t => change s t) :
    Confined change (MonadState.get >>= next) :=
  fun s => .get_bind (h s)

variable [Trans change change change]

theorem bind (h : Confined change act) (h' : ∀ a, Confined change (next a)) :
    Confined change (act >>= next) := by
  intro s
  refine .bind ((h s).mono ?_)
  rintro (e | a) t first
  · exact first
  · exact (h' a t).mono fun _ u rest => Trans.trans first rest

theorem set_bind {s s' : σ} {next : PUnit → Action σ β} (first : change s s')
    (h : Confined change (next ⟨⟩)) : (set s' >>= next).Ensures s fun _ t => change s t :=
  .set_bind ((h s').mono fun _ _ rest => Trans.trans first rest)

theorem guarded {c : Prop} [Decidable c] {act : Action σ Unit} {next : Unit → Action σ β}
    (h : Confined change act) (h' : ∀ a, Confined change (next a)) :
    Confined change (if c then act >>= next else next ()) := by
  split
  · exact bind h h'
  · exact h' ()

variable [Std.Refl change]

theorem forM {items : List α} {act : α → Action σ PUnit} (h : ∀ a, Confined change (act a)) :
    Confined change (items.forM act) := by
  induction items with
  | nil => exact pure _
  | cons item items ih => exact bind (h item) fun _ => ih

theorem mapM {items : List α} {act : α → Action σ β} (h : ∀ a, Confined change (act a)) :
    Confined change (items.mapM act) := by
  induction items with
  | nil => exact pure _
  | cons item items ih =>
    rw [List.mapM_cons]
    exact bind (h item) fun b => bind ih fun bs => pure (b :: bs)

end Confined

def Same (part : σ → τ) (s t : σ) : Prop := part t = part s

instance {part : σ → τ} : Std.Refl (Same part) := ⟨fun _ => rfl⟩

instance {part : σ → τ} : Trans (Same part) (Same part) (Same part) :=
  ⟨fun first rest => Eq.trans rest first⟩

end EdgeControl.Action
