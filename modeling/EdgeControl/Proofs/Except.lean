/-!
A computation that can fail has succeeded exactly when each of its parts has, and has failed as the
first part that did.
-/
namespace EdgeControl

variable {ε ε' α β : Type}

theorem bind_eq_ok {x : Except ε α} {next : α → Except ε β} {b : β} :
    (x >>= next) = .ok b ↔ ∃ a, x = .ok a ∧ next a = .ok b := by
  cases x <;> simp [bind, Except.bind]

theorem bind_eq_error {x : Except ε α} {next : α → Except ε β} {e : ε} :
    (x >>= next) = .error e ↔ x = .error e ∨ ∃ a, x = .ok a ∧ next a = .error e := by
  cases x <;> simp [bind, Except.bind]

theorem check_bind_eq_ok {x : Except ε Unit} {next : Unit → Except ε β} {b : β} :
    (x >>= next) = .ok b ↔ x = .ok () ∧ next () = .ok b := by
  cases x <;> simp [bind, Except.bind]

theorem mapError_eq_ok {x : Except ε α} {f : ε → ε'} {a : α} :
    x.mapError f = .ok a ↔ x = .ok a := by
  cases x with
  | error e => exact ⟨nofun, nofun⟩
  | ok b =>
    constructor
    all_goals
      rintro ⟨⟩
      rfl

theorem mapError_eq_error {x : Except ε α} {f : ε → ε'} {e' : ε'} :
    x.mapError f = .error e' ↔ ∃ e, x = .error e ∧ f e = e' := by
  cases x with
  | error e =>
    constructor
    · rintro ⟨⟩
      exact ⟨e, rfl, rfl⟩
    · rintro ⟨_, ⟨⟩, rfl⟩
      rfl
  | ok a =>
    constructor
    · nofun
    · rintro ⟨_, ⟨⟩, -⟩

theorem exists_eq_ok_iff {x : Except ε α} : (∃ a, x = .ok a) ↔ ∀ e, x ≠ .error e := by
  cases x <;> simp

theorem discard_eq_ok {x : Except ε α} :
    (discard x : Except ε Unit) = .ok () ↔ ∃ a, x = .ok a := by
  cases x <;> simp [discard, Functor.discard, Functor.mapConst, Except.map]

theorem unless_eq_ok {c : Prop} [Decidable c] {e : ε} {next : Unit → Except ε β} {b : β} :
    (if c then throw e >>= next else next ()) = .ok b ↔ ¬ c ∧ next () = .ok b := by
  split
  · rename_i holds
    simp [holds, bind, Except.bind, throw, throwThe, MonadExceptOf.throw]
  · rename_i fails
    simp [fails]

theorem forIn_eq_ok {items : List α} (check : α → Except ε Unit) :
    (forIn items () fun item _ => do
      check item
      return ForInStep.yield ()) = .ok () ↔ ∀ item ∈ items, check item = .ok () := by
  induction items with
  | nil => simp [pure, Except.pure]
  | cons item items ih =>
    rw [List.forall_mem_cons, ← ih, List.forIn_cons, bind_assoc, bind_eq_ok]
    simp only [pure_bind]
    constructor
    · rintro ⟨⟨⟩, first, rest⟩
      exact ⟨first, rest⟩
    · rintro ⟨first, rest⟩
      exact ⟨_, first, rest⟩

end EdgeControl
