/-!
Orders on records: comparing field by field in turn tells two records apart exactly when one of
the fields does.
-/
namespace EdgeControl

theorem compareLex_eq {α : Type} {first second : α → α → Ordering} {a b : α}
    (h : compareLex first second a b = .eq) : first a b = .eq ∧ second a b = .eq :=
  Ordering.then_eq_eq.mp h

theorem compareOn_eq {α β : Type} [Ord β] [Std.LawfulEqOrd β] {field : α → β} {a b : α}
    (h : compareOn field a b = .eq) : field a = field b :=
  Std.LawfulEqOrd.eq_of_compare h

end EdgeControl
