/-!
Facts at each point of a history, which is a list of what happened with the earliest item first.
-/
namespace EdgeControl

variable {α : Type} {ok : List α → α → Prop} {items before after : List α} {item last : α}

theorem concat_eq_append_cons (split : items ++ [last] = before ++ item :: after) :
    items = before ∧ last = item ∧ after = [] ∨
      ∃ rest, items = before ++ item :: rest ∧ after = rest ++ [last] := by
  rcases List.eq_nil_or_concat after with rfl | ⟨rest, other, rfl⟩
  · obtain ⟨rfl, same⟩ := List.append_inj' split rfl
    cases same
    exact .inl ⟨rfl, rfl, rfl⟩
  · have split' : items ++ [last] = (before ++ item :: rest) ++ [other] := by simp [split]
    obtain ⟨rfl, same⟩ := List.append_inj' split' rfl
    cases same
    exact .inr ⟨rest, rfl, List.concat_eq_append ..⟩

def InTurn (ok : List α → α → Prop) (items : List α) : Prop :=
  ∀ before item after, items = before ++ item :: after → ok before item

theorem inTurn_nil : InTurn ok [] := by
  intro before item after split
  simp at split

theorem inTurn_concat : InTurn ok (items ++ [last]) ↔ InTurn ok items ∧ ok items last := by
  constructor
  · intro each
    constructor
    · rintro before item after rfl
      exact each before item (after ++ [last]) (by simp)
    · exact each items last [] rfl
  · rintro ⟨each, holds⟩ before item after split
    rcases concat_eq_append_cons split with ⟨rfl, rfl, -⟩ | ⟨rest, earlier, -⟩
    · exact holds
    · exact each before item rest earlier

theorem InTurn.of_prefix (h : InTurn ok items) (first : before <+: items) : InTurn ok before := by
  obtain ⟨rest, rfl⟩ := first
  rintro earlier item after rfl
  exact h earlier item (after ++ rest) (by simp)

end EdgeControl
