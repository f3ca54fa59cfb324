import EdgeControl.Text.Blank
import EdgeControl.Text.Numeral
import Mathlib.Data.List.TakeWhile

/-!
Numerals and cut texts read back. The numeral of a number is read as that number, and has digits
only, so the marks between numerals are found where they were put.
-/
namespace EdgeControl

theorem mapM_map_of_inverse {α β : Type} {write : α → β} {read : β → Option α}
    (inverse : ∀ a, read (write a) = some a) (items : List α) :
    (items.map write).mapM read = some items := by
  induction items with
  | nil => rfl
  | cons a items ih => simp [inverse, ih]

namespace Text

/-! ### Numerals -/

theorem digitValue_digitChar : ∀ d < 16, digitValue (Nat.digitChar d) = some d := by decide

theorem appendDigit_digitChar {base value d : Nat} (small : base ≤ 16) (below : d < base) :
    appendDigit base value (Nat.digitChar d) = some (value * base + d) := by
  rw [appendDigit, digitValue_digitChar d (Nat.lt_of_lt_of_le below small)]
  exact if_pos below

theorem digits?_toDigits {base : Nat} (large : 1 < base) (small : base ≤ 16) (n : Nat) :
    digits? base (Nat.toDigits base n) = some n := by
  induction n using Nat.strongRecOn with
  | ind n ih =>
    rw [Nat.toDigits_eq_if large]
    split
    · rename_i below
      have one : appendDigit base 0 (Nat.digitChar n) = some n := by
        rw [appendDigit_digitChar small below, Nat.zero_mul, Nat.zero_add]
      simp [digits?, one]
    · rename_i above
      have positive : 0 < n := by omega
      have last := Nat.mod_lt n (Nat.lt_trans Nat.zero_lt_one large)
      have whole := Nat.div_add_mod' n base
      have front := ih (n / base) (Nat.div_lt_self positive large)
      rw [digits?] at front ⊢
      rw [List.foldlM_append, front]
      simp [appendDigit_digitChar small last, whole]

theorem mem_toDigits {base n : Nat} (large : 1 < base) {c : Char}
    (member : c ∈ Nat.toDigits base n) : ∃ d < base, c = Nat.digitChar d := by
  induction n using Nat.strongRecOn with
  | ind n ih =>
    rw [Nat.toDigits_eq_if large] at member
    split at member
    · rename_i below
      exact ⟨n, below, List.mem_singleton.mp member⟩
    · rename_i above
      rcases List.mem_append.mp member with front | last
      · exact ih (n / base) (Nat.div_lt_self (by omega) large) front
      · exact ⟨n % base, Nat.mod_lt n (by omega), List.mem_singleton.mp last⟩

theorem forall_mem_toDigits {p : Char → Prop} (digits : ∀ d < 10, p (Nat.digitChar d)) {n : Nat} :
    ∀ c ∈ Nat.toDigits 10 n, p c := by
  intro c member
  obtain ⟨d, below, rfl⟩ := mem_toDigits (by decide) member
  exact digits d below

theorem head?_toDigits {n : Nat} (positive : 0 < n) : (Nat.toDigits 10 n).head? ≠ some '0' := by
  induction n using Nat.strongRecOn with
  | ind n ih =>
    rw [Nat.toDigits_eq_if (by decide)]
    split
    · rename_i below
      simpa using Nat.ne_of_gt positive
    · rename_i above
      rw [List.head?_append, Option.or_of_isSome (List.isSome_head?.mpr Nat.toDigits_ne_nil)]
      exact ih (n / 10) (by omega) (by omega)

theorem decimal?_toDigits {n max : Nat} (within : n ≤ max) :
    decimal? max (Nat.toDigits 10 n) = some n := by
  have unsigned : (Nat.toDigits 10 n).head? ≠ some '+' := fun plus =>
    forall_mem_toDigits (p := (· ≠ '+')) (by decide) '+' (List.mem_of_mem_head? plus) rfl
  have some_digit : (Nat.toDigits 10 n).isEmpty = false :=
    List.isEmpty_eq_false_iff.mpr Nat.toDigits_ne_nil
  simp [decimal?, unsigned?, unsigned, some_digit, digits?_toDigits, within]

theorem plainDecimal?_toDigits {n max : Nat} (within : n ≤ max) :
    plainDecimal? max (Nat.toDigits 10 n) = some n := by
  rcases Nat.eq_zero_or_pos n with rfl | positive
  · rfl
  · have first := head?_toDigits positive
    have read : digits? 10 (Nat.toDigits 10 n) = some n :=
      digits?_toDigits (by decide) (by decide) n
    cases digits : Nat.toDigits 10 n with
    | nil => exact absurd digits Nat.toDigits_ne_nil
    | cons c cs =>
      rw [digits] at first read
      have leading : c ≠ '0' := fun zero => first (congrArg some zero)
      unfold plainDecimal?
      split
      · rename_i none
        cases none
      · rename_i zero
        cases zero
        exact absurd rfl leading
      · rename_i same
        cases same
        simp [leading, read, within]

theorem unsigned?_hexPair (b : UInt8) : unsigned? 16 255 (hexPair b) = some b.toNat := by
  have bound := b.toNat_lt
  have high : b.toNat / 16 < 16 := by omega
  have low : b.toNat % 16 < 16 := by omega
  have unsigned : Nat.digitChar (b.toNat / 16) ≠ '+' :=
    (by decide : ∀ d < 16, Nat.digitChar d ≠ '+') _ high
  have first : appendDigit 16 0 (Nat.digitChar (b.toNat / 16)) = some (b.toNat / 16) := by
    rw [appendDigit_digitChar (Nat.le_refl 16) high, Nat.zero_mul, Nat.zero_add]
  have second : appendDigit 16 (b.toNat / 16) (Nat.digitChar (b.toNat % 16)) = some b.toNat := by
    rw [appendDigit_digitChar (Nat.le_refl 16) low, Nat.div_add_mod']
  have read : digits? 16 (hexPair b) = some b.toNat := by
    simp [digits?, hexPair, first, second]
  have within : b.toNat ≤ 255 := by omega
  have plain : (hexPair b).head? ≠ some '+' := fun plus => unsigned (Option.some.inj plus)
  have some_digit : (hexPair b).isEmpty = false := rfl
  simp [unsigned?, plain, some_digit, read, within]

/-! ### Texts between marks -/

section

variable {p : Char → Bool} {c : Char} {w cs : List Char}

theorem splitWhere_of_clean (clean : ∀ x ∈ w, p x = false) : splitWhere p w = [w] := by
  induction w with
  | nil => rfl
  | cons x w ih =>
    rw [List.forall_mem_cons] at clean
    simp [splitWhere, clean.1, ih clean.2]

theorem splitWhere_append_cons (clean : ∀ x ∈ w, p x = false) (mark : p c = true) :
    splitWhere p (w ++ c :: cs) = w :: splitWhere p cs := by
  induction w with
  | nil => simp [splitWhere, mark]
  | cons x w ih =>
    rw [List.forall_mem_cons] at clean
    simp [splitWhere, clean.1, ih clean.2]

theorem splitWhere_intercalate {ws : List (List Char)} (clean : ∀ w ∈ ws, ∀ x ∈ w, p x = false)
    (mark : p c = true) (some_word : ws ≠ []) : splitWhere p ([c].intercalate ws) = ws := by
  induction ws with
  | nil => exact absurd rfl some_word
  | cons w ws ih =>
    rw [List.forall_mem_cons] at clean
    cases ws with
    | nil => simpa using splitWhere_of_clean clean.1
    | cons v ws =>
      rw [List.intercalate_cons_cons, List.append_assoc, List.singleton_append,
        splitWhere_append_cons clean.1 mark, ih clean.2 (List.cons_ne_nil v ws)]

theorem splitOnce_of_not_mem (absent : c ∉ w) : splitOnce c w = none := by
  have all : w.dropWhile (· != c) = [] :=
    List.dropWhile_eq_nil_iff.mpr fun x member => bne_iff_ne.mpr fun same => absent (same ▸ member)
  rw [splitOnce, all]

theorem splitOnce_append_cons (absent : c ∉ w) :
    splitOnce c (w ++ c :: cs) = some (w, cs) := by
  have other : ∀ x ∈ w, (x != c) = true :=
    fun x member => bne_iff_ne.mpr fun same => absent (same ▸ member)
  rw [splitOnce, List.dropWhile_append_of_pos other, List.takeWhile_append_of_pos other]
  simp

theorem trim_of_clean (clean : ∀ x ∈ w, isBlank x = false) : trim w = w := by
  have kept {v : List Char} (clean : ∀ x ∈ v, isBlank x = false) : v.dropWhile isBlank = v := by
    cases v with
    | nil => rfl
    | cons x v => exact List.dropWhile_cons_of_neg (by simp [clean x List.mem_cons_self])
  rw [trim, kept clean, kept fun x member => clean x (List.mem_reverse.mp member),
    List.reverse_reverse]

end

end Text
end EdgeControl
