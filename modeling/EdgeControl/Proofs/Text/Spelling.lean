import EdgeControl.Proofs.Text.ReadBack
import Mathlib.Data.List.Forall2
import Mathlib.Data.List.Induction

/-!
What the readers of numerals accept, and what the cuts of a text give, in terms of the text itself.
A numeral is one of the spellings of its number, and the parts of a text are the parts that make it
up again.
-/
namespace EdgeControl

theorem mapM_eq_some_iff {α β : Type} {read : α → Option β} {items : List α} {bs : List β} :
    items.mapM read = some bs ↔ List.Forall₂ (fun a b => read a = some b) items bs := by
  induction items generalizing bs with
  | nil => simp [eq_comm]
  | cons a items ih =>
    simp only [List.mapM_cons, Option.bind_eq_bind, Option.bind_eq_some_iff, ih,
      List.forall₂_cons_left_iff]
    constructor
    · rintro ⟨b, first, bs, rest, ⟨⟩⟩
      exact ⟨b, bs, first, rest, rfl⟩
    · rintro ⟨b, bs, first, rest, rfl⟩
      exact ⟨b, first, bs, rest, rfl⟩

namespace Text

variable {cs w before after : List Char} {c : Char} {n max : Nat}

/-! ### Characters -/

theorem forall_char {p : Char → Prop} (ascii : ∀ n < 128, p (Char.ofNat n))
    (other : ∀ c : Char, 128 ≤ c.toNat → p c) (c : Char) : p c := by
  by_cases small : c.toNat < 128
  · rw [← Char.ofNat_toNat c]
    exact ascii _ small
  · exact other c (Nat.le_of_not_lt small)

theorem toLower_of_large (large : 128 ≤ c.toNat) : c.toLower = c := by
  refine dif_neg fun upper => ?_
  have last : c.toNat ≤ 90 := UInt32.le_iff_toNat_le.mp upper.2
  omega

theorem digitValue_of_large (large : 128 ≤ c.toNat) : digitValue c = none := by
  have above {d : Char} (small : d.toNat < 128) : ¬ c ≤ d := fun le => by
    have le' : c.toNat ≤ d.toNat := UInt32.le_iff_toNat_le.mp le
    omega
  rw [digitValue, if_neg (above (by decide) ·.2), if_neg (above (by decide) ·.2),
    if_neg (above (by decide) ·.2)]

theorem digitValue_eq_some_iff {d : Nat} (below : d < 16) :
    digitValue c = some d ↔ c.toLower = Nat.digitChar d := by
  revert d
  refine forall_char (p := fun c => ∀ {d}, d < 16 →
    (digitValue c = some d ↔ c.toLower = Nat.digitChar d)) ?_ ?_ c
  · have table : ∀ n < 128, ∀ d < 16, digitValue (Char.ofNat n) = some d ↔
        (Char.ofNat n).toLower = Nat.digitChar d := by decide +kernel
    exact fun n small d below => table n small d below
  · intro c large d below
    have digit : (Nat.digitChar d).toNat < 128 :=
      (by decide : ∀ d < 16, (Nat.digitChar d).toNat < 128) d below
    rw [digitValue_of_large large, toLower_of_large large]
    refine ⟨nofun, ?_⟩
    rintro rfl
    omega

theorem toLower_eq_iff {l : Char} (small : l.toUpper.toLower = l) :
    c.toLower = l ↔ c = l ∨ c = l.toUpper := by
  have back : ∀ c : Char, c = c.toLower ∨ c = c.toLower.toUpper :=
    forall_char (by decide +kernel) fun c large => .inl (toLower_of_large large).symm
  have again : ∀ c : Char, c.toLower.toLower = c.toLower :=
    forall_char (by decide +kernel) fun c large => by
      rw [toLower_of_large large, toLower_of_large large]
  constructor
  · rintro rfl
    exact back c
  · rintro (rfl | rfl)
    · rw [← small, again]
    · exact small

/-! ### Words in any letter case -/

/-- The word `w` with each of its letters in either case. -/
def InAnyCase (w cs : List Char) : Prop := List.Forall₂ (fun l c => c = l ∨ c = l.toUpper) w cs

theorem lowercase_eq_iff (small : ∀ l ∈ w, l.toUpper.toLower = l) :
    lowercase cs = w ↔ InAnyCase w cs := by
  induction w generalizing cs with
  | nil => simp [lowercase, InAnyCase]
  | cons l w ih =>
    rw [List.forall_mem_cons] at small
    cases cs with
    | nil => simp [lowercase, InAnyCase]
    | cons c cs =>
      have rest : lowercase cs = w ↔ InAnyCase w cs := ih small.2
      simp only [lowercase, InAnyCase, List.map_cons, List.cons.injEq, List.forall₂_cons] at rest ⊢
      rw [toLower_eq_iff small.1, rest]

theorem InAnyCase.forall_mem {p : Char → Prop} (letters : ∀ l ∈ w, p l ∧ p l.toUpper)
    (word : InAnyCase w cs) : ∀ c ∈ cs, p c := by
  induction word with
  | nil => exact nofun
  | cons first rest ih =>
    obtain ⟨⟨small, large⟩, letters⟩ := List.forall_mem_cons.mp letters
    refine List.forall_mem_cons.mpr ⟨?_, ih letters⟩
    rcases first with rfl | rfl
    · exact small
    · exact large

/-! ### Numerals -/

theorem appendDigit_eq_some_iff {base value : Nat} : appendDigit base value c = some n ↔
    ∃ d < base, digitValue c = some d ∧ n = value * base + d := by
  simp only [appendDigit, Option.bind_eq_bind, Option.bind_eq_some_iff,
    Option.ite_none_right_eq_some, Option.some.injEq]
  constructor
  · rintro ⟨d, read, below, rfl⟩
    exact ⟨d, below, read, rfl⟩
  · rintro ⟨d, below, read, rfl⟩
    exact ⟨d, read, below, rfl⟩

theorem digits?_append_singleton {base : Nat} : digits? base (cs ++ [c]) = some n ↔
    ∃ value, digits? base cs = some value ∧
      ∃ d < base, digitValue c = some d ∧ n = value * base + d := by
  simp [digits?, List.foldlM_append, Option.bind_eq_some_iff, appendDigit_eq_some_iff]

theorem digits_of_digits? {base : Nat} (read : digits? base cs = some n) :
    ∀ c ∈ cs, ∃ d, digitValue c = some d := by
  induction cs using List.reverseRecOn generalizing n with
  | nil => exact nofun
  | append_singleton front c ih =>
    obtain ⟨value, before, d, -, digit, -⟩ := digits?_append_singleton.mp read
    intro x member
    rcases List.mem_append.mp member with first | last
    · exact ih before x first
    · rw [List.mem_singleton.mp last]
      exact ⟨d, digit⟩

theorem unsigned?_eq_some_iff {base : Nat} : unsigned? base max cs = some n ↔ n ≤ max ∧
    ∃ sign ds, (sign = [] ∨ sign = ['+']) ∧ cs = sign ++ ds ∧ ds ≠ [] ∧
      digits? base ds = some n := by
  have body (ds : List Char) :
      (if ds.isEmpty then none
        else (digits? base ds).bind fun n => if n ≤ max then some n else none) = some n ↔
        n ≤ max ∧ ds ≠ [] ∧ digits? base ds = some n := by
    simp only [Option.ite_none_left_eq_some, Option.bind_eq_some_iff,
      Option.ite_none_right_eq_some, Option.some.injEq, List.isEmpty_iff]
    constructor
    · rintro ⟨some_digit, _, read, within, rfl⟩
      exact ⟨within, some_digit, read⟩
    · rintro ⟨within, some_digit, read⟩
      exact ⟨some_digit, n, read, within, rfl⟩
  have signed : unsigned? base max cs = some n ↔ n ≤ max ∧
      (if cs.head? = some '+' then cs.tail else cs) ≠ [] ∧
        digits? base (if cs.head? = some '+' then cs.tail else cs) = some n := by
    rw [← body]
    rfl
  rw [signed]
  refine and_congr_right fun within => ?_
  constructor
  · rintro ⟨some_digit, read⟩
    by_cases plus : cs.head? = some '+'
    · rw [if_pos plus] at some_digit read
      exact ⟨['+'], cs.tail, .inr rfl, (List.cons_head?_tail plus).symm, some_digit, read⟩
    · rw [if_neg plus] at some_digit read
      exact ⟨[], cs, .inl rfl, rfl, some_digit, read⟩
  · rintro ⟨sign, ds, rfl | rfl, rfl, some_digit, read⟩
    · have plain : cs.head? ≠ some '+' := by
        intro plus
        rw [← List.cons_head?_tail plus] at read
        cases read
      rw [if_neg plain]
      exact ⟨some_digit, read⟩
    · exact ⟨some_digit, read⟩

/-- A numeral of `n` in base ten: at most one plus sign, then any number of zeros, then the digits
of `n`. -/
def Numeral (n : Nat) (cs : List Char) : Prop :=
  ∃ sign zeros, (sign = [] ∨ sign = ['+']) ∧
    cs = sign ++ (List.replicate zeros '0' ++ Nat.toDigits 10 n)

theorem Numeral.forall_mem {p : Char → Prop} (digits : ∀ d < 10, p (Nat.digitChar d)) (plus : p '+')
    (numeral : Numeral n cs) : ∀ c ∈ cs, p c := by
  obtain ⟨sign, zeros, signed, rfl⟩ := numeral
  refine List.forall_mem_append.mpr ⟨?_, List.forall_mem_append.mpr ⟨?_, ?_⟩⟩
  · rcases signed with rfl | rfl
    · exact nofun
    · exact List.forall_mem_singleton.mpr plus
  · intro c zero
    rw [List.eq_of_mem_replicate zero]
    exact digits 0 (by decide)
  · exact forall_mem_toDigits digits

theorem Numeral.ne_nil (numeral : Numeral n cs) : cs ≠ [] := by
  obtain ⟨sign, zeros, -, rfl⟩ := numeral
  simp [Nat.toDigits_ne_nil]

theorem digitValue_decimal {d : Nat} (below : d < 10) :
    digitValue c = some d ↔ c = Nat.digitChar d := by
  have plain : ∀ d < 10, (Nat.digitChar d).toUpper.toLower = Nat.digitChar d ∧
      (Nat.digitChar d).toUpper = Nat.digitChar d := by decide
  rw [digitValue_eq_some_iff (by omega), toLower_eq_iff (plain d below).1, (plain d below).2,
    or_self]

theorem toDigits_mul_add {value d : Nat} (positive : 0 < value) (below : d < 10) :
    Nat.toDigits 10 (value * 10 + d) = Nat.toDigits 10 value ++ [Nat.digitChar d] := by
  have front : (value * 10 + d) / 10 = value := by omega
  have last : (value * 10 + d) % 10 = d := by omega
  rw [Nat.toDigits_eq_if (by decide), if_neg (by omega), front, last]

theorem digits?_replicate_append (zeros : Nat) (cs : List Char) :
    digits? 10 (List.replicate zeros '0' ++ cs) = digits? 10 cs := by
  induction zeros with
  | zero => rfl
  | succ zeros ih => exact ih

theorem digits?_eq_some_iff (some_digit : cs ≠ []) : digits? 10 cs = some n ↔
    ∃ zeros, cs = List.replicate zeros '0' ++ Nat.toDigits 10 n := by
  constructor
  · intro read
    induction cs using List.reverseRecOn generalizing n with
    | nil => exact absurd rfl some_digit
    | append_singleton front c ih =>
      obtain ⟨value, before, d, below, digit, rfl⟩ := digits?_append_singleton.mp read
      obtain rfl := (digitValue_decimal below).mp digit
      have single : Nat.toDigits 10 d = [Nat.digitChar d] := by
        rw [Nat.toDigits_eq_if (by decide), if_pos below]
      rcases Nat.eq_zero_or_pos value with rfl | positive
      · -- Only zeros came before, and they all stay in front.
        refine ⟨front.length, ?_⟩
        rw [Nat.zero_mul, Nat.zero_add, single]
        by_cases first : front = []
        · simp [first]
        · obtain ⟨zeros, split⟩ := ih first before
          simp [split, List.replicate_succ']
      · have first : front ≠ [] := by
          rintro rfl
          cases before
          exact Nat.lt_irrefl 0 positive
        obtain ⟨zeros, split⟩ := ih first before
        exact ⟨zeros, by rw [toDigits_mul_add positive below, split, List.append_assoc]⟩
  · rintro ⟨zeros, rfl⟩
    rw [digits?_replicate_append, digits?_toDigits (by decide) (by decide)]

theorem decimal?_eq_some_iff : decimal? max cs = some n ↔ n ≤ max ∧ Numeral n cs := by
  rw [decimal?, unsigned?_eq_some_iff]
  refine and_congr_right fun _ => exists_congr fun sign => ?_
  constructor
  · rintro ⟨ds, signed, rfl, some_digit, read⟩
    obtain ⟨zeros, rfl⟩ := (digits?_eq_some_iff some_digit).mp read
    exact ⟨zeros, signed, rfl⟩
  · rintro ⟨zeros, signed, rfl⟩
    have some_digit : List.replicate zeros '0' ++ Nat.toDigits 10 n ≠ [] := by
      simp [Nat.toDigits_ne_nil]
    exact ⟨_, signed, rfl, some_digit, (digits?_eq_some_iff some_digit).mpr ⟨zeros, rfl⟩⟩

theorem plainDecimal?_eq_some_iff :
    plainDecimal? max cs = some n ↔ n ≤ max ∧ cs = Nat.toDigits 10 n := by
  constructor
  · intro read
    unfold plainDecimal? at read
    split at read
    · cases read
    · cases read
      exact ⟨Nat.zero_le max, rfl⟩
    · rename_i c ds _
      simp only [Option.bind_eq_bind, Option.bind_eq_some_iff, Option.ite_none_left_eq_some,
        Option.ite_none_right_eq_some, Option.some.injEq] at read
      obtain ⟨leading, m, value, within, rfl⟩ := read
      obtain ⟨zeros, split⟩ := (digits?_eq_some_iff (List.cons_ne_nil c ds)).mp value
      cases zeros with
      | zero => exact ⟨within, split⟩
      | succ zeros => exact absurd (List.cons.inj split).1 leading
  · rintro ⟨within, rfl⟩
    exact plainDecimal?_toDigits within

theorem mapM_plainDecimal?_eq_some_iff {texts : List (List Char)} {ns : List Nat} :
    texts.mapM (plainDecimal? max) = some ns ↔
      (∀ n ∈ ns, n ≤ max) ∧ texts = ns.map (Nat.toDigits 10) := by
  simp only [mapM_eq_some_iff, plainDecimal?_eq_some_iff]
  induction ns generalizing texts with
  | nil => simp
  | cons n ns ih =>
    simp only [List.forall₂_cons_right_iff, ih, List.forall_mem_cons, List.map_cons]
    constructor
    · rintro ⟨_, _, ⟨within, rfl⟩, ⟨others, rfl⟩, rfl⟩
      exact ⟨⟨within, others⟩, rfl⟩
    · rintro ⟨⟨within, others⟩, rfl⟩
      exact ⟨_, _, ⟨within, rfl⟩, ⟨others, rfl⟩, rfl⟩

/-! ### Texts between marks -/

/-- A text made up of pieces with a mark, a character that `p` accepts, between neighbours. -/
inductive Separated (p : Char → Bool) : List (List Char) → List Char → Prop
  | last {w : List Char} (clean : ∀ x ∈ w, p x = false) : Separated p [w] w
  | more {w cs : List Char} {c : Char} {ws : List (List Char)} (clean : ∀ x ∈ w, p x = false)
    (mark : p c = true) (rest : Separated p ws cs) : Separated p (w :: ws) (w ++ c :: cs)

theorem separated_splitWhere (p : Char → Bool) (cs : List Char) :
    Separated p (splitWhere p cs) cs := by
  induction cs with
  | nil => exact .last nofun
  | cons c cs ih =>
    unfold splitWhere
    split
    · rename_i mark
      exact .more (w := []) nofun mark ih
    · rename_i plain
      have first {w : List Char} (clean : ∀ x ∈ w, p x = false) : ∀ x ∈ c :: w, p x = false :=
        List.forall_mem_cons.mpr ⟨Bool.eq_false_iff.mpr plain, clean⟩
      cases pieces : splitWhere p cs with
      | nil => exact absurd pieces (splitWhere_ne_nil p cs)
      | cons w ws =>
        rw [pieces] at ih
        cases ih with
        | last clean => exact .last (first clean)
        | more clean mark rest => exact .more (first clean) mark rest

theorem splitWhere_eq_iff {p : Char → Bool} {ws : List (List Char)} :
    splitWhere p cs = ws ↔ Separated p ws cs := by
  constructor
  · rintro rfl
    exact separated_splitWhere p cs
  · intro separated
    induction separated with
    | last clean => exact splitWhere_of_clean clean
    | more clean mark _ ih => rw [splitWhere_append_cons clean mark, ih]

theorem Separated.eq_intercalate {ws : List (List Char)} (separated : Separated (· == c) ws cs) :
    cs = [c].intercalate ws := by
  induction separated with
  | last clean => simp
  | @more w cs d ws clean mark rest ih =>
    obtain rfl := beq_iff_eq.mp mark
    cases rest with
    | last => simp
    | more => rw [List.intercalate_cons_cons, ← ih, List.append_assoc, List.singleton_append]

theorem Separated.forall_mem_iff {p : Char → Bool} {q : Char → Prop} {ws : List (List Char)}
    (separated : Separated p ws cs) (marks : ∀ c, p c = true → q c) :
    (∀ c ∈ cs, q c) ↔ ∀ w ∈ ws, ∀ c ∈ w, q c := by
  induction separated with
  | last clean => rw [List.forall_mem_singleton]
  | more clean mark rest ih =>
    rw [List.forall_mem_append, List.forall_mem_cons, List.forall_mem_cons, ih]
    exact and_congr_right fun _ => and_iff_right (marks _ mark)

theorem splitOnce_eq_some_iff :
    splitOnce c cs = some (before, after) ↔ c ∉ before ∧ cs = before ++ c :: after := by
  constructor
  · intro found
    have member : c ∈ cs := by
      by_contra absent
      rw [splitOnce_of_not_mem absent] at found
      cases found
    obtain ⟨before', after', rfl, absent⟩ := List.eq_append_cons_of_mem member
    rw [splitOnce_append_cons absent] at found
    cases found
    exact ⟨absent, rfl⟩
  · rintro ⟨absent, rfl⟩
    exact splitOnce_append_cons absent

/-! ### Blanks -/

def Blank (cs : List Char) : Prop := ∀ c ∈ cs, isBlank c = true

def Padded (w cs : List Char) : Prop :=
  ∃ before after, Blank before ∧ Blank after ∧ cs = before ++ w ++ after

theorem padded_trim (cs : List Char) : Padded (trim cs) cs := by
  have leading (v : List Char) : Blank (v.takeWhile isBlank) := fun _ => List.mem_takeWhile_imp
  refine ⟨cs.takeWhile isBlank, ((cs.dropWhile isBlank).reverse.takeWhile isBlank).reverse,
    leading cs, fun c member => leading _ c (List.mem_reverse.mp member), ?_⟩
  rw [trim, List.append_assoc, ← List.reverse_append, List.takeWhile_append_dropWhile,
    List.reverse_reverse, List.takeWhile_append_dropWhile]

theorem Padded.prepend (blank : Blank before) (padded : Padded w cs) : Padded w (before ++ cs) := by
  obtain ⟨front, back, blank', blank'', rfl⟩ := padded
  exact ⟨before ++ front, back, List.forall_mem_append.mpr ⟨blank, blank'⟩, blank'', by simp⟩

theorem Padded.append (padded : Padded w cs) (blank : Blank after) : Padded w (cs ++ after) := by
  obtain ⟨front, back, blank', blank'', rfl⟩ := padded
  exact ⟨front, back ++ after, blank', List.forall_mem_append.mpr ⟨blank'', blank⟩, by simp⟩

theorem trim_of_padded (first : ∀ c ∈ w.head?, isBlank c = false)
    (last : ∀ c ∈ w.getLast?, isBlank c = false) (padded : Padded w cs) : trim cs = w := by
  have kept {v : List Char} (first : ∀ c ∈ v.head?, isBlank c = false) :
      v.dropWhile isBlank = v := by
    cases v with
    | nil => rfl
    | cons c v => exact List.dropWhile_cons_of_neg (by simp [first c rfl])
  obtain ⟨before, after, blank, blank', rfl⟩ := padded
  rw [trim, List.append_assoc, List.dropWhile_append_of_pos blank]
  by_cases empty : w = []
  · subst w
    rw [List.nil_append, List.dropWhile_eq_nil_iff.mpr blank']
    rfl
  · have front : ∀ c ∈ (w ++ after).head?, isBlank c = false := by
      rwa [List.head?_append_of_ne_nil w empty]
    have back : ∀ c ∈ w.reverse.head?, isBlank c = false := by
      rwa [List.head?_reverse]
    rw [kept front, List.reverse_append,
      List.dropWhile_append_of_pos fun c member => blank' c (List.mem_reverse.mp member),
      kept back, List.reverse_reverse]

theorem trim_of_padded_clean (clean : ∀ c ∈ w, isBlank c = false) (padded : Padded w cs) :
    trim cs = w :=
  trim_of_padded (fun c member => clean c (List.mem_of_mem_head? member))
    (fun c member => clean c (List.mem_of_mem_getLast? member)) padded

/-! ### Columns and lines -/

theorem words_append_of_blank (blank : Blank before) : words (before ++ cs) = words cs := by
  induction before with
  | nil => rfl
  | cons c before ih =>
    obtain ⟨first, rest⟩ := List.forall_mem_cons.mp blank
    rw [← ih rest]
    simp [words, splitWhere, first]

theorem words_of_clean (some_char : w ≠ []) (clean : ∀ c ∈ w, isBlank c = false) :
    words w = [w] := by
  simp [words, splitWhere_of_clean clean, some_char]

theorem words_append_cons (some_char : w ≠ []) (clean : ∀ c ∈ w, isBlank c = false)
    (blank : isBlank c = true) : words (w ++ c :: cs) = w :: words cs := by
  simp [words, splitWhere_append_cons clean blank, some_char]

theorem words_eq_nil_iff : words cs = [] ↔ Blank cs := by
  constructor
  · intro none
    induction cs with
    | nil => exact nofun
    | cons c cs ih =>
      have blank : isBlank c = true := by
        by_contra plain
        obtain ⟨w, ws, pieces⟩ := List.exists_cons_of_ne_nil (splitWhere_ne_nil isBlank cs)
        simp [words, splitWhere, plain, pieces] at none
      rw [← List.singleton_append, words_append_of_blank (List.forall_mem_singleton.mpr blank)]
        at none
      exact List.forall_mem_cons.mpr ⟨blank, ih none⟩
  · intro blank
    rw [← List.append_nil cs, words_append_of_blank blank]
    rfl

theorem lines_append_cons (single : '\n' ∉ w) :
    lines (w ++ '\n' :: cs) = withoutReturn w :: lines cs := by
  have clean : ∀ c ∈ w, (c == '\n') = false :=
    fun c member => beq_eq_false_iff_ne.mpr fun same => single (same ▸ member)
  have pieces := splitWhere_ne_nil (· == '\n') cs
  rw [lines, splitWhere_append_cons clean (beq_self_eq_true _)]
  simp [lines, List.getLast?_cons_of_ne_nil pieces, List.dropLast_cons_of_ne_nil pieces]

end Text
end EdgeControl
