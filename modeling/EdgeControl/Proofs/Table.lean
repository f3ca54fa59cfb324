import Std.Data.ExtTreeMap.Lemmas

/-!
Tables as lists: the values of a table in the order of their keys.
-/
namespace EdgeControl.Table

open Std

variable {κ ν : Type} {cmp : κ → κ → Ordering} [TransCmp cmp] (t : ExtTreeMap κ ν cmp)

theorem values_eq_foldr : t.values = t.foldr (fun _ v vs => v :: vs) [] := by
  rcases t with ⟨⟨q⟩⟩
  induction q using Quotient.inductionOn with
  | h m => rfl

theorem values_eq_map_toList : t.values = t.toList.map (·.2) := by
  rw [values_eq_foldr, ExtTreeMap.foldr_eq_foldr_toList]
  induction t.toList with
  | nil => rfl
  | cons entry entries ih => rw [List.foldr_cons, List.map_cons, ih]

theorem mem_values [LawfulEqCmp cmp] {v : ν} : v ∈ t.values ↔ ∃ k : κ, t[k]? = some v := by
  simp only [values_eq_map_toList, List.mem_map, Prod.exists, exists_eq_right,
    ExtTreeMap.mem_toList_iff_getElem?_eq_some]

theorem getElem?_insert [LawfulEqCmp cmp] [DecidableEq κ] {t : ExtTreeMap κ ν cmp} {k a : κ}
    {v : ν} : (t.insert k v)[a]? = if k = a then some v else t[a]? := by
  rw [ExtTreeMap.getElem?_insert]
  simp only [LawfulEqCmp.compare_eq_iff_eq]

theorem getElem?_erase [LawfulEqCmp cmp] [DecidableEq κ] {t : ExtTreeMap κ ν cmp} {k a : κ} :
    (t.erase k)[a]? = if k = a then none else t[a]? := by
  rw [ExtTreeMap.getElem?_erase]
  simp only [LawfulEqCmp.compare_eq_iff_eq]

theorem insert_insert [LawfulEqCmp cmp] [DecidableEq κ] {t : ExtTreeMap κ ν cmp} {k : κ}
    {v w : ν} : (t.insert k v).insert k w = t.insert k w := by
  ext a x
  simp only [getElem?_insert]
  split <;> rfl

theorem not_mem_erase_self (k : κ) : k ∉ t.erase k :=
  fun member => (ExtTreeMap.mem_erase.mp member).1 ReflCmp.compare_self

theorem getElem?_of_erase {t : ExtTreeMap κ ν cmp} {k a : κ} {v : ν}
    (found : (t.erase k)[a]? = some v) : t[a]? = some v := by
  rw [ExtTreeMap.getElem?_erase] at found
  split at found
  · cases found
  · exact found

theorem erase_of_absent [LawfulEqCmp cmp] {t : ExtTreeMap κ ν cmp} {k : κ}
    (absent : t[k]? = none) : t.erase k = t := by
  ext a v
  rw [ExtTreeMap.getElem?_erase]
  split
  · rename_i same
    rw [← LawfulEqCmp.eq_of_compare same, absent]
  · rfl

theorem pairwise_values [LawfulEqCmp cmp] {key : ν → κ} {t : ExtTreeMap κ ν cmp}
    (keyed : ∀ (k : κ) (v : ν), t[k]? = some v → key v = k) :
    t.values.Pairwise fun v w => cmp (key v) (key w) = .lt := by
  rw [values_eq_map_toList, List.pairwise_map]
  refine ExtTreeMap.ordered_keys_toList.imp_of_mem fun {e f} he hf before => ?_
  rw [keyed e.1 e.2 (ExtTreeMap.mem_toList_iff_getElem?_eq_some.mp he),
    keyed f.1 f.2 (ExtTreeMap.mem_toList_iff_getElem?_eq_some.mp hf)]
  exact before

/-- The values are known by their order and by what the table holds. -/
theorem values_eq_of_sorted [LawfulEqCmp cmp] (key : ν → κ) {t : ExtTreeMap κ ν cmp}
    (keyed : ∀ (k : κ) (v : ν), t[k]? = some v → key v = k) {vs : List ν}
    (sorted : vs.Pairwise fun v w => cmp (key v) (key w) = .lt)
    (held : ∀ v, v ∈ vs ↔ ∃ k : κ, t[k]? = some v) : t.values = vs := by
  have distinct {us : List ν} (sorted : us.Pairwise fun v w => cmp (key v) (key w) = .lt) :
      us.Nodup := by
    refine sorted.imp fun {v w} before same => ?_
    have reflexive : cmp (key w) (key w) = .eq := ReflCmp.compare_self
    rw [same, reflexive] at before
    cases before
  refine List.Perm.eq_of_pairwise (fun v w _ _ before after => ?_) (pairwise_values keyed) sorted
    ((List.perm_ext_iff_of_nodup (distinct (pairwise_values keyed)) (distinct sorted)).mpr fun v =>
      (mem_values t).trans (held v).symm)
  have swapped := OrientedCmp.gt_of_lt before
  rw [after] at swapped
  cases swapped

theorem values_insert_last [LawfulEqCmp cmp] {key : ν → κ} {t : ExtTreeMap κ ν cmp}
    (keyed : ∀ (k : κ) (v : ν), t[k]? = some v → key v = k) (v : ν)
    (last : ∀ (k : κ) (w : ν), t[k]? = some w → cmp k (key v) = .lt) :
    (t.insert (key v) v).values = t.values ++ [v] := by
  have absent : t[key v]? = none := by
    cases found : t[key v]? with
    | none => rfl
    | some w =>
      have before := last _ w found
      have reflexive : cmp (key v) (key v) = .eq := ReflCmp.compare_self
      rw [reflexive] at before
      cases before
  apply values_eq_of_sorted key
  · intro k w found
    rw [ExtTreeMap.getElem?_insert] at found
    split at found
    · rename_i same
      cases found
      exact LawfulEqCmp.eq_of_compare same
    · exact keyed k w found
  · rw [List.pairwise_append]
    refine ⟨pairwise_values keyed, List.pairwise_singleton _ _, fun w member u only => ?_⟩
    obtain ⟨k, found⟩ := (mem_values t).mp member
    rw [List.mem_singleton.mp only, keyed k w found]
    exact last k w found
  · intro w
    rw [List.mem_append, List.mem_singleton, mem_values]
    constructor
    · rintro (⟨k, found⟩ | rfl)
      · refine ⟨k, ?_⟩
        rw [ExtTreeMap.getElem?_insert, if_neg fun same => ?_]
        · exact found
        · rw [← LawfulEqCmp.eq_of_compare same, absent] at found
          cases found
      · exact ⟨key w, ExtTreeMap.getElem?_insert_self⟩
    · rintro ⟨k, found⟩
      rw [ExtTreeMap.getElem?_insert] at found
      split at found
      · cases found
        exact .inr rfl
      · exact .inl ⟨k, found⟩

theorem values_erase [LawfulEqCmp cmp] {key : ν → κ} {t : ExtTreeMap κ ν cmp}
    (keyed : ∀ (k : κ) (v : ν), t[k]? = some v → key v = k) {k : κ} {other : ν → Bool}
    (others : ∀ v, other v = true ↔ key v ≠ k) : (t.erase k).values = t.values.filter other := by
  apply values_eq_of_sorted key
  · exact fun a v found => keyed a v (getElem?_of_erase found)
  · exact (pairwise_values keyed).filter other
  · intro v
    rw [List.mem_filter, mem_values, others v]
    constructor
    · rintro ⟨⟨a, found⟩, away⟩
      refine ⟨a, ?_⟩
      rw [ExtTreeMap.getElem?_erase, if_neg fun same => away ?_]
      · exact found
      · rw [keyed a v found, LawfulEqCmp.eq_of_compare same]
    · rintro ⟨a, found⟩
      have before := getElem?_of_erase found
      refine ⟨⟨a, before⟩, fun same => ?_⟩
      rw [← same, keyed a v before, ExtTreeMap.getElem?_erase_self] at found
      cases found

end EdgeControl.Table
