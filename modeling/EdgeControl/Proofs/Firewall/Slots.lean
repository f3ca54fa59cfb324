import EdgeControl.Proofs.Firewall.Matcher

/-!
What becomes of the sixteen slots of a matcher when an id is put in or taken out, whichever of them
are free and whatever stands in several.
-/
namespace EdgeControl.Firewall.Matcher

variable {m m' : Matcher} {id other : UInt32}

def others (m : Matcher) (id : UInt32) : List UInt16 :=
  m.slots.toList.filter fun i => i != 0 && i.toUInt32 != id

theorem others_eq : m.others id = m.ids.filter (·.toUInt32 != id) := by
  simp only [others, ids, List.filter_filter, Bool.and_comm]

theorem toList_erase : (m.erase id).slots.toList =
    m.others id ++ List.replicate (16 - (m.others id).length) 0 := by
  rw [others_eq, erase, toList_pack length_filter_ids_le]

theorem erase_comm : (m.erase id).erase other = (m.erase other).erase id := by
  calc (m.erase id).erase other
      = pack ((m.ids.filter (·.toUInt32 != id)).filter (·.toUInt32 != other)) := by
        rw [erase, ids_erase]
    _ = pack ((m.ids.filter (·.toUInt32 != other)).filter (·.toUInt32 != id)) := by
        simp only [List.filter_filter, Bool.and_comm]
    _ = (m.erase other).erase id := by
        rw [erase, ids_erase]

theorem others_of_absent (absent : ∀ i ∈ m.ids, i.toUInt32 ≠ id) : m.others id = m.ids := by
  rw [others_eq]
  apply List.filter_eq_self.mpr
  simpa using absent

theorem insert?_eq_some_iff : m.insert? id = some m' ↔
    id ≤ 65535 ∧ ∃ i, m.FirstFree i ∧ (m'.slot i).toUInt32 = id ∧
      ∀ j, j ≠ i → m'.slot j = m.slot j := by
  rw [insert?_eq_some_iff_set, le_65535_iff]
  apply and_congr_right
  intro small
  apply exists_congr
  intro i
  apply and_congr_right
  intro first
  have filled : id.toUInt16.toUInt32 = id := toUInt32_toUInt16 small
  constructor
  · rintro rfl
    constructor
    · simp [slot_eq, filled]
    · intro j apart
      have slots : i.val ≠ j.val := fun same => apart (Fin.ext same.symm)
      simp [slot_eq, Vector.getElem_set_ne, slots]
  · rintro ⟨put, kept⟩
    have same : m'.slot i = id.toUInt16 := by
      rw [← UInt16.toUInt32_inj, put, filled]
    -- A matcher is no more than its slots, so these two facts leave no choice.
    obtain ⟨slots⟩ := m'
    refine congrArg Matcher.mk (Vector.ext fun j below => ?_)
    by_cases here : i.val = j
    · subst here
      simpa [slot_eq] using same.symm
    · rw [Vector.getElem_set_ne _ _ here]
      exact (kept ⟨j, below⟩ fun there => here (congrArg Fin.val there).symm).symm

theorem insert?_eq_none_iff : m.insert? id = none ↔ 65535 < id ∨ 0 ∉ m.slots := by
  rw [← UInt32.not_le, le_65535_iff, insert?]
  split
  · rename_i small
    simp only [Option.map_eq_none_iff, findFinIdx?_eq_none_iff, small, not_true, false_or]
  · rename_i large
    simp [large]

theorem erase_insert? (m : Matcher) (id : UInt32) :
    ((m.insert? id).getD m).erase id = m.erase id := by
  cases inserted : m.insert? id with
  | none => rfl
  | some m' =>
    obtain ⟨before, after, own, filled⟩ := ids_insert? inserted
    have back := toUInt32_toUInt16 (insert?_eq_some_iff_set.mp inserted).1
    have gone : ([id.toUInt16].filter (· != 0)).filter (·.toUInt32 != id) = [] := by
      simp [List.filter_filter, back]
    simp only [Option.getD_some, erase, own, filled, List.filter_append, gone, List.append_nil]

/-- What an id that is put in or taken out does to the slots. -/
structure SlotLaws (m : Matcher) : Prop where
  packed : ∀ id, (m.erase id).slots.toList =
    m.others id ++ List.replicate (16 - (m.others id).length) 0
  again : ∀ id, (m.erase id).erase id = m.erase id
  commute : ∀ id other, (m.erase id).erase other = (m.erase other).erase id
  inserted : ∀ id m', m.insert? id = some m' ↔
    id ≤ 65535 ∧ ∃ i, m.FirstFree i ∧ (m'.slot i).toUInt32 = id ∧
      ∀ j, j ≠ i → m'.slot j = m.slot j
  dropped : ∀ id, m.insert? id = none ↔ 65535 < id ∨ 0 ∉ m.slots
  room : ∀ id, id ≤ 65535 → ((m.insert? id).isSome = true ↔ m.size < 16)
  taken_back : ∀ id, ((m.insert? id).getD m).erase id = m.erase id
  only_packed : ∀ id, (∀ i ∈ m.ids, i.toUInt32 ≠ id) →
    (((m.insert? id).getD m).erase id).slots.toList = m.ids ++ List.replicate (16 - m.size) 0

theorem slot_laws (m : Matcher) : SlotLaws m := by
  constructor
  · exact fun _ => toList_erase
  · exact fun _ => erase_erase
  · exact fun _ _ => erase_comm
  · exact fun _ _ => insert?_eq_some_iff
  · exact fun _ => insert?_eq_none_iff
  · exact fun _ small => insert?_isSome_iff (le_65535_iff.mp small)
  · exact m.erase_insert?
  · intro id absent
    rw [erase_insert?, toList_erase, others_of_absent absent, size]

-- An id goes into the gap before others, and taking one out closes the gaps.
example : (Matcher.mk #v[4, 0, 9, 4, 0, 0, 0, 0, 0, 0, 0, 0, 0, 0, 0, 0]).insert? 11 =
    some (Matcher.mk #v[4, 11, 9, 4, 0, 0, 0, 0, 0, 0, 0, 0, 0, 0, 0, 0]) := by
  decide +kernel

example : (Matcher.mk #v[4, 0, 9, 4, 0, 0, 0, 0, 0, 0, 0, 0, 0, 0, 0, 7]).erase 4 =
    Matcher.mk #v[9, 7, 0, 0, 0, 0, 0, 0, 0, 0, 0, 0, 0, 0, 0, 0] := by
  decide

end EdgeControl.Firewall.Matcher
