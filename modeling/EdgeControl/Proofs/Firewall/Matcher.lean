import EdgeControl.Firewall.Matcher
import EdgeControl.Proofs.Counter

/-!
Packed matchers: ids in the first slots, and 0 in the others. Putting an id in and taking one out
are what they are on lists of ids, as long as there is room.
-/
namespace EdgeControl.Firewall.Matcher

variable {ids : List UInt16} {id : UInt32}

theorem getElem_pack (i : Nat) (h : i < 16) : (pack ids).slots[i] = ids[i]?.getD 0 :=
  Vector.getElem_ofFn h

theorem toList_pack (few : ids.length ≤ 16) :
    (pack ids).slots.toList = ids ++ List.replicate (16 - ids.length) 0 := by
  apply List.ext_getElem
  · simp only [Vector.length_toList, List.length_append, List.length_replicate]
    omega
  · intro i below _
    rw [Vector.length_toList] at below
    rw [Vector.getElem_toList, getElem_pack i below, List.getElem_append]
    split
    · rename_i inside
      rw [List.getElem?_eq_getElem inside, Option.getD_some]
    · rename_i outside
      rw [List.getElem?_eq_none (by omega), List.getElem_replicate, Option.getD_none]

theorem ids_pack (few : ids.length ≤ 16) (taken : 0 ∉ ids) : (pack ids).ids = ids := by
  unfold Matcher.ids
  rw [toList_pack few, List.filter_append]
  have kept : ids.filter (· != 0) = ids :=
    List.filter_eq_self.mpr fun i member => bne_iff_ne.mpr fun zero => taken (zero ▸ member)
  have dropped : (List.replicate (16 - ids.length) (0 : UInt16)).filter (· != 0) = [] :=
    List.filter_eq_nil_iff.mpr fun i member => by simp [List.eq_of_mem_replicate member]
  rw [kept, dropped, List.append_nil]

theorem erase_pack (few : ids.length ≤ 16) (taken : 0 ∉ ids) :
    (pack ids).erase id = pack (ids.filter (·.toUInt32 != id)) := by
  rw [erase, ids_pack few taken]

theorem mem_pack (few : ids.length ≤ 16) {i : UInt16} :
    i ∈ (pack ids).slots ↔ i ∈ ids ∨ (ids.length < 16 ∧ i = 0) := by
  rw [← Vector.mem_toList_iff, toList_pack few, List.mem_append, List.mem_replicate]
  have room : 16 - ids.length ≠ 0 ↔ ids.length < 16 := by omega
  rw [room]

def slot (m : Matcher) (i : Fin 16) : UInt16 := m.slots.get i

theorem slot_eq (m : Matcher) (i : Fin 16) : m.slot i = m.slots[i.val] := rfl

structure FirstFree (m : Matcher) (i : Fin 16) : Prop where
  free : m.slot i = 0
  taken : ∀ j < i, m.slot j ≠ 0

theorem findFinIdx?_eq_some_iff {m : Matcher} {i : Fin 16} :
    m.slots.findFinIdx? (· == 0) = some i ↔ m.FirstFree i := by
  simp only [Vector.findFinIdx?, Option.map_eq_some_iff, Array.findFinIdx?_eq_some_iff,
    beq_iff_eq, Fin.getElem_fin]
  constructor
  · rintro ⟨first, ⟨free, taken⟩, rfl⟩
    refine ⟨free, fun j before => ?_⟩
    exact taken ⟨j, by simp⟩ before
  · rintro ⟨free, taken⟩
    exact ⟨⟨i, by simp⟩, ⟨free, fun j before => taken (j.cast (by simp)) before⟩, rfl⟩

theorem findFinIdx?_eq_none_iff {m : Matcher} :
    m.slots.findFinIdx? (· == 0) = none ↔ 0 ∉ m.slots := by
  simp only [Vector.findFinIdx?_eq_none_iff, beq_iff_eq]
  constructor
  · intro taken free
    exact taken 0 free rfl
  · intro taken i member free
    exact taken (free ▸ member)

theorem findFinIdx?_pack (few : ids.length < 16) (taken : 0 ∉ ids) :
    (pack ids).slots.findFinIdx? (· == 0) = some ⟨ids.length, few⟩ := by
  apply findFinIdx?_eq_some_iff.mpr
  constructor
  · simp [slot_eq, getElem_pack]
  · intro j before free
    have inside : j.val < ids.length := before
    simp only [slot_eq, getElem_pack, inside, List.getElem?_eq_getElem, Option.getD_some] at free
    exact taken (free ▸ List.getElem_mem inside)

theorem insert?_pack (few : ids.length < 16) (taken : 0 ∉ ids) (small : id.toNat < UInt16.size) :
    (pack ids).insert? id = some (pack (ids ++ [id.toUInt16])) := by
  rw [insert?, if_pos small, findFinIdx?_pack few taken, Option.map_some]
  refine congrArg (fun slots => some (Matcher.mk slots)) ?_
  ext i below
  rw [Vector.getElem_set, getElem_pack i below, Vector.getElem_ofFn, List.getElem?_append]
  dsimp only
  rcases Nat.lt_trichotomy i ids.length with before | rfl | after
  · rw [if_neg (by omega), if_pos before]
  · rw [if_pos rfl, if_neg (Nat.lt_irrefl _), Nat.sub_self]
    rfl
  · rw [if_neg (by omega), if_neg (by omega), List.getElem?_eq_none (by omega),
      List.getElem?_eq_none (by simp; omega)]

theorem insert?_pack_full (full : ids.length = 16) (taken : 0 ∉ ids) :
    (pack ids).insert? id = none := by
  have none : (pack ids).slots.findFinIdx? (· == 0) = none := by
    rw [findFinIdx?_eq_none_iff, mem_pack (Nat.le_of_eq full)]
    rintro (there | ⟨room, -⟩)
    · exact taken there
    · omega
  unfold insert?
  split
  · rw [none]
    rfl
  · rfl

/-! ### Any matcher -/

variable {m m' : Matcher} {i : UInt16}

theorem length_ids_le : m.ids.length ≤ 16 := by
  have shorter := List.length_filter_le (· != 0) m.slots.toList
  rw [Vector.length_toList] at shorter
  exact shorter

theorem length_filter_ids_le {p : UInt16 → Bool} : (m.ids.filter p).length ≤ 16 :=
  Nat.le_trans (List.length_filter_le p m.ids) length_ids_le

theorem zero_not_mem_ids : 0 ∉ m.ids := by
  simp [Matcher.ids]

theorem mem_ids : i ∈ m.ids ↔ i ∈ m.slots ∧ i ≠ 0 := by
  simp [ids]

/-- A free slot stands between the ids before it and those after it. An id that is put into it
comes between them, and 0 leaves them as they are. -/
theorem exists_ids_set {slot : Nat} (inside : slot < 16) (blank : m.slots[slot] = 0) :
    ∃ before after, m.ids = before ++ after ∧
      ∀ i, (Matcher.mk (m.slots.set slot i)).ids = before ++ [i].filter (· != 0) ++ after := by
  have within : slot < m.slots.toList.length := by rwa [Vector.length_toList]
  -- With any id in the slot, the ids are those before it, its own unless it is 0, and those after.
  have parts (i : UInt16) : (m.slots.toList.set slot i).filter (· != 0) =
      (m.slots.toList.take slot).filter (· != 0) ++ [i].filter (· != 0) ++
        (m.slots.toList.drop (slot + 1)).filter (· != 0) := by
    rw [List.set_eq_take_append_cons_drop, if_pos within, ← List.singleton_append,
      ← List.append_assoc, List.filter_append, List.filter_append]
  have same : m.slots.toList.set slot 0 = m.slots.toList := by
    have self := List.set_getElem_self within
    rwa [Vector.getElem_toList, blank] at self
  refine ⟨(m.slots.toList.take slot).filter (· != 0),
    (m.slots.toList.drop (slot + 1)).filter (· != 0), ?_, fun i => ?_⟩
  · have without := parts 0
    rwa [same, List.filter_cons_of_neg (by decide), List.filter_nil, List.append_nil] at without
  · rw [ids, Vector.toList_set, parts]

theorem insert?_eq_some_iff_set : m.insert? id = some m' ↔ id.toNat < UInt16.size ∧
    ∃ i, m.FirstFree i ∧ ⟨m.slots.set i.val id.toUInt16 i.isLt⟩ = m' := by
  rw [insert?]
  split
  · rename_i small
    simp only [Option.map_eq_some_iff, findFinIdx?_eq_some_iff, small, true_and]
  · rename_i large
    simp [large]

theorem ids_insert? (inserted : m.insert? id = some m') : ∃ before after,
    m.ids = before ++ after ∧ m'.ids = before ++ [id.toUInt16].filter (· != 0) ++ after := by
  obtain ⟨-, i, first, rfl⟩ := insert?_eq_some_iff_set.mp inserted
  obtain ⟨before, after, own, filled⟩ := exists_ids_set i.isLt first.free
  exact ⟨before, after, own, filled id.toUInt16⟩

theorem mem_ids_insert? (member : i ∈ m.ids) : i ∈ ((m.insert? id).getD m).ids := by
  cases inserted : m.insert? id with
  | none => exact member
  | some m' =>
    obtain ⟨before, after, own, filled⟩ := ids_insert? inserted
    rw [own] at member
    rw [Option.getD_some, filled]
    rcases List.mem_append.mp member with early | late
    · simp [early]
    · simp [late]

theorem insert?_isSome_iff (small : id.toNat < UInt16.size) :
    (m.insert? id).isSome = true ↔ m.ids.length < 16 := by
  have free : (m.slots.findFinIdx? (· == 0)).isSome = true ↔ 0 ∈ m.slots.toList := by
    rw [← Option.ne_none_iff_isSome, ne_eq, findFinIdx?_eq_none_iff, Decidable.not_not,
      Vector.mem_toList_iff]
  have some_zero : (m.slots.toList.filter (· != 0)).length < m.slots.toList.length ↔
      0 ∈ m.slots.toList := by
    rw [List.length_filter_lt_length_iff_exists]
    simp
  rw [Vector.length_toList] at some_zero
  rw [insert?, if_pos small, Option.isSome_map, free, ids, some_zero]

theorem perm_ids_insert? (inserted : m.insert? id = some m') (positive : 0 < id) :
    m'.ids.Perm (id.toUInt16 :: m.ids) := by
  obtain ⟨before, after, own, filled⟩ := ids_insert? inserted
  have taken : id.toUInt16 ≠ 0 := by
    intro zero
    have back := toUInt32_toUInt16 (insert?_eq_some_iff_set.mp inserted).1
    rw [zero] at back
    rw [← back] at positive
    exact absurd positive (by decide)
  have kept : [id.toUInt16].filter (· != 0) = [id.toUInt16] := by simpa using taken
  rw [own, filled, kept, List.append_assoc]
  exact List.perm_middle

theorem ids_erase : (m.erase id).ids = m.ids.filter (·.toUInt32 != id) := by
  have taken : 0 ∉ m.ids.filter (·.toUInt32 != id) :=
    fun member => zero_not_mem_ids (List.mem_filter.mp member).1
  exact ids_pack length_filter_ids_le taken

theorem mem_ids_erase : i ∈ (m.erase id).ids ↔ i ∈ m.ids ∧ i.toUInt32 ≠ id := by
  rw [ids_erase, List.mem_filter, bne_iff_ne]

theorem erase_erase : (m.erase id).erase id = m.erase id := by
  calc (m.erase id).erase id
      = pack ((m.erase id).ids.filter (·.toUInt32 != id)) := rfl
    _ = m.erase id := by
      rw [ids_erase, List.filter_filter]
      simp only [Bool.and_self, erase]

end EdgeControl.Firewall.Matcher
