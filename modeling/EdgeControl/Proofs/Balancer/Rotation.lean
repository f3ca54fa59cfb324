import EdgeControl.Proofs.Balancer.Transition

/-!
What the slot writes of a drain come to: the slots before the backend stay as they are, whatever
stands in them, and from there on the slots hold the rotation without the backend.
-/
namespace EdgeControl.Balancer

theorem filter_ne_eq_eraseIdx {ids : List UInt32} (distinct : ids.Nodup) (id : UInt32) :
    ids.filter (· != id) = ids.eraseIdx (ids.idxOf id) := by
  rw [← distinct.erase_eq_filter, List.erase_eq_eraseIdx_of_idxOf rfl]

namespace Registry

theorem mem_removalWrites {ids : List UInt32} {i : Nat} {w : SlotWrite} (inside : i < ids.length)
    (member : w ∈ removalWrites ids i) :
    w.slot < ids.length ∧ (w.backendId ∈ ids ∨ w.backendId = emptySlot) := by
  rcases List.mem_append.mp member with moved | emptied
  · obtain ⟨k, bound, rfl⟩ := List.mem_mapIdx.mp moved
    rw [List.length_drop] at bound
    exact ⟨by simp only; omega, .inl (List.mem_of_mem_drop (List.getElem_mem _))⟩
  · cases List.mem_singleton.mp emptied
    exact ⟨by simp only; omega, .inr rfl⟩

variable {r : Registry} {id : UInt32} {ws : List SlotWrite}

theorem drainWrites_ok (h : r.drainWrites id = .ok ws) :
    (id ∉ r.rotation ∧ ws = []) ∨
      (id ∈ r.rotation ∧ ws = removalWrites r.rotation (r.rotation.idxOf id)) := by
  unfold drainWrites at h
  split at h
  · rw [List.findIdx?_eq_guard_findIdx_lt] at h
    by_cases member : id ∈ r.rotation
    · have inside : r.rotation.findIdx (· == id) < r.rotation.length :=
        List.idxOf_lt_length_of_mem member
      simp only [Option.guard, inside, decide_true, if_true] at h
      exact .inr ⟨member, (Except.ok.inj h).symm⟩
    · have outside : ¬ r.rotation.findIdx (· == id) < r.rotation.length := by
        have length : r.rotation.findIdx (· == id) = r.rotation.length :=
          List.idxOf_eq_length member
        omega
      simp only [Option.guard, outside, decide_false, Bool.false_eq_true, if_false] at h
      exact .inl ⟨member, (Except.ok.inj h).symm⟩
  · cases h

end Registry

namespace Snapshot

variable (v : Snapshot)

theorem writeAll_append (ws us : List SlotWrite) :
    v.writeAll (ws ++ us) = (v.writeAll ws).writeAll us :=
  List.foldl_append

theorem slots_writeAll_mapIdx (ids : List UInt32) (i j : Nat) (below : j < 64) :
    (v.writeAll (ids.mapIdx fun k id => ⟨i + k, id⟩)).slots[j] =
      if j < i then v.slots[j] else ids[j - i]?.getD v.slots[j] := by
  -- One more write moves both the snapshot and the first slot of the writes that follow.
  induction ids generalizing v i with
  | nil => simp [writeAll]
  | cons id ids ih =>
    have shift : (fun k id => (⟨i + (k + 1), id⟩ : SlotWrite)) = fun k id => ⟨i + 1 + k, id⟩ := by
      funext k id
      rw [Nat.add_right_comm, ← Nat.add_assoc]
    rw [List.mapIdx_cons, shift]
    change ((v.write ⟨i + 0, id⟩).writeAll _).slots[j] = _
    rw [ih]
    change (if j < i + 1 then (v.slots.setIfInBounds i id)[j]
      else ids[j - (i + 1)]?.getD (v.slots.setIfInBounds i id)[j]) = _
    rw [Vector.getElem_setIfInBounds]
    rcases Nat.lt_trichotomy j i with before | rfl | after
    · rw [if_pos (show j < i + 1 by omega), if_pos before, if_neg (by omega)]
    · rw [if_pos (Nat.lt_succ_self j), if_pos rfl, if_neg (Nat.lt_irrefl j), Nat.sub_self]
      rfl
    · rw [if_neg (show ¬ j < i + 1 by omega), if_neg (by omega), if_neg (by omega),
        show j - i = j - (i + 1) + 1 by omega, List.getElem?_cons_succ]

variable {v}

theorem slots_removalWrites {i : Nat} (inside : i < v.registry.rotation.length)
    (tail : ∀ j (h : j < 64), v.registry.rotation.length ≤ j → v.slots[j] = emptySlot)
    (j : Nat) (below : j < 64) :
    (v.writeAll (Registry.removalWrites v.registry.rotation i)).slots[j] =
      if j < i then v.slots[j] else (v.registry.rotation.eraseIdx i)[j]?.getD emptySlot := by
  rw [Registry.removalWrites, writeAll_append]
  change ((v.writeAll _).slots.setIfInBounds (v.registry.rotation.length - 1) emptySlot)[j] = _
  rw [Vector.getElem_setIfInBounds, slots_writeAll_mapIdx, List.getElem?_drop]
  by_cases before : j < i
  · rw [if_neg (by omega), if_pos before, if_pos before]
  · rw [if_neg before, if_neg before, List.getElem?_eraseIdx_of_ge (by omega),
      show i + 1 + (j - i) = j + 1 by omega]
    split
    · rename_i last
      rw [List.getElem?_eq_none (by omega)]
      rfl
    · rename_i other
      by_cases more : j + 1 < v.registry.rotation.length
      · rw [List.getElem?_eq_getElem more]
        rfl
      · rw [List.getElem?_eq_none (by omega)]
        exact tail j below (by omega)

theorem slots_drainWrites {id : UInt32} {ws : List SlotWrite}
    (distinct : v.registry.rotation.Nodup)
    (tail : ∀ j (h : j < 64), v.registry.rotation.length ≤ j → v.slots[j] = emptySlot)
    (writes : v.registry.drainWrites id = .ok ws) (j : Nat) (below : j < 64) :
    (v.writeAll ws).slots[j] =
      if j < v.registry.rotation.idxOf id then v.slots[j]
      else (v.registry.rotation.filter (· != id))[j]?.getD emptySlot := by
  rw [filter_ne_eq_eraseIdx distinct]
  rcases Registry.drainWrites_ok writes with ⟨outside, rfl⟩ | ⟨member, rfl⟩
  · -- The index of an id outside the rotation is its length, so every slot is before it or empty.
    rw [List.idxOf_eq_length outside]
    split
    · rfl
    · rename_i past
      rw [List.getElem?_eraseIdx_of_ge (by omega), List.getElem?_eq_none (by omega)]
      exact tail j below (by omega)
  · exact slots_removalWrites (List.idxOf_lt_length_of_mem member) tail j below

end Snapshot
end EdgeControl.Balancer
