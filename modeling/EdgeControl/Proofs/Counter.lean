/-!
Ids of thirty-two bits that are counted up, as long as they do not run out, and their images in
sixteen bits.
-/
namespace EdgeControl

theorem toNat_succ {n : UInt32} (room : n.toNat + 1 < UInt32.size) :
    (n + 1).toNat = n.toNat + 1 := by
  rw [UInt32.toNat_add]
  exact Nat.mod_eq_of_lt room

theorem lt_succ_of_le {m n : UInt32} (room : n.toNat + 1 < UInt32.size) (h : m ≤ n) :
    m < n + 1 := by
  rw [UInt32.le_iff_toNat_le] at h
  rw [UInt32.lt_iff_toNat_lt, toNat_succ room]
  omega

def firstIds (count : Nat) : List UInt32 := (List.range' 1 count).map UInt32.ofNat

theorem length_firstIds (count : Nat) : (firstIds count).length = count := by
  rw [firstIds, List.length_map, List.length_range']

theorem firstIds_succ (count : Nat) :
    firstIds (count + 1) = firstIds count ++ [UInt32.ofNat (count + 1)] := by
  rw [firstIds, List.range'_1_concat, List.map_append, List.map_singleton, Nat.add_comm 1, firstIds]

theorem mem_firstIds {count : Nat} (room : count < UInt32.size) {id : UInt32} :
    id ∈ firstIds count ↔ 1 ≤ id.toNat ∧ id.toNat ≤ count := by
  simp only [firstIds, List.mem_map, List.mem_range'_1]
  constructor
  · rintro ⟨n, within, rfl⟩
    rw [UInt32.toNat_ofNat_of_lt' (by omega)]
    omega
  · intro within
    exact ⟨id.toNat, by omega, UInt32.ofNat_toNat⟩

theorem firstIds_ascending {count : Nat} (room : count < UInt32.size) :
    (firstIds count).Pairwise (· < ·) := by
  refine List.pairwise_map.mpr (List.Pairwise.imp_of_mem ?_ List.pairwise_lt_range')
  intro m n first second less
  rw [List.mem_range'_1] at first second
  rw [UInt32.lt_iff_toNat_lt, UInt32.toNat_ofNat_of_lt' (by omega),
    UInt32.toNat_ofNat_of_lt' (by omega)]
  exact less

theorem le_65535_iff {id : UInt32} : id ≤ 65535 ↔ id.toNat < UInt16.size := by
  rw [UInt32.le_iff_toNat_le]
  exact Nat.lt_succ_iff.symm

theorem toUInt32_toUInt16 {id : UInt32} (small : id.toNat < UInt16.size) :
    id.toUInt16.toUInt32 = id := by
  rw [← UInt32.toNat_inj, UInt16.toNat_toUInt32, UInt32.toNat_toUInt16]
  exact Nat.mod_eq_of_lt small

end EdgeControl
