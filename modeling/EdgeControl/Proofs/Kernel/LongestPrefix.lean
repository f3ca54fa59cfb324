import EdgeControl.Kernel.Table

/-!
What a longest-prefix table finds for a network: the value of the narrowest network in the table
that covers it, which is the network's own value if the table has one.
-/
namespace EdgeControl.Network

variable {α : Type} {wide other n : Network} {f : Network → Option α} {v : α}

/-- Every prefix of `n` of some length is a network that covers it. -/
def Covers (wide n : Network) : Prop :=
  wide.prefixLen ≤ n.prefixLen ∧ wide.contains n.addr = true

theorem Covers.refl (n : Network) : n.Covers n := by
  refine ⟨Nat.le_refl _, ?_⟩
  rw [contains, n.masked]
  exact beq_self_eq_true _

theorem ofAddr?_eq_some_iff {addr : Ipv4} {len : Nat} :
    ofAddr? addr len = some wide ↔ wide.prefixLen = len ∧ addr.masked len = wide.addr := by
  unfold ofAddr?
  constructor
  · intro found
    split at found
    · cases found
      exact ⟨rfl, rfl⟩
    · cases found
  · rintro ⟨rfl, same⟩
    rw [dif_pos wide.prefixLen_le]
    cases wide
    simp only at same
    simp only [same]

theorem mem_supernets : wide ∈ n.supernets ↔ wide.Covers n := by
  simp only [supernets, List.mem_filterMap, List.mem_reverse, List.mem_range, ofAddr?_eq_some_iff,
    Covers, contains, beq_iff_eq]
  constructor
  · rintro ⟨len, below, rfl, same⟩
    exact ⟨Nat.le_of_lt_succ below, same⟩
  · rintro ⟨le, same⟩
    exact ⟨wide.prefixLen, Nat.lt_succ_of_le le, rfl, same⟩

theorem supernets_narrowing (n : Network) :
    n.supernets.Pairwise fun a b => b.prefixLen < a.prefixLen := by
  have lengths : ((List.range (n.prefixLen + 1)).reverse).Pairwise fun a b => b < a :=
    List.pairwise_reverse.mpr List.pairwise_lt_range
  refine List.pairwise_filterMap.mpr (lengths.imp fun {a b} less wide found other found' => ?_)
  rw [(ofAddr?_eq_some_iff.mp found).1, (ofAddr?_eq_some_iff.mp found').1]
  exact less

theorem findSome?_supernets : n.supernets.findSome? f = some v ↔
    ∃ wide, wide.Covers n ∧ f wide = some v ∧
      ∀ other, other.Covers n → (f other).isSome → other.prefixLen ≤ wide.prefixLen := by
  have narrowing := n.supernets_narrowing
  rw [List.findSome?_eq_some_iff]
  constructor
  · rintro ⟨narrower, wide, wider, split, found, none⟩
    rw [split, List.pairwise_append, List.pairwise_cons] at narrowing
    refine ⟨wide, mem_supernets.mp (by simp [split]), found, fun other covers valued => ?_⟩
    have member := mem_supernets.mpr covers
    rw [split, List.mem_append, List.mem_cons] at member
    rcases member with before | rfl | after
    · rw [none other before] at valued
      cases valued
    · exact Nat.le_refl _
    · exact Nat.le_of_lt (narrowing.2.1.1 other after)
  · rintro ⟨wide, covers, found, narrowest⟩
    obtain ⟨narrower, wider, split⟩ := List.append_of_mem (mem_supernets.mpr covers)
    refine ⟨narrower, wide, wider, split, found, fun other before => ?_⟩
    have inside : other ∈ n.supernets := by simp [split, before]
    rw [split, List.pairwise_append] at narrowing
    have longer := narrowing.2.2 other before wide List.mem_cons_self
    cases valued : f other with
    | none => rfl
    | some u =>
      have least := narrowest other (mem_supernets.mp inside) (by rw [valued]; rfl)
      omega

theorem findSome?_supernets_self (own : f n = some v) : n.supernets.findSome? f = some v :=
  findSome?_supernets.mpr ⟨n, .refl n, own, fun _ covers _ => covers.1⟩

end EdgeControl.Network
