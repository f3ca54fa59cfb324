import EdgeControl.Proofs.Balancer.Run

/-!
What holds of a balancer after any calls, whatever fails in them: no table says anything of a
backend that is not registered, the rotation ascends and holds available backends only, and the
slots past the rotation are empty.
-/
namespace EdgeControl.Balancer

/-! ### Looking up backends -/

namespace Registry

variable (r : Registry) (b : Backend) (id i : UInt32)

@[simp] theorem get?_insert :
    (r.insert b).get? i = if b.id = i then some b else r.get? i :=
  Table.getElem?_insert

@[simp] theorem get?_erase : (r.erase id).get? i = if id = i then none else r.get? i :=
  Table.getElem?_erase

theorem mem_toList : b ∈ r.toList ↔ ∃ i, r.get? i = some b := Table.mem_values r.backends

end Registry

namespace Snapshot

/-- A registered backend is reached through the device. -/
def Uses (v : Snapshot) (ifindex : UInt32) : Prop :=
  ∃ id b, v.registry.get? id = some b ∧ b.ifindex = ifindex

/-- What no failure can break. -/
structure Sound (v : Snapshot) : Prop where
  ids : ∀ id b, v.registry.get? id = some b → b.id = id ∧ id < v.registry.nextId
  ascending : v.registry.rotation.Pairwise (· < ·)
  rotating : ∀ id ∈ v.registry.rotation,
    ∃ b, v.registry.get? id = some b ∧ b.status = .available
  room : v.registry.rotation.length ≤ rotationSlots
  tail : ∀ j (h : j < 64), v.registry.rotation.length ≤ j → v.slots[j] = emptySlot
  /-- A slot is empty or names a backend that was registered at some time. -/
  slots : ∀ j (h : j < 64), v.slots[j] < v.registry.nextId
  records : ∀ id info, v.backendInfo[id]? = some info →
    ∃ b, v.registry.get? id = some b ∧ info = b.info
  recorded : ∀ id b, v.registry.get? id = some b → b.status = .available →
    v.backendInfo[id]? = some b.info
  pointers : ∀ ifindex id, v.backendIfindex[ifindex]? = some id →
    ∃ b, v.registry.get? id = some b ∧ b.ifindex = ifindex
  redirects : ∀ ifindex, ifindex ∈ v.redirect → ifindex = v.frontend.ifindex ∨ v.Uses ifindex
  links : ∀ ifindex link, v.links[ifindex]? = some link → link.ifindex = ifindex ∧ v.Uses ifindex

variable {v w : Snapshot} {b c : Backend} {id i ifindex : UInt32}

/-! ### The registry after a change -/

theorem get?_retire : (v.retire b id).registry.get? i =
    if id = i then some {b with status := .unavailable} else v.registry.get? i :=
  Table.getElem?_insert

theorem get?_remove : (v.remove id).registry.get? i =
    if id = i then none else v.registry.get? i :=
  Registry.get?_erase v.registry id i

theorem known_enrol (fresh : v.registry.get? b.id = none)
    (known : v.registry.get? i = some c) : (v.enrol b).registry.get? i = some c := by
  have other : b.id ≠ i := fun same => by simp [same ▸ fresh] at known
  change (v.registry.insert b).get? i = some c
  rw [Registry.get?_insert, if_neg other, known]

theorem known_retire (other : id ≠ i) (known : v.registry.get? i = some c) :
    (v.retire b id).registry.get? i = some c := by
  rw [get?_retire, if_neg other, known]

theorem get?_retire_self :
    (v.retire b id).registry.get? id = some {b with status := .unavailable} :=
  get?_retire.trans (if_pos rfl)

theorem known_remove (other : id ≠ i) (known : v.registry.get? i = some c) :
    (v.remove id).registry.get? i = some c := by
  rw [get?_remove, if_neg other, known]

theorem get?_remove_self : (v.remove id).registry.get? id = none := get?_remove.trans (if_pos rfl)

theorem uses_enrol (fresh : v.registry.get? b.id = none) (used : v.Uses ifindex) :
    (v.enrol b).Uses ifindex := by
  obtain ⟨i, c, known, on⟩ := used
  exact ⟨i, c, known_enrol fresh known, on⟩

theorem uses_retire (known : v.registry.get? id = some b) (used : v.Uses ifindex) :
    (v.retire b id).Uses ifindex := by
  obtain ⟨i, c, found, on⟩ := used
  by_cases same : id = i
  · rw [← same, known] at found
    cases found
    exact ⟨id, _, get?_retire_self, on⟩
  · exact ⟨i, c, known_retire same found, on⟩

theorem uses_remove (known : v.registry.get? id = some b) (other : ifindex ≠ b.ifindex)
    (used : v.Uses ifindex) : (v.remove id).Uses ifindex := by
  obtain ⟨i, c, found, on⟩ := used
  have away : id ≠ i := fun same => by
    rw [← same, known] at found
    cases found
    exact other on.symm
  exact ⟨i, c, known_remove away found, on⟩

theorem alone_on_device (alone : v.sibling? b = none)
    (known : v.registry.get? i = some c) (other : c.id ≠ b.id) : c.ifindex ≠ b.ifindex := by
  intro same
  have none := List.find?_eq_none.mp alone c ((Registry.mem_toList _ _).mpr ⟨i, known⟩)
  exact none (by simp [other, same])

namespace Sound

theorem nextId_pos (h : v.Sound) : 0 < v.registry.nextId :=
  -- Whatever the first slot holds was given out, so it is below the next id.
  have first := h.slots 0 (by decide)
  UInt32.pos_iff_ne_zero.mpr fun zero => by
    rw [zero] at first
    exact absurd first (UInt32.not_lt.mpr (UInt32.zero_le))

/-! ### Backends on a device -/

theorem uses_of_pointed (h : v.Sound) (pointed : ifindex ∈ v.backendIfindex) :
    v.Uses ifindex := by
  have found := Std.ExtTreeMap.getElem?_eq_some_getElem pointed
  obtain ⟨b, known, on⟩ := h.pointers ifindex _ found
  exact ⟨_, b, known, on⟩

theorem sibling_known (h : v.Sound) (shared : v.sibling? b = some c) :
    v.registry.get? c.id = some c ∧ c.id ≠ b.id ∧ c.ifindex = b.ifindex := by
  have found := List.find?_some shared
  obtain ⟨i, known⟩ := (Registry.mem_toList _ _).mp (List.mem_of_find?_eq_some shared)
  rw [Bool.and_eq_true, bne_iff_ne, beq_iff_eq] at found
  exact ⟨(h.ids i c known).1 ▸ known, found.1, found.2⟩

/-! ### Each change keeps a snapshot sound -/

theorem allocate (h : v.Sound) (room : v.registry.nextId.toNat + 1 < UInt32.size) :
    v.allocate.Sound :=
  {h with
    ids := fun i c known =>
      ⟨(h.ids i c known).1, lt_succ_of_le room (UInt32.le_of_lt (h.ids i c known).2)⟩
    slots := fun j below => lt_succ_of_le room (UInt32.le_of_lt (h.slots j below))}

theorem enrol (h : v.Sound) (fresh : v.registry.get? b.id = none)
    (below : b.id < v.registry.nextId) : (v.enrol b).Sound where
  ids i c known := by
    change (v.registry.insert b).get? i = some c at known
    rw [Registry.get?_insert] at known
    split at known
    · rename_i same
      cases known
      exact ⟨same, same ▸ below⟩
    · exact h.ids i c known
  ascending := h.ascending
  rotating i member := by
    obtain ⟨c, known, available⟩ := h.rotating i member
    exact ⟨c, known_enrol fresh known, available⟩
  room := h.room
  tail := h.tail
  slots := h.slots
  records i info found := by
    change (v.backendInfo.insert b.id b.info)[i]? = some info at found
    rw [Table.getElem?_insert] at found
    change ∃ c, (v.registry.insert b).get? i = some c ∧ _
    rw [Registry.get?_insert]
    by_cases same : b.id = i
    · rw [if_pos same] at found
      exact ⟨b, if_pos same, (Option.some.inj found).symm⟩
    · rw [if_neg same] at found
      rw [if_neg same]
      exact h.records i info found
  recorded i c known available := by
    change (v.registry.insert b).get? i = some c at known
    change (v.backendInfo.insert b.id b.info)[i]? = some c.info
    rw [Registry.get?_insert] at known
    rw [Table.getElem?_insert]
    by_cases same : b.id = i
    · rw [if_pos same] at known
      cases known
      exact if_pos same
    · rw [if_neg same] at known
      rw [if_neg same]
      exact h.recorded i c known available
  pointers d i found := by
    obtain ⟨c, known, on⟩ := h.pointers d i found
    exact ⟨c, known_enrol fresh known, on⟩
  redirects d member := (h.redirects d member).imp_right (uses_enrol fresh)
  links d link found := ⟨(h.links d link found).1, uses_enrol fresh (h.links d link found).2⟩

theorem point (h : v.Sound) (known : v.registry.get? id = some b) :
    (v.point b.ifindex id).Sound :=
  {h with
    pointers := fun d i found => by
      change (v.backendIfindex.insert b.ifindex id)[d]? = some i at found
      rw [Table.getElem?_insert] at found
      split at found
      · rename_i same
        cases found
        exact ⟨b, known, same⟩
      · exact h.pointers d i found}

theorem allow (h : v.Sound) (used : ifindex = v.frontend.ifindex ∨ v.Uses ifindex) :
    (v.allow ifindex).Sound :=
  {h with
    redirects := fun d member => by
      rcases Std.ExtTreeSet.mem_insert.mp member with same | before
      · rw [← Std.LawfulEqCmp.eq_of_compare same]
        exact used
      · exact h.redirects d before}

theorem place (h : v.Sound) (known : v.registry.get? id = some b)
    (available : b.status = .available) (above : ∀ i ∈ v.registry.rotation, i < id)
    (room : v.registry.rotation.length < rotationSlots) : (v.place id).Sound :=
  {h with
    ascending := by
      change (v.registry.rotation ++ [id]).Pairwise (· < ·)
      rw [List.pairwise_append]
      exact ⟨h.ascending, List.pairwise_singleton _ _,
        fun i member j last => List.mem_singleton.mp last ▸ above i member⟩
    rotating := fun i member => by
      rcases List.mem_append.mp member with before | last
      · exact h.rotating i before
      · rw [List.mem_singleton.mp last]
        exact ⟨b, known, available⟩
    room := by
      change (v.registry.rotation ++ [id]).length ≤ rotationSlots
      rw [List.length_append]
      exact room
    tail := fun j below past => by
      change (v.registry.rotation ++ [id]).length ≤ j at past
      rw [List.length_append, List.length_singleton] at past
      change (v.slots.setIfInBounds _ id)[j] = emptySlot
      rw [Vector.getElem_setIfInBounds, if_neg (by omega)]
      exact h.tail j below (by omega)
    slots := fun j below => by
      change (v.slots.setIfInBounds _ id)[j] < _
      rw [Vector.getElem_setIfInBounds]
      split
      · exact (h.ids id b known).2
      · exact h.slots j below}

theorem attach (h : v.Sound) (used : v.Uses ifindex) : (v.attach ifindex).Sound :=
  {h with
    links := fun d link found => by
      change (v.links.insert ifindex ⟨ifindex⟩)[d]? = some link at found
      rw [Table.getElem?_insert] at found
      split at found
      · rename_i same
        cases found
        exact ⟨same, same ▸ used⟩
      · exact h.links d link found}

theorem write (h : v.Sound) {w : SlotWrite} (inside : w.slot < v.registry.rotation.length)
    (below : w.backendId < v.registry.nextId) : (v.write w).Sound :=
  {h with
    tail := fun j bound past => by
      change v.registry.rotation.length ≤ j at past
      change (v.slots.setIfInBounds w.slot w.backendId)[j] = emptySlot
      rw [Vector.getElem_setIfInBounds, if_neg (by omega)]
      exact h.tail j bound past
    slots := fun j bound => by
      change (v.slots.setIfInBounds w.slot w.backendId)[j] < _
      rw [Vector.getElem_setIfInBounds]
      split
      · exact below
      · exact h.slots j bound}

theorem retire (h : v.Sound) (known : v.registry.get? id = some b)
    (tail : ∀ j (below : j < 64), (v.registry.rotation.filter (· != id)).length ≤ j →
      v.slots[j] = emptySlot) : (v.retire b id).Sound := by
  constructor
  case ids =>
    intro i c found
    rw [get?_retire] at found
    split at found
    · rename_i same
      cases found
      exact same ▸ h.ids id b known
    · exact h.ids i c found
  case ascending => exact h.ascending.filter _
  case rotating =>
    intro i member
    obtain ⟨before, other⟩ := List.mem_filter.mp member
    obtain ⟨c, found, available⟩ := h.rotating i before
    exact ⟨c, known_retire (bne_iff_ne.mp other).symm found, available⟩
  case room => exact Nat.le_trans (List.length_filter_le _ _) h.room
  case tail => exact tail
  case slots => exact h.slots
  case records =>
    intro i info found
    change (v.backendInfo.insert id _)[i]? = some info at found
    rw [Table.getElem?_insert] at found
    by_cases same : id = i
    · rw [if_pos same] at found
      exact ⟨_, get?_retire.trans (if_pos same), (Option.some.inj found).symm⟩
    · rw [if_neg same] at found
      obtain ⟨c, there, eq⟩ := h.records i info found
      exact ⟨c, known_retire same there, eq⟩
  case recorded =>
    intro i c found available
    rw [get?_retire] at found
    by_cases same : id = i
    · rw [if_pos same] at found
      cases found
      cases available
    · rw [if_neg same] at found
      change (v.backendInfo.insert id _)[i]? = some c.info
      rw [Table.getElem?_insert, if_neg same]
      exact h.recorded i c found available
  case pointers =>
    intro d i found
    obtain ⟨c, there, on⟩ := h.pointers d i found
    by_cases same : id = i
    · rw [← same, known] at there
      cases there
      exact ⟨_, get?_retire.trans (if_pos same), on⟩
    · exact ⟨c, known_retire same there, on⟩
  case redirects => exact fun d member => (h.redirects d member).imp_right (uses_retire known)
  case links => exact fun d link found => ⟨(h.links d link found).1,
    uses_retire known (h.links d link found).2⟩

theorem unlink (h : v.Sound) : (v.unlink ifindex).Sound :=
  {h with links := fun d link found => h.links d link (Table.getElem?_of_erase found)}

theorem forget (h : v.Sound)
    (retired : ∀ b, v.registry.get? id = some b → b.status = .unavailable) :
    (v.forget id).Sound :=
  {h with
    records := fun i info found => h.records i info (Table.getElem?_of_erase found)
    recorded := fun i c known available => by
      have other : id ≠ i := fun same => by
        rw [retired c (same ▸ known)] at available
        cases available
      change (v.backendInfo.erase id)[i]? = some c.info
      rw [Table.getElem?_erase, if_neg other]
      exact h.recorded i c known available}

theorem unpoint (h : v.Sound) : (v.unpoint ifindex).Sound :=
  {h with pointers := fun d i found => h.pointers d i (Table.getElem?_of_erase found)}

theorem revoke (h : v.Sound) : (v.revoke ifindex).Sound :=
  {h with redirects := fun d member => h.redirects d (Std.ExtTreeSet.mem_of_mem_erase member)}

/-- A backend can be taken out once nothing says anything of it, and nothing of its device unless
another backend is left there. -/
theorem remove (h : v.Sound) (known : v.registry.get? id = some b)
    (waiting : id ∉ v.registry.rotation) (hidden : v.backendInfo[id]? = none)
    (unpointed : ∀ d : UInt32, v.backendIfindex[d]? ≠ some id)
    (revoked : b.ifindex ∈ v.redirect → b.ifindex = v.frontend.ifindex ∨
      (v.remove id).Uses b.ifindex)
    (unlinked : ∀ link, v.links[b.ifindex]? = some link → (v.remove id).Uses b.ifindex) :
    (v.remove id).Sound where
  ids i c found := h.ids i c (Table.getElem?_of_erase found)
  ascending := h.ascending
  rotating i member := by
    obtain ⟨c, found, available⟩ := h.rotating i member
    have other : id ≠ i := fun same => waiting (same ▸ member)
    exact ⟨c, known_remove other found, available⟩
  room := h.room
  tail := h.tail
  slots := h.slots
  records i info found := by
    obtain ⟨c, there, eq⟩ := h.records i info found
    have other : id ≠ i := fun same => by
      rw [← same, show (v.remove id).backendInfo[id]? = none from hidden] at found
      cases found
    exact ⟨c, known_remove other there, eq⟩
  recorded i c found := h.recorded i c (Table.getElem?_of_erase found)
  pointers d i found := by
    obtain ⟨c, there, on⟩ := h.pointers d i found
    have other : id ≠ i := fun same => unpointed d (same ▸ found)
    exact ⟨c, known_remove other there, on⟩
  redirects d member := by
    by_cases same : d = b.ifindex
    · exact same ▸ revoked (same ▸ member)
    · exact (h.redirects d member).imp_right (uses_remove known same)
  links d link found := by
    refine ⟨(h.links d link found).1, ?_⟩
    by_cases same : d = b.ifindex
    · exact same ▸ unlinked link (same ▸ found)
    · exact uses_remove known same (h.links d link found).2

end Sound
end Snapshot
end EdgeControl.Balancer
