import EdgeControl.Proofs.Agent.Journal
import EdgeControl.Proofs.Agent.Orders
import EdgeControl.Proofs.Kernel.Tables
import EdgeControl.Proofs.Table

/-!
The links that a host has given to an agent. They are in two places: the balancer has those to the
devices of backends, and the agent the one to the device that faces the clients. Both are empty when
the agent ends, and then the host has everything back.
-/
namespace EdgeControl

open EdgeControl.Action

def oneMore (d : UInt32) (n : UInt32 → Nat) (i : UInt32) : Nat := n i + if d = i then 1 else 0

/-- A host that can be asked how many links to each device it has given out. A link is used up when
it is given back, even if the device could not be detached. -/
class Lender (P : Type) [Attacher P] where
  Lends : P → (UInt32 → Nat) → Prop
  attach {p : P} {n : UInt32 → Nat} (d : UInt32) (lends : Lends p n) :
    (Attacher.attach d).Ensures p fun r q =>
      (∃ e, r = .error e ∧ Lends q n) ∨ (r = .ok ⟨d⟩ ∧ Lends q (oneMore d n))
  detach {p : P} {n : UInt32 → Nat} (link : Link) (lends : Lends p (oneMore link.ifindex n)) :
    (Attacher.detach link).Ensures p fun _ q => Lends q n

namespace Lender

variable {P : Type} [Attacher P] [Lender P]

def Keeps (p q : P) : Prop := ∀ n, Lends p n → Lends q n

instance : Std.Refl (Keeps (P := P)) := ⟨fun _ _ lends => lends⟩

instance : Trans (Keeps (P := P)) Keeps Keeps := ⟨fun first rest n lends => rest n (first n lends)⟩

end Lender

/-! ### Two lenders -/

namespace Journal

variable {P : Type} [Attacher P]

/-- Each link that was given out was given back as often as it should have been. -/
def Lends (j : Journal P) (n : UInt32 → Nat) : Prop :=
  ∀ d, j.attempts.count (.attach d true) =
    j.attempts.count (.detach d true) + j.attempts.count (.detach d false) + n d

instance : Lender (Journal P) where
  Lends := Lends
  attach {j n} d lends := by
    refine .bind (ensures_attempt ?_)
    rintro (e | link) host
    · refine .inl ⟨e, rfl, fun i => ?_⟩
      simp [lends i, Except.isOk, Except.toBool]
    · refine .pure (.inr ⟨rfl, fun i => ?_⟩)
      simp [lends i, oneMore, List.count_singleton, Nat.add_assoc, Except.isOk, Except.toBool]
  detach {j n} link lends := by
    refine ensures_attempt fun answer host i => ?_
    have before := lends i
    unfold oneMore at before
    cases answer.isOk <;> simp [before, List.count_singleton] <;> omega

instance : Hosted (Lender.Keeps (P := Journal P)) := ⟨fun _ _ _ lends => lends⟩

end Journal

namespace Kernel

def Lends (k : Kernel) (n : UInt32 → Nat) : Prop := ∀ d, n d = if d ∈ k.attached then 1 else 0

instance : Lender Kernel where
  Lends := Lends
  attach {k n} d lends := by
    refine .get_bind ?_
    split
    · exact .throw (.inl ⟨_, rfl, lends⟩)
    · rename_i free
      rw [Std.ExtTreeSet.contains_iff_mem] at free
      refine .set_bind (.note_bind (.pure (.inr ⟨rfl, fun i => ?_⟩)))
      rw [oneMore, lends i]
      by_cases same : d = i
      · subst same
        simp [free]
      · simp [same]
  detach {k n} link lends := by
    refine .modify_bind (.note fun i => ?_)
    have before := lends i
    unfold oneMore at before
    by_cases same : link.ifindex = i
    · subst same
      simp at before ⊢
      split at before <;> omega
    · simpa [same] using before

instance : Tabular (Lender.Keeps (P := Kernel)) where
  tables k k' _ attached n lends d := by
    rw [attached]
    exact lends d

end Kernel

/-! ### The links of a balancer -/

namespace Balancer.Service

variable {P : Type} [Attacher P] [Lender P] {others : UInt32 → Nat} {s : Service P}

/-- What others hold, and one link to each device that the balancer has a link to. -/
def withLinks (others : UInt32 → Nat) (links : Std.ExtTreeMap UInt32 Link) (d : UInt32) : Nat :=
  others d + if d ∈ links then 1 else 0

structure Accounted (others : UInt32 → Nat) (s : Service P) : Prop where
  named : ∀ d (link : Link), s.links[d]? = some link → link.ifindex = d
  lends : Lender.Lends s.base (withLinks others s.links)

theorem withLinks_insert {links : Std.ExtTreeMap UInt32 Link} {d : UInt32} (free : d ∉ links) :
    withLinks others (links.insert d ⟨d⟩) = oneMore d (withLinks others links) := by
  funext i
  unfold withLinks oneMore
  by_cases same : d = i
  · subst same
    simp [free]
  · simp [same]

theorem withLinks_erase {links : Std.ExtTreeMap UInt32 Link} {d : UInt32} (known : d ∈ links) :
    oneMore d (withLinks others (links.erase d)) = withLinks others links := by
  funext i
  unfold withLinks oneMore
  by_cases same : d = i
  · subst same
    simp [known]
  · simp [same]

theorem attachDevice_accounted (h : s.Accounted others) (id d : UInt32) :
    (attachDevice id d).Ensures s fun _ t => t.Accounted others := by
  refine .get_bind ?_
  split
  · exact .note h
  · rename_i free
    rw [Std.ExtTreeMap.contains_iff_mem] at free
    refine .bind (.onPart ((Lender.attach d h.lends).mono ?_))
    rintro _ base (⟨e, rfl, lends⟩ | ⟨rfl, lends⟩)
    · exact ⟨h.named, lends⟩
    · refine .modify ⟨fun i link known => ?_, ?_⟩
      · rw [Table.getElem?_insert] at known
        split at known
        · rename_i same
          cases known
          exact same
        · exact h.named i link known
      · rw [← withLinks_insert free] at lends
        exact lends

theorem detachDevice_accounted (h : s.Accounted others) (d : UInt32) :
    (detachDevice d).Ensures s fun _ t => t.Accounted others := by
  refine .get_bind ?_
  split
  · rename_i link known
    have present : d ∈ s.links := by
      simp [Std.ExtTreeMap.mem_iff_isSome_getElem?, known]
    have lends := h.lends
    rw [← withLinks_erase present, ← h.named d link known] at lends
    refine .set_bind (.onPart ((Lender.detach link lends).mono fun _ base lends => ?_))
    refine ⟨fun i other found => h.named i other (Table.getElem?_of_erase found), ?_⟩
    rw [h.named d link known] at lends
    exact lends
  · exact .pure h

/-- A change after which all links are accounted for that were so before, whoever else holds
some. -/
def Accounts (s t : Service P) : Prop := ∀ others, s.Accounted others → t.Accounted others

instance : Std.Refl (Accounts (P := P)) := ⟨fun _ _ h => h⟩

instance : Trans (Accounts (P := P)) Accounts Accounts :=
  ⟨fun first rest others h => rest others (first others h)⟩

theorem covers_accounts : Covers Lender.Keeps (Accounts (P := P)) where
  base _ _ keeps _ h := ⟨h.named, keeps _ h.lends⟩
  registry _ _ _ h := ⟨h.named, h.lends⟩
  attachDevice id d _ log _ h := attachDevice_accounted h id d log
  detachDevice d _ log _ h := detachDevice_accounted h d log

/-! ### Letting go of all links -/

theorem count_values {links : Std.ExtTreeMap UInt32 Link}
    (named : ∀ d (link : Link), links[d]? = some link → link.ifindex = d) (d : UInt32) :
    (links.values.map Link.ifindex).count d = if d ∈ links then 1 else 0 := by
  have keys : links.values.map Link.ifindex = links.keys := by
    rw [Table.values_eq_map_toList, ← Std.ExtTreeMap.map_fst_toList_eq_keys, List.map_map]
    refine List.map_congr_left fun entry present => ?_
    exact named _ _ (Std.ExtTreeMap.mem_toList_iff_getElem?_eq_some.mp present)
  have distinct : links.keys.Nodup := Std.ExtTreeMap.nodup_keys
  rw [keys, distinct.count]
  simp only [Std.ExtTreeMap.mem_keys]

theorem detachLeftovers_lends (links : List Link)
    (lends : Lender.Lends s.base fun d => others d + (links.map Link.ifindex).count d) :
    (links.forM detachLeftover).Ensures s fun r t =>
      r = .ok () ∧ t.links = s.links ∧ Lender.Lends t.base others := by
  induction links generalizing s with
  | nil => exact .pure ⟨rfl, rfl, lends⟩
  | cons link links ih =>
    have first : oneMore link.ifindex (fun d => others d + (links.map Link.ifindex).count d) =
        fun d => others d + ((link :: links).map Link.ifindex).count d := by
      funext d
      rw [List.map_cons, List.count_cons, ← Nat.add_assoc]
      simp [oneMore]
    rw [← first] at lends
    refine .bind (.bind (.result (.onPart ((Lender.detach link lends).mono ?_))))
    rintro (e | _) base lends
    · exact .note (ih lends)
    · exact .note (ih lends)

theorem shutdown_lends [BalancerTables P] [BalancerTables.Within (Lender.Keeps (P := P))]
    (h : s.Accounted others) : shutdown.Ensures s fun r t =>
      r = .ok () ∧ t.links = ∅ ∧ Lender.Lends t.base others := by
  have released (t : Service P) (h : t.Accounted others) : (do
      let left := (← get).links.values
      modify fun s => {s with links := ∅}
      left.forM detachLeftover : Action (Service P) Unit).Ensures t fun r u =>
        r = .ok () ∧ u.links = ∅ ∧ Lender.Lends u.base others := by
    refine .get_bind (.modify_bind (detachLeftovers_lends _ ?_))
    have counted : withLinks others t.links =
        fun d => others d + (t.links.values.map Link.ifindex).count d := by
      funext d
      rw [count_values h.named, withLinks]
    exact counted ▸ h.lends
  refine .bind (.result ((covers_accounts.deleteAll s).mono fun r t accounts => ?_))
  cases r with
  | ok _ => exact released t (accounts others h)
  | error e => exact .note_bind (released t (accounts others h))

end Balancer.Service
end EdgeControl
