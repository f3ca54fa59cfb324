import EdgeControl.Balancer.Backend
import EdgeControl.Flood.Policy
import EdgeControl.Flow.Entry
import EdgeControl.Proofs.Address.ReadBack

/-!
Values read back from their JSON form. A record is an object with every member under its own name,
so it is read back if its members are.
-/
namespace EdgeControl

/-- What is written is read back. -/
class LawfulJsonForm (α : Type) [JsonForm α] : Prop where
  ofJson?_toJson : ∀ a : α, ofJson? (toJson a) = some a

export LawfulJsonForm (ofJson?_toJson)

attribute [simp] LawfulJsonForm.ofJson?_toJson

/-! ### Numbers, texts and lists -/

@[simp] theorem lookup_cons_of_ne {α : Type} {name other : String} {a : α}
    {rest : List (String × α)} (ne : name ≠ other) :
    ((other, a) :: rest).lookup name = rest.lookup name := by
  have skip : (name == other) = false := beq_false_of_ne ne
  simp only [List.lookup_cons, skip]

namespace Json

theorem natBelow?_int {bound n : Nat} (below : n < bound) :
    natBelow? bound (.int (n : Int)) = some n :=
  if_pos below

@[simp] theorem members?_obj {names : List String} {members : List (String × Json)} :
    members? names (.obj members) = some fun name => members.lookup name := rfl

attribute [simp] Members.get? Members.getD?

end Json

instance : LawfulJsonForm Bool := ⟨fun _ => rfl⟩

instance : LawfulJsonForm String := ⟨fun _ => rfl⟩

instance : LawfulJsonForm UInt16 where
  ofJson?_toJson n := by
    change (Json.natBelow? _ (.int (n.toNat : Int))).map _ = _
    rw [Json.natBelow?_int n.toNat_lt, Option.map_some, UInt16.ofNat_toNat]

instance : LawfulJsonForm UInt32 where
  ofJson?_toJson n := by
    change (Json.natBelow? _ (.int (n.toNat : Int))).map _ = _
    rw [Json.natBelow?_int n.toNat_lt, Option.map_some, UInt32.ofNat_toNat]

instance : LawfulJsonForm UInt64 where
  ofJson?_toJson n := by
    change (Json.natBelow? _ (.int (n.toNat : Int))).map _ = _
    rw [Json.natBelow?_int n.toNat_lt, Option.map_some, UInt64.ofNat_toNat]

instance {α : Type} [JsonForm α] [LawfulJsonForm α] : LawfulJsonForm (List α) :=
  ⟨mapM_map_of_inverse ofJson?_toJson⟩

/-! ### Choices -/

instance : LawfulJsonForm Protocol := ⟨fun p => by cases p <;> rfl⟩

instance : LawfulJsonForm TcpFlag := ⟨fun f => by cases f <;> rfl⟩

/-- Null stands for no flag, and no flag is written as null. -/
instance : LawfulJsonForm (Option TcpFlag) where
  ofJson?_toJson flag := by
    cases flag with
    | none => rfl
    | some f => cases f <;> rfl

instance : LawfulJsonForm Flood.Status := ⟨fun s => by cases s <;> rfl⟩

instance : LawfulJsonForm Balancer.Status := ⟨fun s => by cases s <;> rfl⟩

instance : LawfulJsonForm Flow.State := ⟨fun s => by cases s <;> rfl⟩

/-! ### Addresses and times -/

instance : LawfulJsonForm Ipv4 := ⟨Ipv4.ofString?_toString⟩

instance : LawfulJsonForm Mac where
  ofJson?_toJson m := congrArg Except.toOption m.ofString_toString

instance : LawfulJsonForm Network where
  ofJson?_toJson n := congrArg Except.toOption n.ofString_toString

theorem PortRange.ofJson?_toJson_iff (r : PortRange) :
    ofJson? (toJson r) = some r ↔ r.first ≤ r.last := by
  rw [← r.ofString_toString_iff]
  change (ofString (toString r)).toOption = some r ↔ _
  cases ofString (toString r) <;> simp [Except.toOption]

instance : LawfulJsonForm Instant where
  ofJson?_toJson t := by
    obtain ⟨secs, whole⟩ : ∃ secs : UInt64, secs.toNat = t.nanos / nanosPerSecond := by
      have inRange := t.inRange
      refine ⟨.ofNat _, UInt64.toNat_ofNat_of_lt' ?_⟩
      simp only [nanosPerSecond, UInt64.size] at *
      omega
    obtain ⟨nanos, rest⟩ : ∃ nanos : UInt32, nanos.toNat = t.nanos % nanosPerSecond := by
      refine ⟨.ofNat _, UInt32.toNat_ofNat_of_lt' ?_⟩
      simp only [nanosPerSecond, UInt32.size]
      omega
    have written : toJson t =
        .obj [("secs_since_epoch", toJson secs), ("nanos_since_epoch", toJson nanos)] := by
      simp only [toJson, whole, rest]
    have sum : secs.toNat * nanosPerSecond + nanos.toNat = t.nanos := by
      rw [whole, rest, Nat.div_add_mod']
    have inRange : secs.toNat * nanosPerSecond + nanos.toNat <
        0x8000000000000000 * nanosPerSecond := sum ▸ t.inRange
    have same : (⟨_, inRange⟩ : Instant) = t := by
      cases t
      simpa using sum
    rw [written]
    refine (if_neg (by simp [Instant.memberNames])).trans ?_
    -- The two members are found one after the other; simp would have the bound unfolded.
    refine Option.bind_eq_some_iff.2 ⟨_, Json.members?_obj, ?_⟩
    refine Option.bind_eq_some_iff.2 ⟨secs, by simp, ?_⟩
    refine Option.bind_eq_some_iff.2 ⟨nanos, by simp, ?_⟩
    exact (dif_pos inRange).trans (congrArg some same)

instance : LawfulJsonForm (Std.ExtTreeSet Ipv4) where
  ofJson?_toJson s := by
    have same : Std.ExtTreeSet.ofList s.toList compare = s := by
      ext a
      rw [Std.ExtTreeSet.mem_ofList, List.contains_iff_mem, Std.ExtTreeSet.mem_toList]
    change (ofJson? (toJson s.toList)).map _ = some s
    rw [ofJson?_toJson, Option.map_some, same]

/-! ### Records -/

instance : LawfulJsonForm Balancer.Spec where
  ofJson?_toJson s := by
    change (Json.members? _ (.obj _)).bind _ = some s
    simp

instance : LawfulJsonForm Balancer.Backend where
  ofJson?_toJson s := by
    change (Json.members? _ (.obj _)).bind _ = some s
    simp

instance : LawfulJsonForm Balancer.Frontend where
  ofJson?_toJson s := by
    change (Json.members? _ (.obj _)).bind _ = some s
    simp

instance : LawfulJsonForm Flow.Settings where
  ofJson?_toJson s := by
    change (Json.members? _ (.obj _)).bind _ = some s
    simp

instance : LawfulJsonForm Flow.Entry where
  ofJson?_toJson s := by
    change (Json.members? _ (.obj _)).bind _ = some s
    simp

/-- An empty set of blocked addresses is left out. -/
instance : LawfulJsonForm Flood.Policy where
  ofJson?_toJson p := by
    obtain ⟨id, protocol, flag, limit, status, ruleIds, blocked⟩ := p
    change (Json.members? _ (.obj _)).bind _ = some _
    by_cases empty : blocked = ∅
    · subst empty
      simp
    · simp [empty]

theorem Firewall.Rule.ofJson?_toJson_iff (r : Firewall.Rule) :
    ofJson? (toJson r) = some r ↔
      r.srcPorts.first ≤ r.srcPorts.last ∧ r.dstPorts.first ≤ r.dstPorts.last := by
  obtain ⟨id, network, srcPorts, dstPorts, protocol, dropCount⟩ := r
  simp only [← PortRange.ofJson?_toJson_iff]
  change (Json.members? _ (.obj _)).bind _ = some _ ↔ _
  simp [Option.bind_eq_some_iff]

end EdgeControl
