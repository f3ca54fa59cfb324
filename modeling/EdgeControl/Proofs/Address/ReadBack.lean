import EdgeControl.Address.Mac
import EdgeControl.Firewall.Rule
import EdgeControl.Proofs.Kernel.LongestPrefix
import EdgeControl.Proofs.Text.ReadBack

/-!
The texts of addresses, networks and port ranges read back. Of the port ranges these are the ones
that do not end before they start: the text of any other is refused.
-/
namespace EdgeControl

open EdgeControl.Text

namespace Ipv4

theorem clean_toText {p : Char → Prop} (digits : ∀ d < 10, p (Nat.digitChar d)) (point : p '.')
    (a : Ipv4) : ∀ c ∈ a.toText, p c := by
  intro c member
  simp only [toText, List.mem_append, List.mem_cons, or_assoc] at member
  rcases member with octet | rfl | octet | rfl | octet | rfl | octet
  · exact forall_mem_toDigits digits c octet
  · exact point
  · exact forall_mem_toDigits digits c octet
  · exact point
  · exact forall_mem_toDigits digits c octet
  · exact point
  · exact forall_mem_toDigits digits c octet

theorem ofText?_toText (a : Ipv4) : ofText? a.toText = some a := by
  have clean {n : Nat} : ∀ c ∈ Nat.toDigits 10 n, (c == '.') = false :=
    forall_mem_toDigits (by decide)
  have octet (unit : Nat) : plainDecimal? 255 (Nat.toDigits 10 (digit a.bits.toNat unit)) =
      some (digit a.bits.toNat unit) :=
    plainDecimal?_toDigits (Nat.le_of_lt_succ (digit_lt _ _))
  have byte (unit : Nat) : (UInt8.ofNat (digit a.bits.toNat unit)).toNat = digit a.bits.toNat unit :=
    UInt8.toNat_ofNat_of_lt' (digit_lt _ _)
  have parts : splitWhere (· == '.') a.toText = [0x1000000, 0x10000, 0x100, 1].map fun unit =>
      Nat.toDigits 10 (digit a.bits.toNat unit) := by
    simp only [toText, List.append_assoc, List.cons_append]
    rw [splitWhere_append_cons clean rfl, splitWhere_append_cons clean rfl,
      splitWhere_append_cons clean rfl, splitWhere_of_clean clean]
    rfl
  have whole : ofOctets (UInt8.ofNat (digit a.bits.toNat 0x1000000))
      (UInt8.ofNat (digit a.bits.toNat 0x10000)) (UInt8.ofNat (digit a.bits.toNat 0x100))
      (UInt8.ofNat (digit a.bits.toNat 1)) = a := by
    rw [ofOctets, byte, byte, byte, byte, spell_digits a.bits.toNat_lt, UInt32.ofNat_toNat]
  simp [ofText?, parts, octet, whole]

theorem ofString?_toString (a : Ipv4) : ofString? (toString a) = some a := by
  change ofText? (String.ofList a.toText).toList = some a
  rw [String.toList_ofList, ofText?_toText]

end Ipv4

namespace Mac

theorem group?_hexPair (b : UInt8) : group? (hexPair b) = some b := by
  have bound := b.toNat_lt
  have ascii : ∀ d < 16, (Nat.digitChar d).utf8Size = 1 := by decide
  have size : (String.ofList (hexPair b)).utf8ByteSize = 2 := by
    have parts : String.ofList (hexPair b) = String.singleton (Nat.digitChar (b.toNat / 16)) ++
        String.singleton (Nat.digitChar (b.toNat % 16)) := by
      simp [hexPair]
    rw [parts, String.utf8ByteSize_append, String.utf8ByteSize_singleton,
      String.utf8ByteSize_singleton, ascii _ (by omega), ascii _ (by omega)]
  rw [group?, if_pos size, unsigned?_hexPair, Option.map_some, UInt8.ofNat_toNat]

theorem ofBytes?_bytes (m : Mac) : ofBytes? m.bytes = some m := by
  have six : m.bytes.length = 6 := Vector.length_toList
  have same {n : Mac} (bytes : n.bytes = m.bytes) : n = m :=
    congrArg mk (Vector.toList_inj.mp bytes)
  unfold ofBytes?
  split
  · rename_i bytes
    exact congrArg some (same bytes.symm)
  · rename_i other
    match bytes : m.bytes, six with
    | [a, b, c, d, e, f], _ => exact absurd bytes (other a b c d e f)

theorem ofText?_toText (m : Mac) : ofText? m.toText = some m := by
  have clean : ∀ w ∈ m.bytes.map hexPair, ∀ c ∈ w, (c == ':' || c == '-') = false := by
    have digits : ∀ d < 16, (Nat.digitChar d == ':' || Nat.digitChar d == '-') = false := by decide
    intro w member c inside
    obtain ⟨b, -, rfl⟩ := List.mem_map.mp member
    have bound := b.toNat_lt
    rcases List.mem_cons.mp inside with rfl | last
    · exact digits _ (by omega)
    · cases List.mem_singleton.mp last
      exact digits _ (by omega)
  have six : m.bytes.length = 6 := Vector.length_toList
  have pairs : m.bytes.map hexPair ≠ [] := by
    intro none
    rw [List.map_eq_nil_iff] at none
    rw [none] at six
    cases six
  rw [ofText?, toText, splitWhere_intercalate clean rfl pairs,
    mapM_map_of_inverse group?_hexPair, Option.bind_some, ofBytes?_bytes]

theorem ofString_toString (m : Mac) : ofString (toString m) = .ok m := by
  have read : ofText? (toString m).toList = some m := by
    change ofText? (String.ofList m.toText).toList = some m
    rw [String.toList_ofList, ofText?_toText]
  rw [ofString, read]

end Mac

namespace Network

theorem ofText?_toText (n : Network) : ofText? n.toText = some n := by
  have clean : '/' ∉ n.addr.toText := fun member =>
    n.addr.clean_toText (p := (· ≠ '/')) (by decide) (by decide) '/' member rfl
  have short : n.prefixLen ≤ 255 := Nat.le_trans n.prefixLen_le (by decide)
  have own : ofAddr? n.addr n.prefixLen = some n := ofAddr?_eq_some_iff.mpr ⟨rfl, n.masked⟩
  rw [ofText?, toText, splitOnce_append_cons clean]
  simp [decimal?_toDigits short, Ipv4.ofText?_toText, own]

theorem ofString_toString (n : Network) : ofString (toString n) = .ok n := by
  have read : ofText? (toString n).toList = some n := by
    change ofText? (String.ofList n.toText).toList = some n
    rw [String.toList_ofList, ofText?_toText]
  rw [ofString, read]

end Network

namespace PortRange

theorem port?_toDigits (n : UInt16) : port? (Nat.toDigits 10 n.toNat) = some n := by
  rw [port?, decimal?_toDigits (Nat.le_of_lt_succ n.toNat_lt), Option.map_some,
    UInt16.ofNat_toNat]

theorem lowercase_ne_any (n : Nat) (rest : List Char) :
    lowercase (Nat.toDigits 10 n ++ rest) ≠ ['a', 'n', 'y'] := by
  intro same
  cases digits : Nat.toDigits 10 n with
  | nil => exact Nat.toDigits_ne_nil digits
  | cons c cs =>
    rw [digits] at same
    have first : c.toLower = 'a' := (List.cons.inj same).1
    have other := forall_mem_toDigits (p := (·.toLower ≠ 'a')) (by decide) c
      (digits ▸ List.mem_cons_self)
    exact other first

theorem ofText?_toText (r : PortRange) :
    ofText? r.toText = if r.last < r.first then none else some r := by
  have blank {n : Nat} : ∀ c ∈ Nat.toDigits 10 n, isBlank c = false :=
    forall_mem_toDigits (by decide)
  have dash {n : Nat} : '-' ∉ Nat.toDigits 10 n := fun member =>
    forall_mem_toDigits (p := (· ≠ '-')) (by decide) '-' member rfl
  unfold toText
  split
  · rename_i wildcard
    obtain rfl : r = all := beq_iff_eq.mp wildcard
    rfl
  · split
    · rename_i same
      have other := lowercase_ne_any r.first.toNat []
      rw [List.append_nil] at other
      have read : ofText? (Nat.toDigits 10 r.first.toNat) = some (single r.first) := by
        rw [ofText?, trim_of_clean blank, if_neg other, splitOnce_of_not_mem dash]
        simp only [port?_toDigits, Option.map_some]
      have whole : single r.first = r := by
        cases r
        cases same
        rfl
      rw [read, whole, if_neg (by rw [same]; exact UInt16.lt_irrefl _)]
    · have clean : ∀ c ∈ Nat.toDigits 10 r.first.toNat ++ '-' :: Nat.toDigits 10 r.last.toNat,
          isBlank c = false := by
        intro c member
        rcases List.mem_append.mp member with first | rest
        · exact blank c first
        · rcases List.mem_cons.mp rest with rfl | last
          · decide
          · exact blank c last
      rw [ofText?, trim_of_clean clean, if_neg (lowercase_ne_any _ _), splitOnce_append_cons dash]
      simp [trim_of_clean blank, port?_toDigits]

/-- The text of a range is refused if and only if the range ends before it starts. -/
theorem ofString_toString_iff (r : PortRange) :
    ofString (toString r) = .ok r ↔ r.first ≤ r.last := by
  have read : ofText? (toString r).toList = if r.last < r.first then none else some r := by
    change ofText? (String.ofList r.toText).toList = _
    rw [String.toList_ofList, ofText?_toText]
  rw [ofString, read]
  by_cases backwards : r.last < r.first
  · simp [backwards, UInt16.not_le.mpr backwards]
  · simp [backwards, UInt16.not_lt.mp backwards]

example : ofString (toString (⟨5, 3⟩ : PortRange)) = .error (.invalidPortRange "5-3") := by
  decide +kernel

end PortRange
end EdgeControl
