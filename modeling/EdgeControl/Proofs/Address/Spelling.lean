import EdgeControl.Proofs.Address.PrefixKey
import EdgeControl.Proofs.Address.ReadBack
import EdgeControl.Proofs.Text.Spelling

/-!
The texts that are read as addresses, networks and link-layer addresses. An address has one text, a
network has one for each of its addresses and each numeral of its prefix length, and a link-layer
address has all that write its six octets in pairs of digits, and a few more: a pair may also be a
plus sign and one digit.
-/
namespace EdgeControl

open EdgeControl.Text

namespace Ipv4

variable {cs : List Char} {a : Ipv4}

theorem toText_ofOctets (a b c d : UInt8) : (ofOctets a b c d).toText =
    ['.'].intercalate ([a, b, c, d].map fun octet => Nat.toDigits 10 octet.toNat) := by
  have below := a.toNat_lt
  have below' := b.toNat_lt
  have below'' := c.toNat_lt
  have below''' := d.toNat_lt
  obtain ⟨first, second, third, fourth⟩ := digits_spell below below' below'' below'''
  have whole : (ofOctets a b c d).bits.toNat = spell a.toNat b.toNat c.toNat d.toNat := by
    refine UInt32.toNat_ofNat_of_lt' ?_
    simp only [spell, UInt32.size]
    omega
  simp [toText, whole, first, second, third, fourth, List.intercalate]

theorem toText_ne_nil (a : Ipv4) : a.toText ≠ [] := by
  simp [toText]

theorem length_toText_lt (a : Ipv4) : a.toText.length < 17 := by
  have octet (unit : Nat) : (Nat.toDigits 10 (digit a.bits.toNat unit)).length ≤ 3 :=
    (Nat.length_toDigits_le_iff (by decide) (by decide)).mpr
      (Nat.lt_trans (digit_lt _ _) (by decide))
  have first := octet 0x1000000
  have second := octet 0x10000
  have third := octet 0x100
  have fourth := octet 1
  simp only [toText, List.length_append, List.length_cons]
  omega

theorem ofText?_eq_some_iff : ofText? cs = some a ↔ cs = a.toText := by
  constructor
  · intro read
    unfold ofText? at read
    split at read
    · rename_i w x y z parts
      cases read
      obtain ⟨small, texts⟩ := mapM_plainDecimal?_eq_some_iff.mp parts
      have octet (n : Nat) (member : n ∈ [w, x, y, z]) : (UInt8.ofNat n).toNat = n :=
        UInt8.toNat_ofNat_of_lt' (Nat.lt_succ_of_le (small n member))
      rw [(splitWhere_eq_iff.mp texts).eq_intercalate, toText_ofOctets]
      simp [octet]
    · cases read
  · rintro rfl
    exact ofText?_toText a

end Ipv4

namespace Mac

variable {cs g : List Char} {b : UInt8} {m : Mac}

theorem bytes_eq (m : Mac) : ∃ a b c d e f, m.bytes = [a, b, c, d, e, f] := by
  have six : m.bytes.length = 6 := Vector.length_toList
  match bytes : m.bytes, six with
  | [a, b, c, d, e, f], _ => exact ⟨a, b, c, d, e, f, rfl⟩

theorem clean_toText {p : Char → Prop} (digits : ∀ d < 16, p (Nat.digitChar d)) (colon : p ':')
    (m : Mac) : ∀ c ∈ m.toText, p c := by
  have pair (b : UInt8) : p (Nat.digitChar (b.toNat / 16)) ∧ p (Nat.digitChar (b.toNat % 16)) := by
    have bound := b.toNat_lt
    exact ⟨digits _ (by omega), digits _ (by omega)⟩
  obtain ⟨a, b, c, d, e, f, six⟩ := m.bytes_eq
  simp [toText, six, hexPair, List.intercalate, pair, colon]

theorem length_toText (m : Mac) : m.toText.length = 17 := by
  obtain ⟨a, b, c, d, e, f, six⟩ := m.bytes_eq
  simp [toText, six, hexPair, List.intercalate]

/-- Six pairs of hexadecimal digits in either letter case, with a colon or a dash between
neighbours. -/
def Spelled (m : Mac) (cs : List Char) : Prop :=
  ∃ groups, Separated (fun c => c == ':' || c == '-') groups cs ∧
    List.Forall₂ (fun g b => InAnyCase (hexPair b) g) groups m.bytes

/-- A plus sign in place of the zero of an octet below sixteen. -/
def Signed (b : UInt8) (g : List Char) : Prop :=
  ∃ c, g = ['+', c] ∧ InAnyCase (hexPair b) ['0', c]

def SpelledWithSigns (m : Mac) (cs : List Char) : Prop :=
  ∃ groups, Separated (fun c => c == ':' || c == '-') groups cs ∧
    List.Forall₂ (fun g b => InAnyCase (hexPair b) g ∨ Signed b g) groups m.bytes

theorem utf8ByteSize_cons (c : Char) (cs : List Char) : (String.ofList (c :: cs)).utf8ByteSize =
    c.utf8Size + (String.ofList cs).utf8ByteSize := by
  rw [String.ofList_cons, String.utf8ByteSize_append, String.utf8ByteSize_singleton]

theorem utf8Size_of_digit {c : Char} {d : Nat} (digit : digitValue c = some d) :
    c.utf8Size = 1 := by
  have small : c.toNat < 128 := by
    by_contra large
    rw [digitValue_of_large (Nat.le_of_not_lt large)] at digit
    cases digit
  have bound : c.val ≤ 0x7f := UInt32.le_iff_toNat_le.mpr (Nat.le_of_lt_succ small)
  exact if_pos bound

theorem utf8ByteSize_of_digits (digits : ∀ c ∈ cs, ∃ d, digitValue c = some d) :
    (String.ofList cs).utf8ByteSize = cs.length := by
  induction cs with
  | nil => rfl
  | cons c cs ih =>
    obtain ⟨⟨d, digit⟩, rest⟩ := List.forall_mem_cons.mp digits
    rw [utf8ByteSize_cons, utf8Size_of_digit digit, ih rest, Nat.add_comm, List.length_cons]

theorem inAnyCase_hexPair_iff : InAnyCase (hexPair b) g ↔ ∃ c c', g = [c, c'] ∧
    digitValue c = some (b.toNat / 16) ∧ digitValue c' = some (b.toNat % 16) := by
  have bound := b.toNat_lt
  have small : ∀ d < 16, (Nat.digitChar d).toUpper.toLower = Nat.digitChar d := by decide
  have high : b.toNat / 16 < 16 := by omega
  have low : b.toNat % 16 < 16 := by omega
  constructor
  · intro pair
    obtain ⟨c, cs, first, rest, rfl⟩ := List.forall₂_cons_left_iff.mp pair
    obtain ⟨c', _, second, none, rfl⟩ := List.forall₂_cons_left_iff.mp rest
    obtain rfl := List.forall₂_nil_left_iff.mp none
    rw [← toLower_eq_iff (small _ high), ← digitValue_eq_some_iff high] at first
    rw [← toLower_eq_iff (small _ low), ← digitValue_eq_some_iff low] at second
    exact ⟨c, c', rfl, first, second⟩
  · rintro ⟨c, c', rfl, first, second⟩
    rw [digitValue_eq_some_iff high, toLower_eq_iff (small _ high)] at first
    rw [digitValue_eq_some_iff low, toLower_eq_iff (small _ low)] at second
    exact .cons first (.cons second .nil)

theorem signed_iff : Signed b g ↔ ∃ c, g = ['+', c] ∧ b.toNat < 16 ∧
    digitValue c = some b.toNat := by
  have zero : digitValue '0' = some 0 := rfl
  unfold Signed
  simp only [inAnyCase_hexPair_iff]
  constructor
  · rintro ⟨c, rfl, _, _, ⟨⟩, high, low⟩
    rw [zero, Option.some.injEq] at high
    have below : b.toNat < 16 := by omega
    rw [Nat.mod_eq_of_lt below] at low
    exact ⟨c, rfl, below, low⟩
  · rintro ⟨c, rfl, below, digit⟩
    refine ⟨c, rfl, '0', c, rfl, ?_, ?_⟩
    · rw [zero, Nat.div_eq_of_lt below]
    · rwa [Nat.mod_eq_of_lt below]

theorem digits?_single {c : Char} {n : Nat} :
    digits? 16 [c] = some n ↔ n < 16 ∧ digitValue c = some n := by
  rw [← List.nil_append [c], digits?_append_singleton]
  constructor
  · rintro ⟨_, ⟨⟩, d, below, digit, rfl⟩
    rw [Nat.zero_mul, Nat.zero_add]
    exact ⟨below, digit⟩
  · rintro ⟨below, digit⟩
    exact ⟨0, rfl, n, below, digit, by rw [Nat.zero_mul, Nat.zero_add]⟩

theorem digits?_pair {c c' : Char} {n : Nat} : digits? 16 [c, c'] = some n ↔
    ∃ x < 16, ∃ y < 16, digitValue c = some x ∧ digitValue c' = some y ∧ n = x * 16 + y := by
  rw [← List.singleton_append, digits?_append_singleton]
  simp only [digits?_single]
  constructor
  · rintro ⟨x, ⟨high, first⟩, y, low, second, rfl⟩
    exact ⟨x, high, y, low, first, second, rfl⟩
  · rintro ⟨x, high, y, low, first, second, rfl⟩
    exact ⟨x, ⟨high, first⟩, y, low, second, rfl⟩

theorem group?_eq_some_iff_unsigned? : group? g = some b ↔
    (String.ofList g).utf8ByteSize = 2 ∧ unsigned? 16 255 g = some b.toNat := by
  simp only [group?, Option.ite_none_right_eq_some, Option.map_eq_some_iff]
  refine and_congr_right fun _ => ?_
  constructor
  · rintro ⟨n, number, rfl⟩
    have within := (unsigned?_eq_some_iff.mp number).1
    rwa [UInt8.toNat_ofNat_of_lt' (Nat.lt_succ_of_le within)]
  · intro number
    exact ⟨_, number, UInt8.ofNat_toNat⟩

theorem group?_eq_some_iff : group? g = some b ↔ InAnyCase (hexPair b) g ∨ Signed b g := by
  have within : b.toNat ≤ 255 := Nat.le_of_lt_succ b.toNat_lt
  rw [inAnyCase_hexPair_iff, signed_iff, group?_eq_some_iff_unsigned?]
  constructor
  · rintro ⟨two, number⟩
    obtain ⟨-, sign, ds, signed, rfl, -, value⟩ := unsigned?_eq_some_iff.mp number
    have size := utf8ByteSize_of_digits (digits_of_digits? value)
    rcases signed with rfl | rfl
    · rw [List.nil_append, size] at two
      obtain ⟨c, c', rfl⟩ := List.length_eq_two.mp two
      obtain ⟨x, high, y, low, first, second, sum⟩ := digits?_pair.mp value
      have quotient : b.toNat / 16 = x := by omega
      have remainder : b.toNat % 16 = y := by omega
      exact .inl ⟨c, c', rfl, quotient ▸ first, remainder ▸ second⟩
    · rw [List.singleton_append, utf8ByteSize_cons, size] at two
      have one : ds.length = 1 := Nat.add_left_cancel two
      obtain ⟨c, rfl⟩ := List.length_eq_one_iff.mp one
      obtain ⟨below, digit⟩ := digits?_single.mp value
      exact .inr ⟨c, rfl, below, digit⟩
  · rintro (⟨c, c', rfl, first, second⟩ | ⟨c, rfl, below, digit⟩)
    · have value : digits? 16 [c, c'] = some b.toNat :=
        digits?_pair.mpr ⟨_, by omega, _, by omega, first, second, (Nat.div_add_mod' _ _).symm⟩
      exact ⟨utf8ByteSize_of_digits (digits_of_digits? value), unsigned?_eq_some_iff.mpr
        ⟨within, [], _, .inl rfl, rfl, List.cons_ne_nil _ _, value⟩⟩
    · have value : digits? 16 [c] = some b.toNat := digits?_single.mpr ⟨below, digit⟩
      have size := utf8ByteSize_of_digits (digits_of_digits? value)
      refine ⟨by rw [utf8ByteSize_cons, size]; rfl, unsigned?_eq_some_iff.mpr ?_⟩
      exact ⟨within, ['+'], _, .inr rfl, rfl, List.cons_ne_nil _ _, value⟩

theorem ofBytes?_eq_some_iff {bytes : Record.Bytes} :
    ofBytes? bytes = some m ↔ bytes = m.bytes := by
  constructor
  · intro made
    unfold ofBytes? at made
    split at made
    · cases made
      rfl
    · cases made
  · rintro rfl
    exact ofBytes?_bytes m

theorem ofText?_eq_some_iff : ofText? cs = some m ↔ m.SpelledWithSigns cs := by
  simp only [ofText?, Option.bind_eq_some_iff, ofBytes?_eq_some_iff, mapM_eq_some_iff,
    group?_eq_some_iff]
  constructor
  · rintro ⟨_, groups, rfl⟩
    exact ⟨_, separated_splitWhere _ cs, groups⟩
  · rintro ⟨groups, separated, octets⟩
    rw [splitWhere_eq_iff.mpr separated]
    exact ⟨_, octets, rfl⟩

theorem inAnyCase_hexPair_iff_unsigned :
    InAnyCase (hexPair b) g ↔ (∀ c ∈ g, c ≠ '+') ∧ (InAnyCase (hexPair b) g ∨ Signed b g) := by
  have unsigned {c : Char} {d : Nat} (digit : digitValue c = some d) : c ≠ '+' := by
    rintro rfl
    cases digit
  constructor
  · intro pair
    obtain ⟨c, c', rfl, first, second⟩ := inAnyCase_hexPair_iff.mp pair
    refine ⟨?_, .inl pair⟩
    simp [unsigned first, unsigned second]
  · rintro ⟨plain, pair | ⟨c, rfl, -⟩⟩
    · exact pair
    · exact absurd rfl (plain '+' List.mem_cons_self)

theorem spelled_iff : m.Spelled cs ↔ m.SpelledWithSigns cs ∧ '+' ∉ cs := by
  have unmarked : ∀ c : Char, (c == ':' || c == '-') = true → c ≠ '+' := by
    rintro c mark rfl
    cases mark
  have pairs (groups : List (List Char)) :
      List.Forall₂ (fun g b => InAnyCase (hexPair b) g) groups m.bytes ↔
        (∀ g ∈ groups, ∀ c ∈ g, c ≠ '+') ∧
          List.Forall₂ (fun g b => InAnyCase (hexPair b) g ∨ Signed b g) groups m.bytes := by
    rw [← List.forall₂_and_left]
    exact ⟨.imp fun _ _ => inAnyCase_hexPair_iff_unsigned.mp,
      .imp fun _ _ => inAnyCase_hexPair_iff_unsigned.mpr⟩
  rw [← List.forall_mem_ne']
  constructor
  · rintro ⟨groups, separated, octets⟩
    obtain ⟨plain, octets⟩ := (pairs groups).mp octets
    exact ⟨⟨groups, separated, octets⟩, (separated.forall_mem_iff unmarked).mpr plain⟩
  · rintro ⟨⟨groups, separated, octets⟩, plain⟩
    exact ⟨groups, separated,
      (pairs groups).mpr ⟨(separated.forall_mem_iff unmarked).mp plain, octets⟩⟩

/-- A text is read as the address that its six groups spell, where a plus sign may stand for the
zero in front of a digit; the texts without such a sign are those of six pairs of digits. Any other
text is refused, and told in the error. -/
theorem ofString_spelled_iff (s : String) :
    (∀ m, ofString s = .ok m ↔ m.SpelledWithSigns s.toList) ∧
      (∀ m : Mac, m.Spelled s.toList ↔ ofString s = .ok m ∧ '+' ∉ s.toList) ∧
      ∀ e, ofString s = .error e ↔
        e = .invalidMac s ∧ ∀ m : Mac, ¬ m.SpelledWithSigns s.toList := by
  have read (m : Mac) : ofString s = .ok m ↔ m.SpelledWithSigns s.toList := by
    rw [← ofText?_eq_some_iff, ofString]
    cases ofText? s.toList <;> simp
  refine ⟨read, fun m => by rw [spelled_iff, read], fun e => ?_⟩
  simp only [← read]
  unfold ofString
  cases ofText? s.toList with
  | some m => simp
  | none => simp [eq_comm]

/-- A group may be a plus sign and one digit. -/
theorem signed_group_read :
    ¬ ∀ (s : String) (m : Mac), ofString s = .ok m ↔ m.Spelled s.toList := by
  intro exact_
  have read : ofString "+1:42:ac:11:00:02" = .ok ⟨#v[0x01, 0x42, 0xac, 0x11, 0x00, 0x02]⟩ := by
    decide +kernel
  have spelled := (exact_ _ _).mp read
  exact (spelled_iff.mp spelled).2 (by decide)

end Mac

namespace Network

def Spelled (cs : List Char) (a : Ipv4) (len : Nat) : Prop :=
  (cs = a.toText ∧ len = 32) ∨
    len ≤ 32 ∧ ∃ digits, cs = a.toText ++ '/' :: digits ∧ Numeral len digits

theorem names_iff_spelled {cs : List Char} {a : Ipv4} {len : Nat} (short : len ≤ 32) :
    Names cs a len ↔ Spelled cs a len := by
  have clean : '/' ∉ a.toText := fun member =>
    a.clean_toText (p := (· ≠ '/')) (by decide) (by decide) '/' member rfl
  constructor
  · intro names
    unfold Names at names
    split at names
    · exact .inl (names.imp Ipv4.ofText?_eq_some_iff.mp id)
    · rename_i addr digits split
      obtain ⟨-, rfl⟩ := splitOnce_eq_some_iff.mp split
      obtain rfl := Ipv4.ofText?_eq_some_iff.mp names.1
      exact .inr ⟨short, digits, rfl, (decimal?_eq_some_iff.mp names.2).2⟩
  · rintro (⟨rfl, full⟩ | ⟨-, digits, rfl, numeral⟩)
    · rw [Names, splitOnce_of_not_mem clean]
      exact ⟨Ipv4.ofText?_toText a, full⟩
    · rw [Names, splitOnce_append_cons clean]
      exact ⟨Ipv4.ofText?_toText a, decimal?_eq_some_iff.mpr ⟨by omega, numeral⟩⟩

theorem ofString_eq_ok_iff_spelled {s : String} {n : Network} :
    ofString s = .ok n ↔ ∃ a, Spelled s.toList a n.prefixLen ∧ n.contains a = true := by
  simp only [ofString_eq_ok_iff, names_iff_spelled n.prefixLen_le]

end Network
end EdgeControl
