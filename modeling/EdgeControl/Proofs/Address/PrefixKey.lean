import EdgeControl.Proofs.Kernel.LongestPrefix
import Mathlib.Data.List.OfFn
import Mathlib.Data.Nat.Bitwise

/-!
What the key of a network says to a table that compares keys bit by bit: the first bits of its
address are those that all addresses in the network begin with, and the others are 0.
-/
namespace EdgeControl

namespace Record

/-- The bits of some bytes in memory order, each byte from its most significant bit on. -/
def bits (bytes : Bytes) : List Bool :=
  bytes.flatMap fun b => List.ofFn fun i : Fin 8 => b.toNat.testBit (7 - i)

theorem ofUInt32_eq (w : UInt32) : ofUInt32 w =
    List.ofFn fun i : Fin 4 => UInt8.ofNat (Ipv4.digit w.toNat (256 ^ i.val)) := by
  have low (n : Nat) : UInt8.ofNat n = UInt8.ofNat (n % 256) :=
    UInt8.toNat_inj.mp (by simp)
  simp only [ofUInt32, littleEndian, List.ofFn_succ, List.ofFn_zero, Ipv4.digit, ← low,
    Nat.div_div_eq_div_mul]
  simp

end Record

namespace Ipv4

def wireBits (a : Ipv4) : List Bool := List.ofFn fun i : Fin 32 => a.bits.toNat.testBit (31 - i)

theorem length_wireBits (a : Ipv4) : a.wireBits.length = 32 := List.length_ofFn

theorem getElem?_wireBits {a : Ipv4} {i : Nat} (inside : i < 32) :
    a.wireBits[i]? = some (a.bits.toNat.testBit (31 - i)) := by
  rw [wireBits, List.getElem?_ofFn, dif_pos inside]

/-- The word that the data plane keeps has the octets in wire order. -/
theorem digit_word (a : Ipv4) (i : Fin 4) :
    digit a.word.toNat (256 ^ i.val) = digit a.bits.toNat (256 ^ (3 - i.val)) := by
  obtain ⟨fourth, third, second, first⟩ := digits_spell (digit_lt a.bits.toNat 1)
    (digit_lt a.bits.toNat 0x100) (digit_lt a.bits.toNat 0x10000) (digit_lt a.bits.toNat 0x1000000)
  rw [word, toNat_swapBytes]
  rcases i with ⟨_ | _ | _ | _ | _, below⟩
  · exact first
  · exact second
  · exact third
  · exact fourth
  · omega

theorem bits_word (a : Ipv4) : Record.bits (Record.ofUInt32 a.word) = a.wireBits := by
  have octet (i : Fin 4) (j : Fin 8) :
      (UInt8.ofNat (digit a.word.toNat (256 ^ i.val))).toNat.testBit (7 - j) =
        a.bits.toNat.testBit (31 - (i * 8 + j)) := by
    have place : 7 - j.val + 8 * (3 - i.val) = 31 - (i * 8 + j) := by omega
    rw [UInt8.toNat_ofNat_of_lt' (digit_lt _ _), digit_word, digit,
      show (256 : Nat) = 2 ^ 8 from rfl, ← Nat.pow_mul, Nat.testBit_mod_two_pow,
      Nat.testBit_div_two_pow, place, decide_eq_true (by omega), Bool.true_and]
  rw [Record.ofUInt32_eq, wireBits, Record.bits, List.flatMap_def, List.map_ofFn,
    List.ofFn_mul (m := 4) (n := 8)]
  simp only [Function.comp_def, octet]

/-! ### Prefixes -/

theorem testBit_netmask {len : Nat} (short : len ≤ 32) (i : Nat) :
    (netmask len).toNat.testBit i = (decide (32 - len ≤ i) && decide (i < 32)) := by
  unfold netmask
  split
  · subst len
    simp
  · have amount : (UInt32.ofNat (32 - len)).toNat % 32 = 32 - len := by
      rw [UInt32.toNat_ofNat_of_lt' (by simp only [UInt32.size]; omega),
        Nat.mod_eq_of_lt (by omega)]
    rw [UInt32.toNat_shiftLeft, amount, Nat.testBit_mod_two_pow, Nat.testBit_shiftLeft,
      show (0xFFFFFFFF : UInt32).toNat = 2 ^ 32 - 1 from rfl, Nat.testBit_two_pow_sub_one]
    by_cases inside : i < 32
    · simp [inside]
      omega
    · simp [inside]

theorem testBit_of_le {a : Ipv4} {i : Nat} (beyond : 32 ≤ i) : a.bits.toNat.testBit i = false :=
  Nat.testBit_lt_two_pow
    (Nat.lt_of_lt_of_le a.bits.toNat_lt (Nat.pow_le_pow_right (by decide) beyond))

theorem toNat_masked {a : Ipv4} {len : Nat} (short : len ≤ 32) :
    (a.masked len).bits.toNat = a.bits.toNat / 2 ^ (32 - len) * 2 ^ (32 - len) := by
  apply Nat.eq_of_testBit_eq
  intro i
  change (a.bits &&& netmask len).toNat.testBit i = _
  rw [UInt32.toNat_and, Nat.testBit_and, testBit_netmask short, Nat.testBit_mul_two_pow,
    Nat.testBit_div_two_pow]
  by_cases kept : 32 - len ≤ i
  · rw [Nat.sub_add_cancel kept]
    by_cases inside : i < 32
    · simp [kept, inside]
    · simp [testBit_of_le (Nat.le_of_not_lt inside)]
  · simp [kept]

/-- Two addresses begin with the same bits if they are in one block of addresses. -/
theorem take_wireBits_eq_iff {a b : Ipv4} {len : Nat} (short : len ≤ 32) :
    a.wireBits.take len = b.wireBits.take len ↔
      a.bits.toNat / 2 ^ (32 - len) = b.bits.toNat / 2 ^ (32 - len) := by
  constructor
  · intro same
    apply Nat.eq_of_testBit_eq
    intro j
    rw [Nat.testBit_div_two_pow, Nat.testBit_div_two_pow]
    by_cases inside : j + (32 - len) < 32
    · have before : 31 - (j + (32 - len)) < len := by omega
      have place : 31 - (31 - (j + (32 - len))) = j + (32 - len) := by omega
      have bit := congrArg (·[31 - (j + (32 - len))]?) same
      simp only [List.getElem?_take_of_lt before] at bit
      rw [getElem?_wireBits (by omega), getElem?_wireBits (by omega), place] at bit
      exact Option.some.inj bit
    · rw [testBit_of_le (Nat.le_of_not_lt inside), testBit_of_le (Nat.le_of_not_lt inside)]
  · intro same
    apply List.ext_getElem?
    intro i
    by_cases before : i < len
    · have place : 31 - i - (32 - len) + (32 - len) = 31 - i := by omega
      have bit := congrArg (·.testBit (31 - i - (32 - len))) same
      simp only [Nat.testBit_div_two_pow, place] at bit
      rw [List.getElem?_take_of_lt before, List.getElem?_take_of_lt before,
        getElem?_wireBits (by omega), getElem?_wireBits (by omega), bit]
    · rw [List.getElem?_take_eq_none (Nat.le_of_not_lt before),
        List.getElem?_take_eq_none (Nat.le_of_not_lt before)]

theorem drop_wireBits {a : Ipv4} {len : Nat} (short : len ≤ 32) (masked : a.masked len = a) :
    a.wireBits.drop len = List.replicate (32 - len) false := by
  apply List.ext_getElem?
  intro i
  rw [List.getElem?_drop]
  by_cases inside : i < 32 - len
  · have cleared : ¬ 32 - len ≤ 31 - (len + i) := by omega
    rw [getElem?_wireBits (by omega), List.getElem?_replicate_of_lt inside, ← masked,
      toNat_masked short, Nat.testBit_mul_two_pow, decide_eq_false cleared, Bool.false_and]
  · rw [List.getElem?_eq_none (by rw [length_wireBits]; omega),
      List.getElem?_eq_none (by rw [List.length_replicate]; omega)]

end Ipv4

namespace Network

variable {n m : Network} {a : Ipv4}

theorem contains_iff_div : n.contains a = true ↔
    a.bits.toNat / 2 ^ (32 - n.prefixLen) = n.addr.bits.toNat / 2 ^ (32 - n.prefixLen) := by
  have short := n.prefixLen_le
  have unit : 0 < 2 ^ (32 - n.prefixLen) := Nat.two_pow_pos _
  calc n.contains a = true
      ↔ a.masked n.prefixLen = n.addr.masked n.prefixLen := by
        rw [contains, beq_iff_eq, n.masked]
    _ ↔ (a.masked n.prefixLen).bits.toNat = (n.addr.masked n.prefixLen).bits.toNat := by
        rw [UInt32.toNat_inj]
        exact ⟨congrArg _, congrArg Ipv4.mk⟩
    _ ↔ _ := by rw [Ipv4.toNat_masked short, Ipv4.toNat_masked short, Nat.mul_left_inj unit.ne']

theorem addr_eq_mul : n.addr.bits.toNat =
    n.addr.bits.toNat / 2 ^ (32 - n.prefixLen) * 2 ^ (32 - n.prefixLen) := by
  rw [← Ipv4.toNat_masked n.prefixLen_le, n.masked]

/-- A network has as many addresses as its prefix leaves open, from its own on. -/
theorem contains_iff_range : n.contains a = true ↔ n.addr.bits.toNat ≤ a.bits.toNat ∧
    a.bits.toNat < n.addr.bits.toNat + 2 ^ (32 - n.prefixLen) := by
  have unit : 0 < 2 ^ (32 - n.prefixLen) := Nat.two_pow_pos _
  rw [contains_iff_div]
  constructor
  · intro same
    rw [addr_eq_mul, ← same]
    have rest := Nat.mod_lt a.bits.toNat unit
    have whole := Nat.div_add_mod' a.bits.toNat (2 ^ (32 - n.prefixLen))
    omega
  · rintro ⟨from_first, to_last⟩
    rw [addr_eq_mul] at from_first to_last
    exact Nat.div_eq_of_lt_le from_first (by rwa [Nat.succ_mul])

theorem eq_of_addr_of_prefixLen (addr : n.addr = m.addr) (len : n.prefixLen = m.prefixLen) :
    n = m := by
  cases n
  cases m
  cases addr
  cases len
  rfl

theorem toNat_key (n : Network) : n.key.prefixLen.toNat = n.prefixLen :=
  UInt32.toNat_ofNat_of_lt' (Nat.lt_of_le_of_lt n.prefixLen_le (by decide))

theorem key_eq_iff : n.key = m.key ↔ n = m := by
  constructor
  · intro same
    have len : n.prefixLen = m.prefixLen := by rw [← toNat_key n, same, toNat_key]
    have word : n.addr.word = m.addr.word := congrArg Key.address same
    have addr : n.addr = m.addr := by
      rw [← Ipv4.ofWord_word n.addr, word, Ipv4.ofWord_word]
    exact eq_of_addr_of_prefixLen addr len
  · rintro rfl
    rfl

theorem last_le (n : Network) : n.addr.bits.toNat + 2 ^ (32 - n.prefixLen) ≤ 2 ^ 32 := by
  have space : 2 ^ (32 - n.prefixLen) * 2 ^ n.prefixLen = 2 ^ 32 := by
    rw [← Nat.pow_add, Nat.sub_add_cancel n.prefixLen_le]
  have block : n.addr.bits.toNat / 2 ^ (32 - n.prefixLen) < 2 ^ n.prefixLen :=
    Nat.div_lt_of_lt_mul (space.symm ▸ n.addr.bits.toNat_lt)
  have last := Nat.mul_le_mul_left (2 ^ (32 - n.prefixLen)) block
  rw [Nat.mul_succ, Nat.mul_comm, ← addr_eq_mul, space] at last
  exact last

theorem contains_addr (n : Network) : n.contains n.addr = true := (Covers.refl n).2

theorem prefixLen_le_of_contains (addr : n.addr = m.addr)
    (within : ∀ a, n.contains a = true → m.contains a = true) : m.prefixLen ≤ n.prefixLen := by
  by_contra longer
  have wider : 2 ^ (32 - m.prefixLen) < 2 ^ (32 - n.prefixLen) :=
    Nat.pow_lt_pow_right (by decide) (by have := m.prefixLen_le; omega)
  -- The first address past `m` is still in `n`.
  have space := n.last_le
  have unit : 0 < 2 ^ (32 - m.prefixLen) := Nat.two_pow_pos _
  have next : (UInt32.ofNat (n.addr.bits.toNat + 2 ^ (32 - m.prefixLen))).toNat =
      n.addr.bits.toNat + 2 ^ (32 - m.prefixLen) :=
    UInt32.toNat_ofNat_of_lt' (by simp only [UInt32.size]; omega)
  have inside := within ⟨UInt32.ofNat (n.addr.bits.toNat + 2 ^ (32 - m.prefixLen))⟩
  rw [contains_iff_range, contains_iff_range, ← addr, next] at inside
  omega

theorem contains_eq_iff : (∀ a, n.contains a = m.contains a) ↔ n = m := by
  constructor
  · intro same
    have first : m.contains n.addr = true := same n.addr ▸ n.contains_addr
    have first' : n.contains m.addr = true := same m.addr ▸ m.contains_addr
    rw [contains_iff_range] at first first'
    have addr : n.addr = m.addr :=
      congrArg Ipv4.mk (UInt32.toNat_inj.mp (Nat.le_antisymm first'.1 first.1))
    refine eq_of_addr_of_prefixLen addr (Nat.le_antisymm ?_ ?_)
    · exact prefixLen_le_of_contains addr.symm fun a inside => same a ▸ inside
    · exact prefixLen_le_of_contains addr fun a inside => same a ▸ inside
  · rintro rfl a
    rfl

/-! ### Spellings -/

def Names (cs : List Char) (a : Ipv4) (len : Nat) : Prop :=
  match Text.splitOnce '/' cs with
  | none => Ipv4.ofText? cs = some a ∧ len = 32
  | some (addr, digits) => Ipv4.ofText? addr = some a ∧ Text.decimal? 255 digits = some len

theorem ofAddr?_iff_contains {len : Nat} :
    ofAddr? a len = some n ↔ n.prefixLen = len ∧ n.contains a = true := by
  rw [ofAddr?_eq_some_iff, contains, beq_iff_eq]
  constructor
  · rintro ⟨rfl, same⟩
    exact ⟨rfl, same⟩
  · rintro ⟨rfl, same⟩
    exact ⟨rfl, same⟩

theorem host_eq_iff : host a = n ↔ n.prefixLen = 32 ∧ n.contains a = true := by
  have spelled : ofAddr? a 32 = some (host a) :=
    ofAddr?_eq_some_iff.mpr ⟨rfl, a.masked_all⟩
  rw [← ofAddr?_iff_contains, spelled, Option.some.injEq]

theorem ofString_eq_ok_iff {s : String} :
    ofString s = .ok n ↔ ∃ a, Names s.toList a n.prefixLen ∧ n.contains a = true := by
  have read : ofString s = .ok n ↔ ofText? s.toList = some n := by
    unfold ofString
    cases ofText? s.toList <;> simp
  rw [read, ofText?]
  unfold Names
  cases Text.splitOnce '/' s.toList with
  | none => simp only [Option.map_eq_some_iff, host_eq_iff, and_assoc]
  | some parts =>
    simp only [Option.bind_eq_bind, Option.bind_eq_some_iff, ofAddr?_iff_contains]
    constructor
    · rintro ⟨_, len, a, addr, rfl, inside⟩
      exact ⟨a, ⟨addr, len⟩, inside⟩
    · rintro ⟨a, ⟨addr, len⟩, inside⟩
      exact ⟨_, len, a, addr, rfl, inside⟩

/-! ### Keys -/

def Key.addressBits (k : Key) : List Bool := Record.bits (k.bytes.drop 4)

theorem addressBits_key (n : Network) : n.key.addressBits = n.addr.wireBits := by
  have image : n.key.bytes.drop 4 = Record.ofUInt32 n.addr.word :=
    List.drop_left' (Record.length_littleEndian 4 _)
  rw [Key.addressBits, image, Ipv4.bits_word]

/-- What a table that compares keys bit by bit can rely on. -/
structure KeyMeans (n : Network) : Prop where
  length : n.key.prefixLen.toNat = n.prefixLen
  prefixed : ∀ a, n.key.addressBits.take n.prefixLen = (host a).key.addressBits.take n.prefixLen ↔
    n.contains a = true
  cleared : n.key.addressBits.drop n.prefixLen = List.replicate (32 - n.prefixLen) false
  range : ∀ a, n.contains a = true ↔ n.addr.bits.toNat ≤ a.bits.toNat ∧
    a.bits.toNat < n.addr.bits.toNat + 2 ^ (32 - n.prefixLen)
  unique : ∀ m : Network, n.key = m.key ↔ ∀ a, n.contains a = m.contains a
  built : ∀ a len, ofAddr? a len = some n ↔ n.prefixLen = len ∧ n.contains a = true
  alone : ∀ a, host a = n ↔ n.prefixLen = 32 ∧ n.contains a = true
  spelled : ∀ s, ofString s = .ok n ↔ ∃ a, Names s.toList a n.prefixLen ∧ n.contains a = true

/-- The key of a network stands for its addresses and for no others, however it is spelled. -/
theorem key_means (n : Network) : KeyMeans n := by
  constructor
  · exact n.toNat_key
  · intro a
    have own : (host a).addr = a := rfl
    rw [addressBits_key, addressBits_key, own, Ipv4.take_wireBits_eq_iff n.prefixLen_le,
      contains_iff_div]
    exact eq_comm
  · rw [addressBits_key]
    exact Ipv4.drop_wireBits n.prefixLen_le n.masked
  · exact fun _ => contains_iff_range
  · intro m
    rw [key_eq_iff, contains_eq_iff]
  · exact fun _ _ => ofAddr?_iff_contains
  · exact fun _ => host_eq_iff
  · exact fun _ => ofString_eq_ok_iff

-- 10.1.2.3/12 is 10.0.0.0/12; its octets stand in wire order after the prefix length.
example : (ofAddr? ⟨0x0A010203⟩ 12).map (·.key.bytes) = some [12, 0, 0, 0, 10, 0, 0, 0] := by
  decide

end Network
end EdgeControl
