import EdgeControl.Json
import EdgeControl.Text.Blank
import EdgeControl.Text.Numeral

/-!
IPv4 addresses: their dotted text, their order, their classes, and the word that the data plane
keeps for one.
-/
namespace EdgeControl

/-- An IPv4 address, as the number that its octets spell in wire order. -/
structure Ipv4 where
  bits : UInt32
  deriving DecidableEq, Inhabited, Repr

namespace Ipv4

instance : Ord Ipv4 := ⟨compareOn bits⟩

instance : Std.TransOrd Ipv4 := inferInstanceAs (Std.TransCmp (compareOn bits))

instance : Std.LawfulEqOrd Ipv4 where
  eq_of_compare {a b} h := by
    have same : compare a.bits b.bits = .eq := h
    cases a
    cases b
    exact congrArg mk (Std.LawfulEqOrd.eq_of_compare same)

/-- The number that four octets spell, the first one heaviest. -/
def spell (a b c d : Nat) : Nat := a * 0x1000000 + b * 0x10000 + c * 0x100 + d

def ofOctets (a b c d : UInt8) : Ipv4 := ⟨UInt32.ofNat (spell a.toNat b.toNat c.toNat d.toNat)⟩

/-- The base-256 digit of `n` that stands for multiples of `unit`. -/
def digit (n unit : Nat) : Nat := n / unit % 256

theorem digits_spell {a b c d : Nat} (ha : a < 256) (hb : b < 256) (hc : c < 256)
    (hd : d < 256) :
    digit (spell a b c d) 0x1000000 = a ∧ digit (spell a b c d) 0x10000 = b ∧
      digit (spell a b c d) 0x100 = c ∧ digit (spell a b c d) 1 = d := by
  simp only [digit, spell]
  omega

theorem spell_digits {n : Nat} (h : n < UInt32.size) :
    spell (digit n 0x1000000) (digit n 0x10000) (digit n 0x100) (digit n 1) = n := by
  unfold UInt32.size at h
  simp only [digit, spell]
  omega

theorem digit_lt (n unit : Nat) : digit n unit < 256 := Nat.mod_lt _ (by decide)

/-- The number whose four base-256 digits are those of `n` the other way round. -/
def swapBytes (n : UInt32) : UInt32 :=
  let m := n.toNat
  UInt32.ofNat (spell (digit m 1) (digit m 0x100) (digit m 0x10000) (digit m 0x1000000))

theorem toNat_swapBytes (n : UInt32) : (swapBytes n).toNat =
    spell (digit n.toNat 1) (digit n.toNat 0x100) (digit n.toNat 0x10000)
      (digit n.toNat 0x1000000) := by
  refine UInt32.toNat_ofNat_of_lt' ?_
  simp only [spell, digit, UInt32.size]
  omega

theorem swapBytes_swapBytes (n : UInt32) : swapBytes (swapBytes n) = n := by
  apply UInt32.toNat_inj.1
  obtain ⟨h3, h2, h1, h0⟩ := digits_spell (digit_lt n.toNat 1) (digit_lt n.toNat 0x100)
    (digit_lt n.toNat 0x10000) (digit_lt n.toNat 0x1000000)
  rw [toNat_swapBytes, toNat_swapBytes, h3, h2, h1, h0, spell_digits n.toNat_lt]

/-- The word that the data plane keeps for an address: its octets read least significant first. -/
def word (a : Ipv4) : UInt32 := swapBytes a.bits

def ofWord (w : UInt32) : Ipv4 := ⟨swapBytes w⟩

@[simp] theorem ofWord_word (a : Ipv4) : ofWord a.word = a := by
  simp [ofWord, word, swapBytes_swapBytes]

@[simp] theorem word_ofWord (w : UInt32) : (ofWord w).word = w := by
  simp [ofWord, word, swapBytes_swapBytes]

def isUnspecified (a : Ipv4) : Bool := a.bits == 0

def isBroadcast (a : Ipv4) : Bool := a.bits == 0xFFFFFFFF

/-- The addresses of groups of hosts, 224.0.0.0/4. -/
def isMulticast (a : Ipv4) : Bool := a.bits >>> 28 == 0xE

def isUnicast (a : Ipv4) : Bool := !a.isUnspecified && !a.isBroadcast && !a.isMulticast

def toText (a : Ipv4) : List Char :=
  let part (unit : Nat) := Nat.toDigits 10 (digit a.bits.toNat unit)
  part 0x1000000 ++ '.' :: part 0x10000 ++ '.' :: part 0x100 ++ '.' :: part 1

instance : ToString Ipv4 := ⟨fun a => String.ofList a.toText⟩

/-- Reads exactly four octets without signs, leading zeros or blanks. -/
def ofText? (cs : List Char) : Option Ipv4 :=
  match (Text.splitWhere (· == '.') cs).mapM (Text.plainDecimal? 255) with
  | some [a, b, c, d] =>
    some (ofOctets (UInt8.ofNat a) (UInt8.ofNat b) (UInt8.ofNat c) (UInt8.ofNat d))
  | _ => none

def ofString? (s : String) : Option Ipv4 := ofText? s.toList

def invalidText : String := "invalid IPv4 address syntax"

instance : JsonForm Ipv4 where
  toJson a := .str (toString a)
  ofJson?
    | .str s => ofString? s
    | _ => none

end Ipv4
end EdgeControl
