import EdgeControl.Address
import EdgeControl.Order
import EdgeControl.Protocol
import EdgeControl.Record

/-!
IPv4 networks. The address of a network has no bit set past its prefix, so two spellings of one
network are one value, with one text and one key in the data plane's tables.
-/
namespace EdgeControl

/-- The word with the first `len` of 32 bits set. -/
def netmask (len : Nat) : UInt32 :=
  if len = 0 then 0 else 0xFFFFFFFF <<< UInt32.ofNat (32 - len)

def Ipv4.masked (a : Ipv4) (len : Nat) : Ipv4 := ⟨a.bits &&& netmask len⟩

theorem Ipv4.masked_masked (a : Ipv4) (len : Nat) : (a.masked len).masked len = a.masked len := by
  simp [Ipv4.masked, UInt32.and_assoc]

theorem Ipv4.masked_all (a : Ipv4) : a.masked 32 = a := by
  have full : netmask 32 = -1 := by decide
  simp [Ipv4.masked, full]

structure Network where
  addr : Ipv4
  prefixLen : Nat
  prefixLen_le : prefixLen ≤ 32
  masked : addr.masked prefixLen = addr
  deriving DecidableEq, Repr

namespace Network

/-- Networks are ordered by prefix length first, then by address. -/
instance : Ord Network := ⟨compareLex (compareOn prefixLen) (compareOn addr)⟩

instance : Std.TransOrd Network :=
  inferInstanceAs (Std.TransCmp (compareLex (compareOn prefixLen) (compareOn addr)))

instance : Std.LawfulEqOrd Network where
  eq_of_compare {a b} h := by
    obtain ⟨hlen, haddr⟩ := compareLex_eq h
    have hlen := compareOn_eq hlen
    have haddr := compareOn_eq haddr
    cases a
    cases b
    simp_all

def ofAddr? (addr : Ipv4) (prefixLen : Nat) : Option Network :=
  if h : prefixLen ≤ 32 then some ⟨addr.masked prefixLen, prefixLen, h, addr.masked_masked _⟩
  else none

def host (addr : Ipv4) : Network := ⟨addr, 32, Nat.le_refl _, addr.masked_all⟩

/-- An address lies in a network when it agrees with it on the prefix. -/
def contains (n : Network) (a : Ipv4) : Bool := a.masked n.prefixLen == n.addr

/-- The networks that hold all of a network, the narrowest first. -/
def supernets (n : Network) : List Network :=
  (List.range (n.prefixLen + 1)).reverse.filterMap (ofAddr? n.addr)

/-- The key of a network in the longest-prefix tables of the data plane. -/
structure Key where
  prefixLen : UInt32
  address : UInt32
  deriving DecidableEq, Repr

def Key.bytes (k : Key) : Record.Bytes :=
  Record.ofUInt32 k.prefixLen ++ Record.ofUInt32 k.address

def Key.toJson (k : Key) : Json := .obj [
  ("prefix_len", EdgeControl.toJson k.prefixLen),
  ("address", EdgeControl.toJson k.address)]

def key (n : Network) : Key := ⟨UInt32.ofNat n.prefixLen, n.addr.word⟩

def toText (n : Network) : List Char := n.addr.toText ++ '/' :: Nat.toDigits 10 n.prefixLen

instance : ToString Network := ⟨fun n => String.ofList n.toText⟩

/-- Reads an address, or an address and a prefix length around the first slash. Bits past the
prefix are cleared. -/
def ofText? (cs : List Char) : Option Network :=
  match Text.splitOnce '/' cs with
  | none => (Ipv4.ofText? cs).map host
  | some (addr, len) => do
    let len ← Text.decimal? 255 len
    let addr ← Ipv4.ofText? addr
    ofAddr? addr len

def ofString (s : String) : Except ProtocolError Network :=
  match ofText? s.toList with
  | some n => .ok n
  | none => .error (.invalidNetwork s)

instance : JsonForm Network where
  toJson n := .str (toString n)
  ofJson?
    | .str s => (ofString s).toOption
    | _ => none

end Network
end EdgeControl
