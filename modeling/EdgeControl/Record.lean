import EdgeControl.Text.Numeral

/-!
The memory images of the records shared with the data plane. Words are stored least significant
byte first.
-/
namespace EdgeControl.Record

abbrev Bytes := List UInt8

def hex (bytes : Bytes) : String := String.ofList (bytes.flatMap Text.hexPair)

/-- The first `width` base-256 digits of a number, least significant first. -/
def littleEndian : Nat → Nat → Bytes
  | 0, _ => []
  | width + 1, n => UInt8.ofNat n :: littleEndian width (n / 256)

def ofUInt16 (n : UInt16) : Bytes := littleEndian 2 n.toNat

def ofUInt32 (n : UInt32) : Bytes := littleEndian 4 n.toNat

def ofUInt64 (n : UInt64) : Bytes := littleEndian 8 n.toNat

theorem length_littleEndian (width n : Nat) : (littleEndian width n).length = width := by
  induction width generalizing n with
  | zero => rfl
  | succ width ih => simp [littleEndian, ih]

end EdgeControl.Record
