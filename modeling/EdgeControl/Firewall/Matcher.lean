import EdgeControl.Json
import EdgeControl.Record

/-!
The matcher of a network: sixteen slots with the ids of rules on that network, 0 for a free slot.
Adding fills the first free slot; taking an id out packs the others to the front.
-/
namespace EdgeControl.Firewall

structure Matcher where
  slots : Vector UInt16 16
  deriving DecidableEq, Repr

namespace Matcher

def empty : Matcher := ⟨Vector.replicate 16 0⟩

instance : Inhabited Matcher := ⟨empty⟩

def toJson (m : Matcher) : Json := EdgeControl.toJson m.slots.toList

def ids (m : Matcher) : List UInt16 := m.slots.toList.filter (· != 0)

def size (m : Matcher) : Nat := m.ids.length

/-- The matcher that holds the first sixteen of the given ids from its first slot on. -/
def pack (ids : List UInt16) : Matcher := ⟨Vector.ofFn fun i => ids[i.val]?.getD 0⟩

/-- Puts an id into the first free slot. There is no result when no slot is free or the id needs
more than sixteen bits. -/
def insert? (m : Matcher) (id : UInt32) : Option Matcher :=
  if id.toNat < UInt16.size then
    (m.slots.findFinIdx? (· == 0)).map fun i => ⟨m.slots.set i.val id.toUInt16 i.isLt⟩
  else none

def erase (m : Matcher) (id : UInt32) : Matcher := pack (m.ids.filter (·.toUInt32 != id))

def bytes (m : Matcher) : Record.Bytes := m.slots.toList.flatMap Record.ofUInt16

def render (m : Matcher) : String :=
  "[" ++ ", ".intercalate (m.slots.toList.map fun s => toString s.toNat) ++ "]"

end Matcher
end EdgeControl.Firewall
