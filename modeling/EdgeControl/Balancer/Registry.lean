import EdgeControl.Balancer.Backend
import Std.Data.ExtTreeMap

/-!
The registered backends and the rotation: the ids of the backends that still take new
connections, which the data plane keeps slot by slot in its round-robin table. Ids are counted in
thirty-two bits: the rotation ascends as long as the count does not start again.
-/
namespace EdgeControl.Balancer

def rotationSlots : Nat := 64

def emptySlot : UInt32 := 0

structure SlotWrite where
  slot : Nat
  backendId : UInt32
  deriving DecidableEq, Repr

structure Registry where
  backends : Std.ExtTreeMap UInt32 Backend := ∅
  rotation : List UInt32 := []
  nextId : UInt32 := 1

namespace Registry

instance : EmptyCollection Registry := ⟨{}⟩

/-- Takes the next id. After the last one the count starts again at zero, whatever ids are in
use. -/
def allocateId (r : Registry) : UInt32 × Registry := (r.nextId, {r with nextId := r.nextId + 1})

def nextSlot (r : Registry) : Except BalancerError Nat :=
  if rotationSlots ≤ r.rotation.length then .error (.rotationFull rotationSlots)
  else .ok r.rotation.length

def pushRotation (r : Registry) (id : UInt32) : Registry :=
  {r with rotation := r.rotation ++ [id]}

def insert (r : Registry) (b : Backend) : Registry :=
  {r with backends := r.backends.insert b.id b}

def get? (r : Registry) (id : UInt32) : Option Backend := r.backends[id]?

def erase (r : Registry) (id : UInt32) : Registry := {r with backends := r.backends.erase id}

/-- The backends, by ascending id. -/
def toList (r : Registry) : List Backend := r.backends.values

def ids (r : Registry) : List UInt32 := r.backends.keys

/-- The slot writes that take the `i`-th id of a rotation out: each later id moves down by one
slot, and the last slot becomes empty. -/
def removalWrites (rotation : List UInt32) (i : Nat) : List SlotWrite :=
  (rotation.drop (i + 1)).mapIdx (fun k id => ⟨i + k, id⟩) ++ [⟨rotation.length - 1, emptySlot⟩]

/-- The slot writes that take a backend out of the rotation, none when it is not in it. Nothing
changes here, so the same writes come back until `commitDrain` is called. -/
def drainWrites (r : Registry) (id : UInt32) : Except BalancerError (List SlotWrite) :=
  if r.backends.contains id then
    match r.rotation.findIdx? (· == id) with
    | none => .ok []
    | some i => .ok (removalWrites r.rotation i)
  else .error (.backendNotFound id)

def commitDrain (r : Registry) (id : UInt32) : Except BalancerError Registry :=
  match r.get? id with
  | none => .error (.backendNotFound id)
  | some b =>
    .ok {r with
      backends := r.backends.insert id {b with status := .unavailable}
      rotation := r.rotation.filter (· != id)}

end Registry
end EdgeControl.Balancer
