import EdgeControl.Json
import EdgeControl.Text.Numeral

/-!
Points in time, from the start of 1970 on, to the nanosecond.
-/
namespace EdgeControl

def nanosPerSecond : Nat := 1000000000

/-- A time in milliseconds as people write it: in seconds from one second on, and without zeros at
the end of the fraction. -/
def durationText (ms : Nat) : String :=
  let fraction := (Text.padded 10 3 (ms % 1000)).toList.reverse.dropWhile (· == '0')
  if ms = 0 then "0ns"
  else if ms < 1000 then s!"{ms}ms"
  else if fraction.isEmpty then s!"{ms / 1000}s"
  else s!"{ms / 1000}.{String.ofList fraction.reverse}s"

/-- A point in time, as the nanoseconds since the start of 1970. The seconds fit in 63 bits. -/
structure Instant where
  nanos : Nat
  inRange : nanos < 0x8000000000000000 * nanosPerSecond
  deriving DecidableEq, Repr

namespace Instant

/-- The time that passed from `earlier` to `later`, in nanoseconds. None has passed when the clock
went back. -/
def elapsed (earlier later : Instant) : Nat := later.nanos - earlier.nanos

def ofMillis (ms : UInt64) : Instant where
  nanos := ms.toNat * 1000000
  inRange := by
    have h := ms.toNat_lt
    simp only [nanosPerSecond]
    omega

def memberNames : List String := ["secs_since_epoch", "nanos_since_epoch"]

/-- The seconds and nanoseconds of a point in time. Whole seconds may also be given among the
nanoseconds. Other members are refused. -/
instance : JsonForm Instant where
  toJson t := .obj [
    ("secs_since_epoch", .int ((t.nanos / nanosPerSecond : Nat) : Int)),
    ("nanos_since_epoch", .int ((t.nanos % nanosPerSecond : Nat) : Int))]
  ofJson? j := do
    if let .obj ms := j then
      if !ms.all fun m => memberNames.contains m.1 then none
    let m ← j.members? memberNames
    let secs : UInt64 ← m.get? "secs_since_epoch"
    let nanos : UInt32 ← m.get? "nanos_since_epoch"
    let total := secs.toNat * nanosPerSecond + nanos.toNat
    if h : total < 0x8000000000000000 * nanosPerSecond then some ⟨total, h⟩ else none

end Instant
end EdgeControl
