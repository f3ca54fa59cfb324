import EdgeControl.Address
import EdgeControl.Address.Mac
import EdgeControl.Failure

/-!
The text in which the host lists its neighbors. Below a heading, each line that is not blank has
six columns or more: the address in the first, the link-layer address in the fourth and the device
in the sixth. A table with one bad line is refused as a whole.
-/
namespace EdgeControl.NeighborTable

structure Row where
  addr : Ipv4
  /-- All zeros while the host is looking for the neighbor. -/
  mac : Mac
  device : String
  deriving DecidableEq, Repr

namespace Row

def isResolved (r : Row) : Bool := !r.mac.isZero

def toJson (r : Row) : Json := .obj [
  ("ip", EdgeControl.toJson r.addr),
  ("mac", EdgeControl.toJson r.mac),
  ("device", .str r.device),
  ("resolved", .bool r.isResolved)]

end Row

/-- What is wrong with a line. Lines count from 1. -/
inductive LineError where
  | tooFewColumns (line found : Nat)
  | badAddress (line : Nat) (text : String)
  | badMac (line : Nat) (text : String)
  deriving DecidableEq, Repr

def LineError.failure : LineError → Failure
  | .tooFewColumns line found =>
    {text := s!"arp table line {line}: expected 6 columns, got {found}"}
  | .badAddress line text =>
    ⟨s!"arp table line {line}: invalid address '{text}'", [Ipv4.invalidText]⟩
  | .badMac line text =>
    ⟨s!"arp table line {line}: invalid MAC '{text}'", [(ProtocolError.invalidMac text).message]⟩

instance : Reported LineError where
  kind _ := "ArpTable"
  wording? e := some e.failure.chain

def rowOf (line : Nat) : List (List Char) → Except LineError Row
  | addr :: _ :: _ :: mac :: _ :: device :: _ => do
    let some addr := Ipv4.ofText? addr | throw (.badAddress line (String.ofList addr))
    let some mac := Mac.ofText? mac | throw (.badMac line (String.ofList mac))
    return ⟨addr, mac, String.ofList device⟩
  | columns => .error (.tooFewColumns line columns.length)

/-- The lines below the heading that have columns, each with its number. -/
def body (cs : List Char) : List (Nat × List (List Char)) :=
  let numbered := (Text.lines cs).mapIdx fun i line => (i + 1, Text.words line)
  numbered.tail.filter fun row => !row.2.isEmpty

/-- The rows that a text lists; the first bad line is reported. -/
def ofText (cs : List Char) : Except LineError (List Row) :=
  (body cs).mapM fun (line, columns) => rowOf line columns

def ofString (s : String) : Except LineError (List Row) := ofText s.toList

/-- The neighbor with an address: the first row that has it and is resolved. -/
def find? (rows : List Row) (addr : Ipv4) : Option Row :=
  rows.find? fun r => r.addr == addr && r.isResolved

def column (width : Nat) (cs : List Char) : List Char :=
  cs ++ List.replicate (width - cs.length) ' '

def heading : List Char :=
  "IP address       HW type     Flags       HW address            Mask     Device\n".toList

def Row.toText (r : Row) : List Char :=
  column 17 r.addr.toText ++ "0x1         0x2         ".toList ++ column 22 r.mac.toText ++
    "*        ".toList ++ r.device.toList ++ ['\n']

def toText (rows : List Row) : List Char := heading ++ rows.flatMap Row.toText

end EdgeControl.NeighborTable
