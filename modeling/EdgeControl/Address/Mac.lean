import EdgeControl.Protocol
import EdgeControl.Record
import EdgeControl.Text.Blank

/-!
Link-layer addresses: six octets, read from six groups of two characters with a colon or a dash
between neighbours.
-/
namespace EdgeControl

structure Mac where
  octets : Vector UInt8 6
  deriving DecidableEq, Inhabited, Repr

namespace Mac

def zero : Mac := ⟨Vector.replicate 6 0⟩

def isZero (m : Mac) : Bool := m == zero

def bytes (m : Mac) : Record.Bytes := m.octets.toList

def ofBytes? : Record.Bytes → Option Mac
  | [a, b, c, d, e, f] => some ⟨#v[a, b, c, d, e, f]⟩
  | _ => none

def toText (m : Mac) : List Char :=
  [':'].intercalate (m.bytes.map Text.hexPair)

instance : ToString Mac := ⟨fun m => String.ofList m.toText⟩

/-- One group: a hexadecimal numeral of two bytes of text. The numeral may begin with a plus
sign, which leaves one digit. -/
def group? (cs : List Char) : Option UInt8 :=
  if (String.ofList cs).utf8ByteSize = 2 then (Text.unsigned? 16 255 cs).map UInt8.ofNat else none

def ofText? (cs : List Char) : Option Mac :=
  ((Text.splitWhere (fun c => c == ':' || c == '-') cs).mapM group?).bind ofBytes?

def ofString (s : String) : Except ProtocolError Mac :=
  match ofText? s.toList with
  | some m => .ok m
  | none => .error (.invalidMac s)

instance : JsonForm Mac where
  toJson m := .str (toString m)
  ofJson?
    | .str s => (ofString s).toOption
    | _ => none

end Mac
end EdgeControl
