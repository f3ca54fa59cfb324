/-!
Unsigned numbers in text. A numeral is a run of digits after at most one plus sign; leading
zeros are allowed, and a value above the reader's bound is refused whatever its length.
-/
namespace EdgeControl.Text

/-- The value of a digit in bases up to sixteen, in either letter case. -/
def digitValue (c : Char) : Option Nat :=
  if '0' ≤ c ∧ c ≤ '9' then some (c.toNat - '0'.toNat)
  else if 'a' ≤ c ∧ c ≤ 'f' then some (c.toNat - 'a'.toNat + 10)
  else if 'A' ≤ c ∧ c ≤ 'F' then some (c.toNat - 'A'.toNat + 10)
  else none

def appendDigit (base : Nat) (value : Nat) (c : Char) : Option Nat := do
  let d ← digitValue c
  if d < base then some (value * base + d) else none

def digits? (base : Nat) (cs : List Char) : Option Nat :=
  cs.foldlM (appendDigit base) 0

/-- A number of at most `max`, with an optional plus sign in front of its digits. -/
def unsigned? (base max : Nat) (cs : List Char) : Option Nat := do
  let body := if cs.head? = some '+' then cs.tail else cs
  if body.isEmpty then none
  let n ← digits? base body
  if n ≤ max then some n else none

def decimal? (max : Nat) (cs : List Char) : Option Nat := unsigned? 10 max cs

/-- A number in base ten, written without sign and without leading zeros. -/
def plainDecimal? (max : Nat) (cs : List Char) : Option Nat :=
  match cs with
  | [] => none
  | ['0'] => some 0
  | c :: _ =>
    if c = '0' then none
    else do
      let n ← digits? 10 cs
      if n ≤ max then some n else none

/-- The letters a to z for A to Z; every other character stays. -/
def lowercase (cs : List Char) : List Char := cs.map Char.toLower

def hexPair (b : UInt8) : List Char :=
  [Nat.digitChar (b.toNat / 16), Nat.digitChar (b.toNat % 16)]

def padded (base width n : Nat) : String :=
  let ds := Nat.toDigits base n
  String.ofList (List.replicate (width - ds.length) '0' ++ ds)

end EdgeControl.Text
