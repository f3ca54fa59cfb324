import EdgeControl.Text.Numeral
import EdgeControl.Yaml.Cursor

/-!
Tags of a YAML text, and the directives that tell how tags are spelled.
-/
namespace EdgeControl.Yaml

/-- The characters of a tag. Written out in angle brackets it may hold flow punctuation too. -/
def isTagChar (verbatim : Bool) (c : Char) : Bool :=
  isNameChar c || ";/?:@&=+$.%!~*'()".contains c || (verbatim && ",[]".contains c)

/-- The octets that begin with `octet` in a character's encoding: the bits that the first one
carries, and the number of octets that follow. -/
def leadingOctet? (octet : Nat) : Option (Nat × Nat) :=
  if octet < 0x80 then some (octet, 0)
  else if 0xC0 ≤ octet ∧ octet < 0xE0 then some (octet - 0xC0, 1)
  else if 0xE0 ≤ octet ∧ octet < 0xF0 then some (octet - 0xE0, 2)
  else if 0xF0 ≤ octet ∧ octet < 0xF8 then some (octet - 0xF0, 3)
  else none

/-- The text of a tag with its escaped octets replaced by the characters they encode. The number
of octets that the current character still lacks, and its value so far, are carried along. -/
def unescapeTag? : List Char → Option (Nat × Nat) → Option (List Char)
  | [], none => some []
  | [], some _ => none
  | '%' :: a :: b :: cs, pending => do
    let octet ← Text.digits? 16 [a, b]
    let (value, missing) ← match pending with
      | none => leadingOctet? octet
      | some (value, missing) =>
        if octet / 64 = 2 then some (value * 64 + octet % 64, missing - 1) else none
    if missing = 0 then (unescapeTag? cs none).map (Char.ofNat value :: ·)
    else unescapeTag? cs (some (value, missing))
  | '%' :: _, _ => none
  | c :: cs, none => (unescapeTag? cs none).map (c :: ·)
  | _ :: _, some _ => none

def tagText? (verbatim : Bool) (c : Cursor) : Option (List Char × Cursor) := do
  let run := c.rest.takeWhile (isTagChar verbatim)
  return (← unescapeTag? run none, c.advance run.length)

structure Tag where
  handle : Option String
  suffix : String
  deriving DecidableEq, Repr

/-- The name at the cursor between exclamation marks, marks included. The second mark may be
missing. -/
def tagHandle (c : Cursor) : List Char × Cursor :=
  let name := (c.advance 1).rest.takeWhile isNameChar
  let c := c.advance (1 + name.length)
  if c.rest.head? == some '!' then ('!' :: name ++ ['!'], c.advance 1) else ('!' :: name, c)

/-- The tag whose exclamation mark stands at the cursor. White space has to follow it, or in a
flow collection a comma. -/
def tag? (inFlow : Bool) (c : Cursor) : Option (Tag × Cursor) := do
  let (tag, c) ← match c.rest with
    | _ :: '<' :: _ => do
      let (text, c) ← tagText? true (c.advance 2)
      if text.isEmpty || c.rest.head? != some '>' then none
      some (⟨none, String.ofList text⟩, c.advance 1)
    | _ => do
      let (handle, c) := tagHandle c
      if 2 ≤ handle.length && handle.getLast? == some '!' then
        let (text, c) ← tagText? false c
        if text.isEmpty then none
        some (⟨some (String.ofList handle), String.ofList text⟩, c)
      else
        let (text, c) ← tagText? false c
        let suffix := handle.tail ++ text
        some (if suffix.isEmpty then ⟨none, "!"⟩ else ⟨some "!", String.ofList suffix⟩, c)
  if endsWord c.rest || (inFlow && c.rest.head? == some ',') then some (tag, c) else none

inductive Directive where
  | version (major minor : Nat)
  | handle (name expansion : String)
  deriving DecidableEq, Repr

def versionPart? (c : Cursor) : Option (Nat × Cursor) := do
  let ds := c.rest.takeWhile Char.isDigit
  if ds.isEmpty || 9 < ds.length then none
  return (← Text.digits? 10 ds, c.advance ds.length)

def directive? (c : Cursor) : Option (Directive × Cursor) := do
  let name := (c.advance 1).rest.takeWhile isNameChar
  let c := c.advance (1 + name.length)
  if !endsWord c.rest then none
  let (directive, c) ←
    if name = ['Y', 'A', 'M', 'L'] then do
      let (major, c) ← versionPart? (c.advanceWhile isBlank)
      if c.rest.head? != some '.' then none
      let (minor, c) ← versionPart? (c.advance 1)
      some (.version major minor, c)
    else if name = ['T', 'A', 'G'] then do
      let c := c.advanceWhile isBlank
      if c.rest.head? != some '!' then none
      let (handle, c) := tagHandle c
      if handle != ['!'] && (handle.length < 2 || handle.getLast? != some '!') then none
      if !c.rest.head?.any isBlank then none
      let (text, c) ← tagText? true (c.advanceWhile isBlank)
      if text.isEmpty || !endsWord c.rest then none
      some (.handle (String.ofList handle) (String.ofList text), c)
    else none
  let c ← c.restOfLine?
  return (directive, if c.rest.isEmpty then c else c.nextLine)

end EdgeControl.Yaml
