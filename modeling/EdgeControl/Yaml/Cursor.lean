/-!
Places in a YAML text. A cursor knows what is left of the text and where in the text it stands;
lines end at one of several characters, a carriage return with the line feed after it being one
break.
-/
namespace EdgeControl.Yaml

def isAllowed (c : Char) : Bool :=
  let n := c.toNat
  n == 0x9 || n == 0xA || n == 0xD || (0x20 ≤ n && n ≤ 0x7E) || n == 0x85 ||
    (0xA0 ≤ n && n ≤ 0xFFFD) || 0x10000 ≤ n

def isBlank (c : Char) : Bool := c == ' ' || c == '\t'

def isBreak (c : Char) : Bool :=
  let n := c.toNat
  n == 0xA || n == 0xD || n == 0x85 || n == 0x2028 || n == 0x2029

def isSpace (c : Char) : Bool := isBlank c || isBreak c

def isNameChar (c : Char) : Bool := c.isAlphanum || c == '-' || c == '_'

def byteOrderMark : Char := '\uFEFF'

def endsWord (cs : List Char) : Bool := cs.head?.all isSpace

def breakLength : List Char → Nat
  | '\r' :: '\n' :: _ => 2
  | c :: _ => if isBreak c then 1 else 0
  | [] => 0

def breakText (c : Char) : Char :=
  if c.toNat == 0x2028 || c.toNat == 0x2029 then c else '\n'

/-- The first line of a text, and each later line with the reading of the break before it. -/
def brokenLines : List Char → List Char × List (Char × List Char)
  | [] => ([], [])
  | '\r' :: '\n' :: cs =>
    let (line, more) := brokenLines cs
    ([], ('\n', line) :: more)
  | c :: cs =>
    let (line, more) := brokenLines cs
    if isBreak c then ([], (breakText c, line) :: more) else (c :: line, more)

structure Cursor where
  rest : List Char
  index : Nat := 0
  line : Nat := 0
  column : Nat := 0

namespace Cursor

def advance (c : Cursor) (n : Nat) : Cursor :=
  {c with rest := c.rest.drop n, index := c.index + n, column := c.column + n}

def advanceWhile (p : Char → Bool) (c : Cursor) : Cursor :=
  c.advance (c.rest.takeWhile p).length

def nextLine (c : Cursor) : Cursor :=
  let n := breakLength c.rest
  ⟨c.rest.drop n, c.index + n, c.line + 1, 0⟩

/-- The place after `run`, which is the front of the rest and may hold breaks. -/
def skip (c : Cursor) (run : List Char) : Cursor :=
  match (brokenLines run).2.getLast? with
  | none => c.advance run.length
  | some (_, last) =>
    ⟨c.rest.drop run.length, c.index + run.length, c.line + (brokenLines run).2.length,
      last.length⟩

def atDocumentMark (c : Cursor) : Bool :=
  c.column == 0 && (c.rest.take 3 == ['-', '-', '-'] || c.rest.take 3 == ['.', '.', '.']) &&
    endsWord (c.rest.drop 3)

/-- The place after the blanks and the comment that end a line, at its break or at the end of
the text; none if something else stands there. -/
def restOfLine? (c : Cursor) : Option Cursor :=
  let c := c.advanceWhile isBlank
  let c := if c.rest.head? == some '#' then c.advanceWhile (!isBreak ·) else c
  if c.rest.head?.all isBreak then some c else none

end Cursor
end EdgeControl.Yaml
