import EdgeControl.Text.Numeral
import EdgeControl.Yaml.Cursor

/-!
The scalars of a YAML text: quoted, plain and in blocks. In the first two a break between words
is folded into a space, and breaks beyond it are kept. A first argument named `steps` bounds the
number of steps of a loop; the number of characters left is always enough.
-/
namespace EdgeControl.Yaml

/-- What stands in a value for the white space between two words. Behind an escaped break there
are no blanks and nothing is folded. -/
def gapText (escaped : Bool) (run : List Char) : List Char :=
  match brokenLines run with
  | (blanks, []) => if escaped then [] else blanks
  | (_, lines) =>
    match escaped, lines.map Prod.fst with
    | false, ['\n'] => [' ']
    | false, '\n' :: more => more
    | _, breaks => breaks

def escaped? : Char → Option Char
  | '0' => some '\x00'
  | 'a' => some '\x07'
  | 'b' => some '\x08'
  | 't' => some '\t'
  | '\t' => some '\t'
  | 'n' => some '\n'
  | 'v' => some '\x0b'
  | 'f' => some '\x0c'
  | 'r' => some '\r'
  | 'e' => some '\x1b'
  | ' ' => some ' '
  | '"' => some '"'
  | '/' => some '/'
  | '\\' => some '\\'
  | 'N' => some '\u0085'
  | '_' => some '\u00a0'
  | 'L' => some '\u2028'
  | 'P' => some '\u2029'
  | _ => none

def codeWidth : Char → Nat
  | 'x' => 2
  | 'u' => 4
  | 'U' => 8
  | _ => 0

def codePoint? (ds : List Char) : Option Char := do
  let n ← Text.digits? 16 ds
  if n.isValidChar then some (Char.ofNat n) else none

def escape? : List Char → Option (Char × Nat)
  | [] => none
  | c :: cs =>
    let width := codeWidth c
    if width = 0 then (escaped? c).map (·, 1)
    else if (cs.take width).length = width then (codePoint? (cs.take width)).map (·, 1 + width)
    else none

/-- What follows in a quoted scalar up to its closing quote, after the text read so far in
reverse. -/
def quotedRest (quote : Char) : Nat → Cursor → List Char → Option (List Char × Cursor)
  | 0, _, _ => none
  | steps + 1, c, text =>
    if c.atDocumentMark then none
    else
      match c.rest with
      | [] => none
      | ch :: cs =>
        if isSpace ch then
          let run := c.rest.takeWhile isSpace
          quotedRest quote steps (c.skip run) ((gapText false run).reverse ++ text)
        else if ch = quote then
          if quote = '\'' ∧ cs.head? = some '\'' then
            quotedRest quote steps (c.advance 2) ('\'' :: text)
          else some (text.reverse, c.advance 1)
        else if quote = '"' ∧ ch = '\\' then
          if breakLength cs = 0 then do
            let (value, length) ← escape? cs
            quotedRest quote steps (c.advance (1 + length)) (value :: text)
          else
            let c := (c.advance 1).nextLine
            let run := c.rest.takeWhile isSpace
            quotedRest quote steps (c.skip run) ((gapText true run).reverse ++ text)
        else quotedRest quote steps (c.advance 1) (ch :: text)

def quoted? (steps : Nat) (quote : Char) (c : Cursor) : Option (List Char × Cursor) :=
  quotedRest quote steps (c.advance 1) []

/-- The word of a plain scalar at the front of a text. In a flow collection the collection's own
punctuation ends it, and a colon right before such punctuation is refused. -/
def plainWord? (inFlow : Bool) : List Char → Option (List Char)
  | [] => some []
  | c :: cs =>
    if isSpace c then some []
    else if inFlow ∧ c = ':' ∧ cs.head?.any (",?[]\x7b\x7d".contains ·) then none
    else if c = ':' ∧ endsWord cs then some []
    else if inFlow ∧ ",[]\x7b\x7d".contains c then some []
    else (plainWord? inFlow cs).map (c :: ·)

/-- Whether a line after the first begins with a tab before column `margin`. -/
def hasTabBefore (margin : Nat) (run : List Char) : Bool :=
  (brokenLines run).2.any fun line => (line.2.take margin).contains '\t'

/-- A plain scalar, the place after it and after the white space behind it, and whether that
white space holds a break. -/
structure Plain where
  text : List Char
  after : Cursor
  broken : Bool

/-- What follows in a plain scalar, after the text read so far in reverse and the white space
behind that. Outside flow collections every line has to reach column `margin`. -/
def plainRest (inFlow : Bool) (margin : Nat) :
    Nat → Cursor → List Char → List Char → Option Plain
  | 0, _, _, _ => none
  | steps + 1, c, text, gap => do
    let broken := !(brokenLines gap).2.isEmpty
    if c.atDocumentMark || c.rest.head? == some '#' then return ⟨text.reverse, c, broken⟩
    let word ← plainWord? inFlow c.rest
    if word.isEmpty then return ⟨text.reverse, c, broken⟩
    let text := word.reverse ++ ((gapText false gap).reverse ++ text)
    let c := c.advance word.length
    let gap := c.rest.takeWhile isSpace
    if gap.isEmpty then return ⟨text.reverse, c, false⟩
    if hasTabBefore margin gap then none
    let c := c.skip gap
    if !inFlow && c.column < margin then
      return ⟨text.reverse, c, !(brokenLines gap).2.isEmpty⟩
    plainRest inFlow margin steps c text gap

def plain? (steps : Nat) (inFlow : Bool) (margin : Nat) (c : Cursor) : Option Plain :=
  plainRest inFlow margin steps c [] []

inductive Chomping where
  | strip
  | clip
  | keep
  deriving DecidableEq

/-- The signs after the indicator of a block scalar: how its end is chomped, and the indentation
of its lines if given, in either order. -/
def blockHeader? (c : Cursor) : Option (Chomping × Option Nat × Cursor) := do
  let (first, c) := chomping c
  let (indent, c) ← indentation? c
  match first, indent with
  | none, some _ =>
    let (second, c) := chomping c
    return (second.getD .clip, indent, c)
  | _, _ => return (first.getD .clip, indent, c)
where
  chomping (c : Cursor) : Option Chomping × Cursor :=
    match c.rest.head? with
    | some '+' => (some .keep, c.advance 1)
    | some '-' => (some .strip, c.advance 1)
    | _ => (none, c)
  indentation? (c : Cursor) : Option (Option Nat × Cursor) :=
    match c.rest.head? with
    | some '0' => none
    | some d =>
      if d.isDigit then some (some (d.toNat - '0'.toNat), c.advance 1) else some (none, c)
    | none => some (none, c)

/-- Blank lines in a block scalar: the breaks after the ones read so far in reverse, the widest
indentation met, and the place of the first character past the indentation. With no known
indentation all leading spaces count as such. -/
def blankLines (indent : Option Nat) :
    Nat → Cursor → List Char → Nat → Option (List Char × Nat × Cursor)
  | 0, _, _, _ => none
  | steps + 1, c, breaks, widest =>
    let spaces := (c.rest.takeWhile (· == ' ')).length
    let width := match indent with
      | none => spaces
      | some n => min spaces (n - c.column)
    let c := c.advance width
    let widest := max widest c.column
    match c.rest with
    | [] => some (breaks.reverse, widest, c)
    | ch :: _ =>
      if ch = '\t' ∧ indent.all (c.column < ·) then none
      else if isBreak ch then blankLines indent steps c.nextLine (breakText ch :: breaks) widest
      else some (breaks.reverse, widest, c)

/-- The lines of a block scalar, after the text read so far in reverse: `pending` is the break
that ended the last line, `breaks` are those of the blank lines behind it, and `indented` says
whether the last line began with a blank. -/
def blockLines (literal : Bool) (chomping : Chomping) (indent : Nat) :
    Nat → Cursor → List Char → List Char → List Char → Bool → Option (List Char × Cursor)
  | 0, _, _, _, _, _ => none
  | steps + 1, c, text, pending, breaks, indented => do
    if c.column != indent || c.rest.isEmpty then
      let ending := match chomping with
        | .strip => []
        | .clip => pending
        | .keep => pending ++ breaks
      return (text.reverse ++ ending, c)
    let blankStart := c.rest.head?.any isBlank
    let folded := !literal && pending == ['\n'] && !indented && !blankStart
    let joint := if !folded then pending else if breaks.isEmpty then [' '] else []
    let line := c.rest.takeWhile (!isBreak ·)
    let text := line.reverse ++ ((joint ++ breaks).reverse ++ text)
    let c := c.advance line.length
    match c.rest with
    | [] => blockLines literal chomping indent steps c text [] [] blankStart
    | ch :: _ =>
      let (breaks, _, c) ← blankLines (some indent) (steps + 1) c.nextLine [] 0
      blockLines literal chomping indent steps c text [breakText ch] breaks blankStart

def block? (steps : Nat) (literal : Bool) (margin : Nat) (c : Cursor) :
    Option (List Char × Cursor) := do
  let (chomping, given, c) ← blockHeader? (c.advance 1)
  let c ← c.restOfLine?
  let c := if c.rest.isEmpty then c else c.nextLine
  let known := given.map (margin - 1 + ·)
  let (breaks, widest, c) ← blankLines known steps c [] 0
  let indent := known.getD (max widest (max margin 1))
  blockLines literal chomping indent steps c [] [] breaks false

end EdgeControl.Yaml
