import EdgeControl.Yaml.Scalar
import EdgeControl.Yaml.Tag

/-!
The tokens of a YAML text. Indentation becomes tokens that open and close blocks, and a key that
is known as one only by the colon behind it gets its token in front, where the key began.
-/
namespace EdgeControl.Yaml

inductive Style where
  | plain
  | literal
  | other
  deriving DecidableEq, Repr

inductive Token where
  | directive (d : Directive)
  | documentStart
  | documentEnd
  | blockSequence
  | blockMapping
  | blockEnd
  | flowSequence
  | flowSequenceEnd
  | flowMapping
  | flowMappingEnd
  | entry
  | comma
  | key
  | value
  | alias (name : String)
  | anchor (name : String)
  | tag (t : Tag)
  | scalar (style : Style) (text : String)
  deriving DecidableEq, Repr

structure KeyStart where
  required : Bool
  position : Nat
  place : Cursor

structure Scanner where
  /-- More than the number of characters of the text, to bound the loops over it. -/
  bound : Nat
  cursor : Cursor
  tokens : Array Token := #[]
  /-- The first column past the indentation of the innermost block, 0 outside all blocks. -/
  margin : Nat := 0
  outerMargins : List Nat := []
  keyAllowed : Bool := true
  /-- Where a key may have begun in the innermost collection. -/
  keyStart : Option KeyStart := none
  /-- The same for the collections around it, one for each flow collection that is open. -/
  outerKeyStarts : List (Option KeyStart) := []

namespace Scanner

def inFlow (s : Scanner) : Bool := !s.outerKeyStarts.isEmpty

def emit (s : Scanner) (t : Token) : Scanner := {s with tokens := s.tokens.push t}

def emitAt (s : Scanner) (t : Token) (length : Nat) : Scanner :=
  {s.emit t with cursor := s.cursor.advance length}

def insert (s : Scanner) (position : Nat) (t : Token) : Scanner :=
  {s with tokens := s.tokens.insertIdxIfInBounds position t}

/-- The place of the next token, past white space and comments. A break makes a key possible
again, outside flow collections. -/
def skipSpace : Nat → Scanner → Scanner
  | 0, s => s
  | steps + 1, s =>
    let c := s.cursor
    let c := if c.column == 0 && c.rest.head? == some byteOrderMark then c.advance 1 else c
    let tabs := s.inFlow || !s.keyAllowed
    let c := c.advanceWhile fun ch => ch == ' ' || (tabs && ch == '\t')
    let c := if c.rest.head? == some '#' then c.advanceWhile (!isBreak ·) else c
    if c.rest.head?.any isBreak then
      skipSpace steps {s with cursor := c.nextLine, keyAllowed := s.keyAllowed || !s.inFlow}
    else {s with cursor := c}

/-- A key has to end on the line where it began, and within 1024 characters. -/
def outlived (c : Cursor) (k : KeyStart) : Bool :=
  k.place.line < c.line || k.place.index + 1024 < c.index

def dropOutlived? (s : Scanner) : Option Scanner := do
  let keep (k : Option KeyStart) : Option (Option KeyStart) :=
    match k with
    | none => some none
    | some k =>
      if !outlived s.cursor k then some (some k) else if k.required then none else some none
  return {s with keyStart := ← keep s.keyStart, outerKeyStarts := ← s.outerKeyStarts.mapM keep}

def dropKey? (s : Scanner) : Option Scanner :=
  if s.keyStart.any KeyStart.required then none else some {s with keyStart := none}

/-- Takes the next token as a place where a key may begin, if one may. -/
def markKey? (s : Scanner) : Option Scanner := do
  if !s.keyAllowed then return s
  let s ← s.dropKey?
  return {s with
    keyStart := some {
      required := !s.inFlow && s.margin == s.cursor.column + 1
      position := s.tokens.size
      place := s.cursor}}

def closeBlocks (s : Scanner) (limit : Nat) : Scanner :=
  if s.inFlow then s
  else go s s.margin s.outerMargins
where
  go (s : Scanner) (margin : Nat) : List Nat → Scanner
    | [] => {s with margin, outerMargins := []}
    | outer :: more =>
      if limit < margin then go (s.emit .blockEnd) outer more
      else {s with margin, outerMargins := outer :: more}

/-- Opens a block at `column` with the token `t`, placed before the token number `position`,
unless the block around it already starts there. -/
def openBlock (s : Scanner) (column position : Nat) (t : Token) : Scanner :=
  if s.inFlow || column < s.margin then s
  else
    {s.insert position t with margin := column + 1, outerMargins := s.margin :: s.outerMargins}

def documentMark? (s : Scanner) (t : Token) : Option Scanner := do
  let s ← (s.closeBlocks 0).dropKey?
  return {s.emitAt t 3 with keyAllowed := false}

def openFlow? (s : Scanner) (t : Token) : Option Scanner := do
  let s ← s.markKey?
  return {s.emitAt t 1 with
    keyStart := none
    outerKeyStarts := s.keyStart :: s.outerKeyStarts
    keyAllowed := true}

def closeFlow? (s : Scanner) (t : Token) : Option Scanner := do
  let s ← s.dropKey?
  let s := {s.emitAt t 1 with keyAllowed := false}
  match s.outerKeyStarts with
  | [] => return s
  | k :: more => return {s with keyStart := k, outerKeyStarts := more}

def comma? (s : Scanner) : Option Scanner := do
  let s ← s.dropKey?
  return {s.emitAt .comma 1 with keyAllowed := true}

def entry? (s : Scanner) : Option Scanner := do
  if !s.inFlow && !s.keyAllowed then none
  let s ← (s.openBlock s.cursor.column s.tokens.size .blockSequence).dropKey?
  return {s.emitAt .entry 1 with keyAllowed := true}

def key? (s : Scanner) : Option Scanner := do
  if !s.inFlow && !s.keyAllowed then none
  let s ← (s.openBlock s.cursor.column s.tokens.size .blockMapping).dropKey?
  return {s.emitAt .key 1 with keyAllowed := !s.inFlow}

/-- The colon before a value. What stands before it since a key could begin is the key. -/
def value? (s : Scanner) : Option Scanner :=
  match s.keyStart with
  | some k =>
    let s := (s.insert k.position .key).openBlock k.place.column k.position .blockMapping
    some {s.emitAt .value 1 with keyStart := none, keyAllowed := false}
  | none =>
    if !s.inFlow && !s.keyAllowed then none
    else
      let s := s.openBlock s.cursor.column s.tokens.size .blockMapping
      some {s.emitAt .value 1 with keyAllowed := !s.inFlow}

def named? (s : Scanner) (t : String → Token) : Option Scanner := do
  let s ← s.markKey?
  let c := s.cursor.advance 1
  let name := c.rest.takeWhile isNameChar
  let c := c.advance name.length
  if name.isEmpty then none
  if !endsWord c.rest && !c.rest.head?.any ("?:,]\x7d%@\x60".contains ·) then none
  return {s.emit (t (String.ofList name)) with cursor := c, keyAllowed := false}

def tagged? (s : Scanner) : Option Scanner := do
  let s ← s.markKey?
  let (t, c) ← tag? s.inFlow s.cursor
  return {s.emit (.tag t) with cursor := c, keyAllowed := false}

def quotedScalar? (s : Scanner) (quote : Char) : Option Scanner := do
  let s ← s.markKey?
  let (text, c) ← quoted? s.bound quote s.cursor
  return {s.emit (.scalar .other (String.ofList text)) with cursor := c, keyAllowed := false}

def plainScalar? (s : Scanner) : Option Scanner := do
  let s ← s.markKey?
  let p ← plain? s.bound s.inFlow s.margin s.cursor
  return {s.emit (.scalar .plain (String.ofList p.text)) with
    cursor := p.after, keyAllowed := p.broken}

def blockScalar? (s : Scanner) (literal : Bool) : Option Scanner := do
  let s ← s.dropKey?
  let (text, c) ← block? s.bound literal s.margin s.cursor
  let style := if literal then Style.literal else .other
  return {s.emit (.scalar style (String.ofList text)) with cursor := c, keyAllowed := true}

def directiveLine? (s : Scanner) : Option Scanner := do
  let s ← (s.closeBlocks 0).dropKey?
  let (d, c) ← directive? s.cursor
  return {s.emit (.directive d) with cursor := c, keyAllowed := false}

def startsPlain (inFlow : Bool) (c : Char) (cs : List Char) : Bool :=
  if c == '-' then !cs.head?.any isBlank
  else if c == '?' || c == ':' then !inFlow && !endsWord cs
  else !isSpace c && !",[]\x7b\x7d#&*!|>\x27\"%@\x60".contains c

def token? (s : Scanner) (c : Char) (cs : List Char) : Option Scanner :=
  if s.cursor.column = 0 ∧ c = '%' then s.directiveLine?
  else if s.cursor.atDocumentMark then
    s.documentMark? (if c = '-' then .documentStart else .documentEnd)
  else if c = '[' then s.openFlow? .flowSequence
  else if c = '{' then s.openFlow? .flowMapping
  else if c = ']' then s.closeFlow? .flowSequenceEnd
  else if c = '}' then s.closeFlow? .flowMappingEnd
  else if c = ',' then s.comma?
  else if c = '-' ∧ endsWord cs then s.entry?
  else if c = '?' ∧ (s.inFlow ∨ endsWord cs) then s.key?
  else if c = ':' ∧ (s.inFlow ∨ endsWord cs) then s.value?
  else if c = '*' then s.named? .alias
  else if c = '&' then s.named? .anchor
  else if c = '!' then s.tagged?
  else if c = '|' ∧ !s.inFlow then s.blockScalar? true
  else if c = '>' ∧ !s.inFlow then s.blockScalar? false
  else if c = '\'' ∨ c = '"' then s.quotedScalar? c
  else if startsPlain s.inFlow c cs then s.plainScalar?
  else none

/-- All tokens from here to the end of the text. Each takes at least one character, so the number
of characters bounds the number of steps. -/
def run? : Nat → Scanner → Option (Array Token)
  | 0, _ => none
  | steps + 1, s => do
    let s ← (skipSpace s.bound s).dropOutlived?
    let s := s.closeBlocks (s.cursor.column + 1)
    match s.cursor.rest with
    | [] =>
      let s ← (s.closeBlocks 0).dropKey?
      return s.tokens
    | c :: cs => run? steps (← s.token? c cs)

end Scanner

def Token.ofText? (cs : List Char) : Option (List Token) := do
  let cs := if cs.head? = some byteOrderMark then cs.tail else cs
  if !cs.all isAllowed then none
  let bound := cs.length + 1
  let tokens ← Scanner.run? bound {bound, cursor := {rest := cs}}
  return tokens.toList

end EdgeControl.Yaml
