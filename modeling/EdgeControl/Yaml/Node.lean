import EdgeControl.Yaml.Token

/-!
The tree of a YAML document. An alias is a leaf that names, by a number, the node it stands for;
a document has the table of those nodes.
-/
namespace EdgeControl.Yaml

inductive Node where
  | scalar (tag : Option String) (style : Style) (text : String)
  | sequence (items : List Node)
  | mapping (entries : List (Node × Node))
  | alias (number : Nat)
  deriving Inhabited

def Node.empty : Node := .scalar none .plain ""

structure Document where
  root : Node
  anchored : List (Nat × Node) := []

structure Reader where
  tokens : List Token
  /-- The expansions of tag handles. -/
  handles : List (String × String) := [("!", "!"), ("!!", "tag:yaml.org,2002:")]
  names : List (String × Nat) := []
  begun : Nat := 0
  /-- For each number the anchored node that it belongs to, counted as they begin. -/
  owners : List (Nat × Nat) := []
  finished : List (Nat × Node) := []

abbrev Reading := StateT Reader Option

namespace Reading

def peek : Reading (Option Token) := return (← get).tokens.head?

def skip : Reading Unit := modify fun r => {r with tokens := r.tokens.tail}

def expect (t : Token) : Reading Unit := do
  if (← peek) = some t then skip else failure

def atOne (ts : List Token) : Reading Bool := return (← peek).any ts.contains

/-- The full text of a tag, whose handle has to be known. -/
def expand (t : Tag) : Reading String := do
  match t.handle with
  | none => return t.suffix
  | some handle => return (← (← get).handles.lookup handle) ++ t.suffix

/-- Begins a node with an anchor. A new name gets the number of names known so far, and so does
a name that is used again. -/
def begin (name : String) : Reading Nat :=
  modifyGet fun r =>
    let number := (r.names.map Prod.fst).eraseDups.length
    (r.begun, {r with
      names := (name, number) :: r.names
      owners := (number, r.begun) :: r.owners
      begun := r.begun + 1})

def finish (position : Nat) (n : Node) : Reading Unit :=
  modify fun r => {r with finished := (position, n) :: r.finished}

def properties : Reading (Option String × Option String) := do
  match ← peek with
  | some (.anchor name) =>
    skip
    if let some (.tag t) ← peek then
      skip
      return (some name, some (← expand t))
    return (some name, none)
  | some (.tag t) =>
    skip
    let tag ← expand t
    if let some (.anchor name) ← peek then
      skip
      return (some name, some tag)
    return (none, some tag)
  | _ => return (none, none)

inductive Place where
  | flow
  | block
  /-- In a block mapping, where a sequence may stand without indentation. -/
  | entry
  deriving DecidableEq

mutual

/-- The node at the next token. The first argument bounds the depth of the recursion. -/
def node : Nat → Place → Reading Node
  | 0, _ => failure
  | depth + 1, place => do
    if let some (.alias name) ← peek then
      skip
      return .alias (← (← get).names.lookup name)
    let (anchor, tag) ← properties
    match anchor with
    | none => content depth place tag tag.isSome
    | some name =>
      let position ← begin name
      let n ← content depth place tag true
      finish position n
      return n

def content : Nat → Place → Option String → Bool → Reading Node
  | 0, _, _, _ => failure
  | depth + 1, place, tag, mayMiss => do
    match ← peek with
    | some (.scalar style text) =>
      skip
      return .scalar (if tag = some "!" then none else tag) style text
    | some .flowSequence =>
      skip
      .sequence <$> flowItems depth true
    | some .flowMapping =>
      skip
      .mapping <$> flowEntries depth true
    | some .blockSequence =>
      skip
      .sequence <$> blockItems depth
    | some .blockMapping =>
      skip
      .mapping <$> blockEntries depth
    | some .entry =>
      if place = .entry then .sequence <$> looseItems depth
      else if mayMiss then return .scalar tag .plain ""
      else failure
    | _ => if mayMiss then return .scalar tag .plain "" else failure

def nodeUnless : Nat → Place → List Token → Reading Node
  | 0, _, _ => failure
  | depth + 1, place, ends => do
    if ← atOne ends then return .empty
    node depth place

def blockItems : Nat → Reading (List Node)
  | 0 => failure
  | depth + 1 => do
    if ← atOne [.blockEnd] then
      skip
      return []
    expect .entry
    let n ← nodeUnless depth .block [.entry, .blockEnd]
    return n :: (← blockItems depth)

/-- The items of a block sequence that is not indented; it ends where its dashes end. -/
def looseItems : Nat → Reading (List Node)
  | 0 => failure
  | depth + 1 => do
    if !(← atOne [.entry]) then return []
    skip
    let n ← nodeUnless depth .block [.entry, .key, .value, .blockEnd]
    return n :: (← looseItems depth)

def blockEntries : Nat → Reading (List (Node × Node))
  | 0 => failure
  | depth + 1 => do
    if ← atOne [.blockEnd] then
      skip
      return []
    expect .key
    let k ← nodeUnless depth .entry [.key, .value, .blockEnd]
    let v ← valueUnless depth .entry [.key, .value, .blockEnd]
    return (k, v) :: (← blockEntries depth)

def valueUnless : Nat → Place → List Token → Reading Node
  | 0, _, _ => failure
  | depth + 1, place, ends => do
    if !(← atOne [.value]) then return .empty
    skip
    nodeUnless depth place ends

def flowItems : Nat → Bool → Reading (List Node)
  | 0, _ => failure
  | depth + 1, first => do
    if !(← atOne [.flowSequenceEnd]) && !first then expect .comma
    if ← atOne [.flowSequenceEnd] then
      skip
      return []
    let n ← if ← atOne [.key] then .mapping <$> loneEntry depth else node depth .flow
    return n :: (← flowItems depth false)

/-- The mapping entry at the next token, in a flow sequence. Where its key is missing, the token
that stands there is passed over. -/
def loneEntry : Nat → Reading (List (Node × Node))
  | 0 => failure
  | depth + 1 => do
    skip
    let missing ← atOne [.value, .comma, .flowSequenceEnd]
    if missing then skip
    let k ← if missing then pure .empty else node depth .flow
    let v ← valueUnless depth .flow [.comma, .flowSequenceEnd]
    return [(k, v)]

/-- The entries of a flow mapping. A node without a key's mark is a key without a value. -/
def flowEntries : Nat → Bool → Reading (List (Node × Node))
  | 0, _ => failure
  | depth + 1, first => do
    if !(← atOne [.flowMappingEnd]) && !first then expect .comma
    if ← atOne [.flowMappingEnd] then
      skip
      return []
    if ← atOne [.key] then
      skip
      let k ← nodeUnless depth .flow [.value, .comma, .flowMappingEnd]
      let v ← valueUnless depth .flow [.comma, .flowMappingEnd]
      return (k, v) :: (← flowEntries depth false)
    let k ← node depth .flow
    return (k, .empty) :: (← flowEntries depth false)

end

/-- Takes the directives in front of a document into account. There is at most one version, 1.1
or 1.2, and one expansion for a handle. -/
def directives : List Token → Bool → List (String × String) → Reading Unit
  | .directive (.version major minor) :: ts, versioned, handles => do
    if versioned || major != 1 || (minor != 1 && minor != 2) then failure
    skip
    directives ts true handles
  | .directive (.handle name expansion) :: ts, versioned, handles => do
    if (handles.lookup name).isSome then failure
    skip
    directives ts versioned ((name, expansion) :: handles)
  | _, _, handles => modify fun r => {r with handles := handles ++ r.handles}

def document : Reading Document := do
  let starts := fun t => match t with
    | Token.directive _ => true
    | .documentStart => true
    | _ => false
  let tokens := (← get).tokens
  if tokens.head?.any starts then
    directives tokens false []
    expect .documentStart
  let bare := match ← peek with
    | none => true
    | some t => starts t || t == .documentEnd
  let root ←
    if !tokens.head?.any starts || !bare then node (4 * tokens.length + 4) .block
    else pure .empty
  modify fun r => {r with tokens := r.tokens.dropWhile (· == .documentEnd)}
  if (← peek).isSome then failure
  let r ← get
  return {
    root
    anchored := r.owners.filterMap fun (number, position) =>
      (r.finished.lookup position).map (number, ·)}

end Reading

def Document.ofText? (cs : List Char) : Option Document := do
  let tokens ← Token.ofText? cs
  return (← Reading.document.run {tokens}).1

end EdgeControl.Yaml
