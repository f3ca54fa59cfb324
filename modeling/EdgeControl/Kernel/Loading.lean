import EdgeControl.Kernel

/-!
Loading the data plane: the kernel creates its tables and loads its programs, the entry point's
calls are registered, and the agent opens the tables it needs. The first thing that is missing or
does not fit ends the loading.
-/
namespace EdgeControl.Kernel

inductive Stage where
  | link
  | load
  | programs
  | tailCalls
  | maps
  deriving DecidableEq, Repr

def Stage.name : Stage → String
  | link => "Link"
  | load => "Load"
  | programs => "Programs"
  | tailCalls => "TailCalls"
  | maps => "Maps"

structure SetupError where
  stage : Stage
  failure : Failure
  deriving DecidableEq, Repr

instance : Reported SetupError where
  kind e := e.stage.name
  wording? e := some e.failure.chain

abbrev Loading (α : Type) : Type := ExceptT SetupError (StateM Log) α

namespace Loading

variable {α : Type}

def fail (stage : Stage) (f : Failure) : Loading α := throw ⟨stage, f⟩

def ofExcept (stage : Stage) : Except Failure α → Loading α
  | .ok a => pure a
  | .error f => fail stage f

def note (e : LogEvent) : Loading Unit := modify (·.push e)

end Loading

/-- The failure to create a table. The kernel is asked only for kinds that it has. -/
def notCreated (name : String) (spec : TableSpec) : Failure :=
  if spec.kind.isKnown then
    let why := s!"failed to create map \x60{name}\x60 with code -1"
    ⟨s!"map error: {why}", [why, Refusal.invalidArgument.message]⟩
  else
    let why := s!"invalid map type {spec.kind.number}"
    ⟨s!"map error: {why}", [why]⟩

/-- The table into which programs write records for the log of their loader. -/
def logTable : String := "AYA_LOGS"

/-- Why the programs' own log cannot be followed. It is not needed. -/
def logTrouble? (o : Object) : Option String :=
  match o.tables.lookup logTable with
  | none => some s!"log event array {logTable} doesn't exist"
  | some spec => if spec.kind = .eventArray then none else some "error opening log event array"

def create (file : ObjectFile) : Loading Object := do
  let .object o := file
    | .fail .load ⟨"error parsing BPF object: error parsing ELF data", ["error parsing ELF data"]⟩
  if let some (name, spec) := o.tables.find? fun t => !t.2.creatable then
    .fail .load (notCreated name spec)
  if let some why := logTrouble? o then
    .note (.warn s!"eBPF logger init failed (non-fatal): {why}")
  .note (.info "eBPF object loaded")
  return o

def loadPrograms (o : Object) : Loading Unit :=
  Program.all.forM fun p => do
    match o.programs.lookup p.name with
    | none => .fail .programs {text := s!"program '{p.name}' not found in eBPF object"}
    | some false => .fail .programs {text := "unexpected program type"}
    | some true => .note (.info "XDP program loaded" [("program", p.name)])

/-- A table of the object, if it has a kind and sizes that the agent can use. No sizes are asked
of a table of devices. -/
def open? (o : Object) (name : TableName) (kinds : List TableKind) :
    Except Failure TableSpec := do
  let some spec := o.tables.lookup name.text
    | throw {text := s!"map '{name.text}' not found in eBPF object"}
  let wanted := name.spec
  if !kinds.contains spec.kind then
    throw {text := s!"invalid map type {spec.kind.number}"}
  if spec.kind != .deviceHash then
    if spec.keySize != wanted.keySize then
      throw {text := s!"invalid key size {wanted.keySize}, expected {spec.keySize}"}
    if spec.valueSize != wanted.valueSize then
      throw {text := s!"invalid value size {wanted.valueSize}, expected {spec.valueSize}"}
  return spec

def registerCall (calls : Calls) (i : Nat) (p : Program) : Loading Calls := do
  let calls ← .ofExcept .tailCalls ((calls.set i p).mapError (·.failure))
  .note (.info "tail-call target registered" [("index", i), ("program", p.name)])
  return calls

/-- Fills the table of calls. The agent has it open only while it does so. -/
def registerCalls (o : Object) : Loading Calls := do
  let spec ← .ofExcept .tailCalls (open? o .calls [.programArray])
  let calls ← Program.tailCalls.foldlM (fun c (i, p) => registerCall c i p) (Calls.ofSpec spec)
  return calls.close

/-- A hash table of the object, which may be one that forgets old keys. -/
def openHash {κ α : Type} [Ord κ] [Std.TransOrd κ] (o : Object) (name : TableName) :
    Loading (Table κ α) := do
  return .ofSpec (← .ofExcept .maps (open? o name [.hash, .lruHash]))

def openTrie {α : Type} (o : Object) (name : TableName) : Loading (Table Network α) := do
  return .ofSpec (← .ofExcept .maps (open? o name [.trie]))

def openArray {α : Type} (o : Object) (name : TableName) (blank : α) : Loading (Slots α) := do
  return .ofSpec blank (← .ofExcept .maps (open? o name [.array]))

def start (host : Host) (file : ObjectFile) : Loading Kernel := do
  let o ← create file
  loadPrograms o
  let calls ← registerCalls o
  let rules ← openTrie o .rules
  let matchers ← openTrie o .advRuleMatcher
  let advRules ← openHash o .advRules
  let dropCounters ← openHash o .dropCounter
  .note (.info "firewall maps acquired (rules, adv_rulematcher, adv_rules, drop_counter)")
  let floodCounters ← openHash o .dosCounter
  .note (.info "dosp_counter map acquired")
  let packetCounts ← openHash o .counter
  .note (.info "counter map acquired")
  let frontend ← openArray o .frontendInfo ⟨0, 0, .zero⟩
  let redirect ← .ofExcept .maps (open? o .redirect [.deviceHash])
  let backendInfo ← openHash o .backendInfo
  let backendIfindex ← openHash o .backendIfindex
  let rotation ← openArray o .rotation 0
  .note (.info <| "load balancer maps acquired (upstream_info, redirect_dev_map, " ++
    "backend_info, backend_ifindex, rr_table)")
  let flows ← openHash o .conntrack
  .note (.info "conntrack map acquired")
  return {
    host, calls, rules, matchers, advRules, dropCounters, floodCounters, packetCounts, frontend,
    redirect := .ofSpec redirect, backendInfo, backendIfindex, rotation, flows}

end EdgeControl.Kernel
