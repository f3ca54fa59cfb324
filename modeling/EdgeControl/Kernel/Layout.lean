import EdgeControl.Json

/-!
What the data plane is made of: its programs, the table through which one program calls the
others, and the tables that it shares with the agent.
-/
namespace EdgeControl.Kernel

inductive Program where
  | entrypoint
  | count
  | firewall
  | dosProtector
  | lbIngress
  | lbEgress
  deriving DecidableEq, Repr

namespace Program

def name : Program → String
  | entrypoint => "entrypoint"
  | count => "count"
  | firewall => "firewall"
  | dosProtector => "dos_protector"
  | lbIngress => "lb_ingress"
  | lbEgress => "lb_egress"

/-- The programs, in the order in which they are loaded. -/
def all : List Program := [entrypoint, count, firewall, dosProtector, lbIngress, lbEgress]

def tailCalls : List (Nat × Program) :=
  [(0, count), (1, firewall), (2, dosProtector), (3, lbIngress), (4, lbEgress)]

end Program

/-- The kinds of tables that the agent knows how to use, and any other by its number. -/
inductive TableKind where
  | hash
  | lruHash
  | array
  | programArray
  | eventArray
  | trie
  | deviceHash
  | other (number : Nat)
  deriving DecidableEq, Repr

namespace TableKind

def number : TableKind → Nat
  | hash => 1
  | array => 2
  | programArray => 3
  | eventArray => 4
  | lruHash => 9
  | trie => 11
  | deviceHash => 25
  | other n => n

def ofNumber (n : Nat) : TableKind :=
  ([hash, array, programArray, eventArray, lruHash, trie, deviceHash].find?
    fun kind => kind.number == n).getD (other n)

/-- Whether kernels have a kind of tables. -/
def isKnown (k : TableKind) : Bool := 0 < k.number && k.number ≤ 33

end TableKind

/-- What an object file says of a table. Sizes are in bytes. -/
structure TableSpec where
  kind : TableKind
  keySize : Nat
  valueSize : Nat
  capacity : Nat
  flags : Nat := 0
  deriving DecidableEq, Repr

namespace TableSpec

def writable (s : TableSpec) : Bool := !s.flags.testBit 3

def readable (s : TableSpec) : Bool := !s.flags.testBit 4

def suitsKind (s : TableSpec) : Bool :=
  match s.kind with
  | .array => s.keySize == 4
  | .deviceHash => s.keySize == 4 && (s.valueSize == 4 || s.valueSize == 8)
  | .programArray | .eventArray => s.keySize == 4 && s.valueSize == 4
  | .trie => s.flags.testBit 0 && 5 ≤ s.keySize
  | _ => true

/-- Whether the kernel creates such a table. The capacity of an event array may be left open. -/
def creatable (s : TableSpec) : Bool :=
  s.kind.isKnown && 0 < s.keySize && 0 < s.valueSize &&
    (0 < s.capacity || s.kind == .eventArray) && (s.readable || s.writable) && s.suitsKind

instance : JsonForm TableSpec where
  toJson s := toJson [s.kind.number, s.keySize, s.valueSize, s.capacity, s.flags]
  ofJson? j := do
    match ← ofJson? j with
    | [kind, keySize, valueSize, capacity, flags] =>
      some ⟨.ofNumber kind, keySize, valueSize, capacity, flags⟩
    | _ => none

end TableSpec

inductive TableName where
  | calls
  | counter
  | rules
  | dropCounter
  | advRuleMatcher
  | advRules
  | dosCounter
  | redirect
  | backendInfo
  | backendIfindex
  | frontendInfo
  | conntrack
  | rotation
  deriving DecidableEq, Repr

namespace TableName

def text : TableName → String
  | calls => "calls_map"
  | counter => "counter"
  | rules => "rules"
  | dropCounter => "drop_counter"
  | advRuleMatcher => "adv_rulematcher"
  | advRules => "adv_rules"
  | dosCounter => "dosp_counter"
  | redirect => "redirect_dev_map"
  | backendInfo => "backend_info"
  | backendIfindex => "backend_ifindex"
  | frontendInfo => "upstream_info"
  | conntrack => "conntrack"
  | rotation => "rr_table"

def all : List TableName :=
  [calls, counter, rules, dropCounter, advRuleMatcher, advRules, dosCounter, redirect, backendInfo,
    backendIfindex, frontendInfo, conntrack, rotation]

def spec : TableName → TableSpec
  | calls => ⟨.programArray, 4, 4, 5, 0⟩
  | counter => ⟨.hash, 4, 8, 8, 0⟩
  | rules => ⟨.trie, 8, 12, 1024, 1⟩
  | dropCounter => ⟨.hash, 4, 8, 1024, 0⟩
  | advRuleMatcher => ⟨.trie, 8, 32, 1024, 1⟩
  | advRules => ⟨.hash, 4, 12, 1024, 0⟩
  | dosCounter => ⟨.hash, 8, 8, 1024, 0⟩
  | redirect => ⟨.deviceHash, 4, 8, 64, 0⟩
  | backendInfo => ⟨.hash, 4, 28, 64, 0⟩
  | backendIfindex => ⟨.hash, 4, 4, 64, 0⟩
  | frontendInfo => ⟨.array, 4, 12, 1, 0⟩
  | conntrack => ⟨.hash, 16, 24, 1024, 0⟩
  | rotation => ⟨.array, 4, 4, 64, 0⟩

end TableName

/-- The sizes that the programs and the agent agree on: how many flows, packet counters, flood
counters and round-robin slots there are, and how many rules go by one network. -/
def limits : List Nat := [65536, 3, 65536, 64, 16]

/-- What an object file holds: tables, and programs, each with whether it is a packet program. -/
structure Object where
  programs : List (String × Bool)
  tables : List (String × TableSpec)
  deriving DecidableEq, Repr

namespace Object

def standard : Object where
  programs := Program.all.map fun p => (p.name, true)
  tables := TableName.all.map fun t => (t.text, t.spec)

def without (o : Object) (names : List String) : Object where
  programs := o.programs.filter fun p => !names.contains p.1
  tables := o.tables.filter fun t => !names.contains t.1

def reclassify (o : Object) (names : List String) : Object :=
  {o with programs := o.programs.map fun (name, packet) => (name, packet && !names.contains name)}

def respecify (o : Object) (name : String) (spec : TableSpec) : Object :=
  {o with tables := (name, spec) :: o.tables.filter (·.1 != name)}

end Object

inductive ObjectFile where
  | malformed
  | object (o : Object)
  deriving DecidableEq, Repr

end EdgeControl.Kernel
