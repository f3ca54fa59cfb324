import EdgeControl.Proofs.Balancer.Frames

/-!
A host that puts down every attempt to attach the packet program to a device or to detach it, under
a balancer. Whatever the host answers, a call of the balancer attaches at most one device and
detaches at most one, and what it takes down agrees with its links.
-/
namespace EdgeControl

open EdgeControl.Action

inductive Attempt where
  | attach (ifindex : UInt32) (done : Bool)
  | detach (ifindex : UInt32) (done : Bool)
  deriving DecidableEq, Repr

structure Journal (P : Type) where
  host : P
  attempts : List Attempt := []

namespace Journal

variable {P α : Type}

def onHost (act : Action P α) : Action (Journal P) α :=
  .onPart Journal.host (fun j host => {j with host}) act

def attempt (entry : Bool → Attempt) (act : Action P α) : Action (Journal P) α := do
  let answer ← (onHost act).result
  modify fun j => {j with attempts := j.attempts ++ [entry answer.isOk]}
  ofExcept id answer

instance [BalancerTables P] : BalancerTables (Journal P) where
  setFrontend info := onHost (BalancerTables.setFrontend info)
  allowRedirect ifindex := onHost (BalancerTables.allowRedirect ifindex)
  revokeRedirect ifindex := onHost (BalancerTables.revokeRedirect ifindex)
  backendInfo? id := onHost (BalancerTables.backendInfo? id)
  setBackendInfo id info := onHost (BalancerTables.setBackendInfo id info)
  removeBackendInfo id := onHost (BalancerTables.removeBackendInfo id)
  setBackendIfindex ifindex id := onHost (BalancerTables.setBackendIfindex ifindex id)
  removeBackendIfindex ifindex := onHost (BalancerTables.removeBackendIfindex ifindex)
  setSlot slot id := onHost (BalancerTables.setSlot slot id)

instance [Neighbors P] : Neighbors (Journal P) where
  probe addr := onHost (Neighbors.probe addr)
  resolve addr := onHost (Neighbors.resolve addr)

instance [Attacher P] : Attacher (Journal P) where
  attach ifindex := do
    let _ ← attempt (.attach ifindex) (Attacher.attach ifindex)
    return ⟨ifindex⟩
  detach link := attempt (.detach link.ifindex) (Attacher.detach link)

theorem ensures_attempt {entry : Bool → Attempt} {act : Action P α} {j : Journal P}
    {post : Except ServiceError α → Journal P → Prop}
    (h : ∀ answer host, post answer ⟨host, j.attempts ++ [entry answer.isOk]⟩) :
    (attempt entry act).Ensures j post := by
  refine .bind (.result (.onPart fun log => .modify_bind ?_))
  apply Ensures.ofExcept
  · intro a answered
    simpa only [answered] using h _ _
  · intro e answered
    simpa only [answered, id] using h _ _

end Journal

namespace Balancer

/-! ### What attaching and detaching goes by -/

structure Ledger where
  frontend : UInt32
  held : Nat
  links : Std.ExtTreeMap UInt32 Link
  attempts : List Attempt

namespace Ledger

def attempted (v : Ledger) (a : Attempt) : Ledger := {v with attempts := v.attempts ++ [a]}

def take (v : Ledger) : Ledger := {v with held := v.held + 1}

def link (v : Ledger) (d : UInt32) : Ledger := {v with links := v.links.insert d ⟨d⟩}

def unlink (v : Ledger) (d : UInt32) : Ledger := {v with links := v.links.erase d}

section Parts

variable (v : Ledger) (a : Attempt) (d : UInt32)

@[simp] theorem attempts_attempted : (v.attempted a).attempts = v.attempts ++ [a] := rfl

@[simp] theorem attempts_take : v.take.attempts = v.attempts := rfl

@[simp] theorem attempts_link : (v.link d).attempts = v.attempts := rfl

@[simp] theorem attempts_unlink : (v.unlink d).attempts = v.attempts := rfl

@[simp] theorem links_attempted : (v.attempted a).links = v.links := rfl

@[simp] theorem links_take : v.take.links = v.links := rfl

@[simp] theorem links_link : (v.link d).links = v.links.insert d ⟨d⟩ := rfl

@[simp] theorem links_unlink : (v.unlink d).links = v.links.erase d := rfl

end Parts

/-- What one call does. It attaches the given device, if any. -/
inductive Step (v : Ledger) : Option UInt32 → Ledger → Prop
  | quiet : v.Step none v
  | refused (d : UInt32) : v.Step (some d) (v.attempted (.attach d false))
  | taken : v.Step (some v.frontend) (v.take.attempted (.attach v.frontend true))
  | linked (d : UInt32) (free : d ∉ v.links) :
      v.Step (some d) ((v.link d).attempted (.attach d true))
  /-- The link is used up even when the host does not do it. -/
  | unlinked (d : UInt32) (link : Link) (known : v.links[d]? = some link) (done : Bool) :
      v.Step none ((v.unlink d).attempted (.detach link.ifindex done))

end Ledger

namespace Service

variable {P α : Type}

def ledger (s : Service (Journal P)) (held : Nat) : Ledger :=
  ⟨s.frontend.ifindex, held, s.links, s.base.attempts⟩

abbrev Idle (act : Action (Service (Journal P)) α) : Prop :=
  ∀ held, Confined (Same fun s => s.ledger held) act

def onto (s : Service (Journal P)) (host : P) : Service (Journal P) :=
  {s with base := {s.base with host}}

theorem onHost_ensures {act : Action P α} {s : Service (Journal P)}
    {post : Except ServiceError α → Service (Journal P) → Prop}
    (h : ∀ answer host, post answer (s.onto host)) :
    (onBase (Journal.onHost act)).Ensures s post :=
  fun _ => h _ _

theorem onHost_confined {τ : Type} {part : Service (Journal P) → τ}
    (h : ∀ s host, part (s.onto host) = part s) (act : Action P α) :
    Confined (Same part) (onBase (Journal.onHost act)) :=
  fun s _ => h s _

theorem onHost_idle (act : Action P α) : Idle (onBase (Journal.onHost act)) :=
  fun _ => onHost_confined (fun _ _ => rfl) act

theorem attachFrontend_step [Attacher P] (s : Service (Journal P)) (held : Nat) :
    attachFrontend.Ensures s fun r t => (s.ledger held).Step (some s.frontend.ifindex)
      (t.ledger (held + if r.isOk then 1 else 0)) := by
  refine .get_bind (.bind (.onPart (.bind (Journal.ensures_attempt ?_))))
  rintro (e | a) host
  · exact .refused _
  · exact .pure (.note_bind (.pure .taken))

theorem attachDevice_step [Attacher P] (s : Service (Journal P)) (held : Nat)
    (id ifindex : UInt32) :
    (attachDevice id ifindex).Ensures s fun _ t => t.registry = s.registry ∧
      (s.ledger held).Step (if ifindex ∈ s.links then none else some ifindex) (t.ledger held) := by
  refine .get_bind ?_
  simp only [Std.ExtTreeMap.contains_iff_mem]
  split
  · exact .note ⟨rfl, .quiet⟩
  · rename_i free
    refine .bind (.onPart (.bind (Journal.ensures_attempt ?_)))
    rintro (e | a) host
    · exact ⟨rfl, .refused _⟩
    · exact .pure (.modify ⟨rfl, .linked _ free⟩)

def Places (s t : Service (Journal P)) (b : Backend) : Prop :=
  t.registry.rotation = s.registry.rotation ++ [b.id] ∧ t.registry.get? b.id = some b

theorem Places.unique {s t : Service (Journal P)} {b c : Backend} (h : s.Places t b)
    (h' : s.Places t c) : b = c := by
  have id : b.id = c.id := by simpa using h.1.symm.trans h'.1
  exact Option.some.inj (h.2.symm.trans (id ▸ h'.2))

theorem not_places {s t : Service (Journal P)} {b : Backend}
    (turned : t.registry.rotation = s.registry.rotation) : ¬ s.Places t b := by
  rintro ⟨longer, -⟩
  simp [turned] at longer

def placed (s : Service (Journal P)) (neighbor : Neighbor) (spec : Spec) (host : P) :
    Service (Journal P) :=
  let (id, registry) := s.registry.allocateId
  {s with
    registry := (registry.insert (.ofSpec id spec neighbor)).pushRotation id
    base := {s.base with host}}

theorem places_of_placed {s t u : Service (Journal P)} {neighbor : Neighbor} {spec : Spec}
    {host : P} (turned : t.registry.rotation = s.registry.rotation)
    (listed : u.registry = (t.placed neighbor spec host).registry) :
    s.Places u (.ofSpec t.registry.nextId spec neighbor) := by
  constructor
  · rw [listed, ← turned]
    rfl
  · rw [listed]
    exact Std.ExtTreeMap.getElem?_insert_self

theorem setBackend_step [BalancerTables P] [Neighbors P] [Attacher P] (s : Service (Journal P))
    (held : Nat) (spec : Spec) :
    (setBackend spec).Ensures s fun _ t =>
      t.registry.rotation = s.registry.rotation ∧ t.ledger held = s.ledger held ∨
      ∃ b, s.Places t b ∧ (s.ledger held).Step
        (if b.ifindex ∈ s.links then none else some b.ifindex) (t.ledger held) := by
  refine .bind (.ofExcept (fun _ _ => ?_) fun e _ => .inl ⟨rfl, rfl⟩)
  have found : Confined (Same fun s : Service (Journal P) => (s.registry.rotation, s.ledger held))
      (findNeighbor spec.addr) :=
    findNeighbor_confined (onHost_confined (fun _ _ => rfl) _) (onHost_confined (fun _ _ => rfl) _)
  refine .bind ((found s).mono ?_)
  rintro (e | neighbor) t same
  · exact .inl (Prod.mk.inj same)
  have unplaced : t.registry.rotation = s.registry.rotation ∧ t.ledger held = s.ledger held :=
    Prod.mk.inj same
  refine .get_bind (.bind (.ofExcept (fun slot _ => .get_bind (.set_bind ?_)) fun e _ =>
    .inl unplaced))
  refine .bind (onHost_ensures ?_)
  rintro (e | _) recorded
  · exact .inl unplaced
  refine .modify_bind (.bind (onHost_ensures ?_))
  rintro (e | _) pointed
  · exact .inl unplaced
  refine .bind (onHost_ensures ?_)
  rintro (e | _) allowed
  · exact .inl unplaced
  refine .bind (onHost_ensures ?_)
  rintro (e | _) slotted
  · exact .inl unplaced
  -- From here on the backend is in the rotation, and only its device is missing.
  have step := attachDevice_step (t.placed neighbor spec slotted) held t.registry.nextId
    neighbor.ifindex
  refine .modify_bind (.note_bind (.bind (step.mono ?_)))
  rintro r u ⟨listed, step⟩
  have links : t.links = s.links := congrArg Ledger.links unplaced.2
  have added : ∃ b, s.Places u b ∧ (s.ledger held).Step
      (if b.ifindex ∈ s.links then none else some b.ifindex) (u.ledger held) := by
    refine ⟨_, places_of_placed unplaced.1 listed, ?_⟩
    rw [← unplaced.2, ← links]
    exact step
  cases r with
  | error e => exact .inr added
  | ok _ => exact .note_bind (.pure (.inr added))

theorem drain_idle [BalancerTables P] (id : UInt32) : Idle (P := P) (drain id) :=
  fun held => drain_confined (fun _ _ => onHost_idle _ held) (fun _ => onHost_idle _ held)
    fun _ _ => rfl

theorem checkDrained_idle [BalancerTables P] (b : Backend) : Idle (P := P) (checkDrained b) :=
  fun held => checkDrained_confined (onHost_idle _ held)

theorem detachDevice_step [Attacher P] (s : Service (Journal P)) (held : Nat) (ifindex : UInt32) :
    (detachDevice ifindex).Ensures s fun _ t => (s.ledger held).Step none (t.ledger held) := by
  refine .get_bind ?_
  split
  · rename_i link known
    exact .set_bind (.onPart (Journal.ensures_attempt fun answer host => .unlinked _ link known _))
  · exact .pure .quiet

theorem detaching {β : Type} {c : Prop} [Decidable c] {act : Action (Service (Journal P)) Unit}
    {next : Unit → Action (Service (Journal P)) β} {s : Service (Journal P)} {held : Nat}
    (h : act.Ensures s fun _ t => (s.ledger held).Step none (t.ledger held))
    (h' : ∀ a, Confined (Same fun s => s.ledger held) (next a)) :
    (if c then act >>= next else next ()).Ensures s fun _ t =>
      (s.ledger held).Step none (t.ledger held) := by
  split
  · refine .bind (h.mono ?_)
    rintro (e | a) t step
    · exact step
    · refine (h' a t).mono fun _ u same => ?_
      rw [show u.ledger held = t.ledger held from same]
      exact step
  · refine (h' () s).mono fun _ t same => ?_
    rw [show t.ledger held = s.ledger held from same]
    exact .quiet

theorem delete_step [BalancerTables P] [Attacher P] (s : Service (Journal P)) (held : Nat)
    (id : UInt32) :
    (delete id).Ensures s fun _ t => (s.ledger held).Step none (t.ledger held) := by
  refine .get_bind ?_
  split
  · rename_i b known
    refine .bind ((checkDrained_idle b held s).mono ?_)
    rintro (e | recorded) t same
    · exact (show t.ledger held = s.ledger held from same) ▸ .quiet
    · rw [← show t.ledger held = s.ledger held from same]
      refine .get_bind (detaching (detachDevice_step t held _) fun _ => ?_)
      refine .guarded (onHost_idle _ held) fun _ => ?_
      split
      · refine .bind (onHost_idle _ held) fun _ => .bind (.modify fun _ => rfl) fun _ => .note _
      · refine .bind (onHost_idle _ held) fun _ => .bind .get fun s => ?_
        refine .guarded (onHost_idle _ held) fun _ => ?_
        exact .bind (.modify fun _ => rfl) fun _ => .note _
  · exact .pure .quiet

end Service
end Balancer
end EdgeControl
