import EdgeControl.Program
import EdgeControl.Proofs.Agent.Filling
import EdgeControl.Proofs.Agent.Links
import EdgeControl.Proofs.Kernel.Loading

/-!
However an agent ends, every link that it was given has been given back once: when its configuration
cannot be installed, when the device that faces the clients cannot be attached, and when it leaves
after any course of events.
-/
namespace EdgeControl

open EdgeControl.Action

namespace Agent

def lentTo : Option Link → UInt32 → Nat
  | none => fun _ => 0
  | some link => oneMore link.ifindex fun _ => 0

theorem withLinks_empty (others : UInt32 → Nat) :
    Balancer.Service.withLinks others ∅ = others := by
  funext d
  simp [Balancer.Service.withLinks]

theorem withLinks_oneMore (d : UInt32) (others : UInt32 → Nat)
    (links : Std.ExtTreeMap UInt32 Link) :
    Balancer.Service.withLinks (oneMore d others) links =
      oneMore d (Balancer.Service.withLinks others links) := by
  funext i
  exact Nat.add_right_comm _ _ _

variable {P : Type} [Attacher P] [Lender P] {a b : Agent P}

def Accounted (a : Agent P) : Prop := a.balancer.Accounted (lentTo a.held)

/-- No link is held any more, and the host has everything back. -/
structure Vacated (a : Agent P) : Prop where
  held : a.held = none
  links : a.balancer.links = ∅
  lends : Lender.Lends a.base fun _ => 0

theorem accounted_of_empty (empty : a.balancer.links = ∅) :
    a.Accounted ↔ Lender.Lends a.base (lentTo a.held) := by
  constructor
  · intro h
    have lends := h.lends
    rw [empty, withLinks_empty] at lends
    exact lends
  · intro lends
    constructor
    · intro d link known
      rw [empty] at known
      simp at known
    · rw [empty, withLinks_empty]
      exact lends

theorem Vacated.accounted (h : a.Vacated) : a.Accounted := by
  rw [accounted_of_empty h.links, h.held]
  exact h.lends

theorem Accounted.of_calm (h : a.Accounted) (calm : Calm Balancer.Service.Accounts a b) :
    b.Accounted := by
  rw [Accounted, calm.held]
  exact calm.balancer _ h

theorem attachFrontend_accounted (h : a.Accounted) (free : a.held = none) :
    attachFrontend.Ensures a fun r t => t.Accounted ∧ ((∃ e, r = .error e) → t.held = none) := by
  refine .bind (.onPart (.get_bind (.bind (.onPart ((Lender.attach _ h.lends).mono ?_)))))
  rintro _ base (⟨e, rfl, lends⟩ | ⟨rfl, lends⟩)
  · exact ⟨⟨h.named, lends⟩, fun _ => free⟩
  · rw [free, ← withLinks_oneMore] at lends
    exact .note_bind (.pure (.modify_bind (.pure ⟨⟨h.named, lends⟩, fun ⟨_, failed⟩ =>
      nomatch failed⟩)))

theorem detachFrontend_vacates (h : a.Accounted) (empty : a.balancer.links = ∅) :
    detachFrontend.Ensures a fun _ t => t.Vacated := by
  have lends := (accounted_of_empty empty).mp h
  refine .get_bind (.set_bind ?_)
  cases held : a.held with
  | none =>
    rw [held] at lends
    exact .pure ⟨rfl, empty, lends⟩
  | some link =>
    rw [held] at lends
    exact .onPart (.onPart ((Lender.detach link lends).mono fun _ base lends =>
      ⟨rfl, empty, lends⟩))

section Ends

variable [BalancerTables P] [BalancerTables.Within (Lender.Keeps (P := P))]

theorem shutdown_accounted (h : a.Accounted) :
    (onBalancer Balancer.Service.shutdown).Ensures a fun r t =>
      r = .ok () ∧ t.held = a.held ∧ t.balancer.links = ∅ ∧ t.Accounted := by
  refine .onPart ((Balancer.Service.shutdown_lends h).mono ?_)
  rintro _ s ⟨rfl, empty, lends⟩
  exact ⟨rfl, rfl, empty, (accounted_of_empty (a := a.withBalancer s) empty).mpr lends⟩

theorem leave_vacates (h : a.Accounted) : leave.Ensures a fun r t => r = .ok () ∧ t.Vacated := by
  refine .note_bind (.note_bind (.bind ((shutdown_accounted h).mono ?_)))
  rintro _ s ⟨rfl, -, empty, accounted⟩
  refine .note_bind (.bind (.result ((detachFrontend_vacates accounted empty).mono ?_)))
  rintro (e | _) t vacated
  · exact .note_bind (.note_bind (.note ⟨rfl, vacated⟩))
  · exact .note_bind (.note ⟨rfl, vacated⟩)

theorem attachOrShutDown_accounted (h : a.Accounted) (free : a.held = none) :
    attachOrShutDown.Ensures a fun r t =>
      (r = .ok () ∧ t.Accounted) ∨ ((∃ e, r = .error e) ∧ t.Vacated) := by
  refine .bind (.result ((attachFrontend_accounted h free).mono ?_))
  rintro (e | d) s ⟨accounted, kept⟩
  · refine .bind ((shutdown_accounted accounted).mono ?_)
    rintro _ t ⟨rfl, held, empty, accounted⟩
    have free : t.held = none := held.trans (kept ⟨e, rfl⟩)
    have lends := (accounted_of_empty empty).mp accounted
    rw [free] at lends
    exact .throw (.inr ⟨⟨e, rfl⟩, free, empty, lends⟩)
  · exact .pure (.inl ⟨rfl, accounted⟩)

end Ends

/-! ### The whole life -/

section Life

variable [FirewallTables P] [BalancerTables P] [Neighbors P]
  [FirewallTables.Within (Lender.Keeps (P := P))] [BalancerTables.Within (Lender.Keeps (P := P))]
  [Neighbors.Within (Lender.Keeps (P := P))]

/-- Until the backends are registered nothing is attached. -/
structure Idle (s t : Balancer.Service P) : Prop where
  links : t.links = s.links
  keeps : Lender.Keeps s.base t.base

instance : Std.Refl (Idle (P := P)) := ⟨fun _ => ⟨rfl, Std.Refl.refl _⟩⟩

instance : Trans (Idle (P := P)) Idle Idle :=
  ⟨fun first rest => ⟨rest.links.trans first.links, Trans.trans first.keeps rest.keeps⟩⟩

theorem populate_accounted (c : Config) (h : a.Vacated) :
    (populate c).Ensures a fun r t =>
      (r = .ok () ∧ t.Accounted) ∨ ((∃ e, r = .error e) ∧ t.Vacated) := by
  have lifts : Balancer.Service.Lifts Lender.Keeps (Idle (P := P)) := ⟨fun _ _ keeps => ⟨rfl, keeps⟩⟩
  refine (populate_cases lifts Balancer.Service.covers_accounts c a).mono ?_
  rintro r t (⟨failed, calm⟩ | ⟨f, -, calm, last⟩)
  · refine .inr ⟨failed, calm.held.trans h.held, calm.balancer.links.trans h.links, ?_⟩
    exact calm.balancer.keeps _ h.lends
  · have accounted : f.Accounted := h.accounted.of_calm calm
    exact (attachOrShutDown_accounted accounted (calm.held.trans h.held)).of_yields last

variable [FloodCounters P] [FlowTable P] [PacketCounters P]
  [FloodCounters.Within (Lender.Keeps (P := P))] [FlowTable.Within (Lender.Keeps (P := P))]
  [PacketCounters.Within (Lender.Keeps (P := P))]

theorem live_vacates (c : Config) (h : a.Vacated) (orders : List Order) :
    (live c (carryOut orders)).Ensures a fun _ t => t.Vacated := by
  have meanwhile (s : Agent P) (accounted : s.Accounted) :
      (discard (carryOut orders).result : Action (Agent P) Unit).Ensures s
        fun r t => r = .ok () ∧ t.Accounted := by
    intro log
    have calm := carryOut_calm Balancer.Service.covers_accounts
      (fun _ _ _ h => ⟨h.named, h.lends⟩) orders s log
    exact ⟨rfl, accounted.of_calm calm⟩
  refine .bind ((populate_accounted c h).mono ?_)
  rintro (e | _) s (⟨answer, accounted⟩ | ⟨⟨_, answer⟩, vacated⟩)
  · cases answer
  · exact vacated
  · refine .bind ((meanwhile s accounted).mono ?_)
    rintro _ t ⟨rfl, accounted⟩
    exact (leave_vacates accounted).mono fun _ _ left => left.2
  · cases answer

end Life

/-! ### Every link -/

/-- An agent that has done nothing yet, with a journal of the attempts on its host. -/
def journalled {P : Type} (device : String) (settings : Flow.Settings)
    (frontend : Balancer.Frontend) (host : P) : Agent (Journal P) where
  device := device
  balancer := {settings, frontend, base := {host}}

theorem journalled_vacated {P : Type} [Attacher P] (device : String) (settings : Flow.Settings)
    (frontend : Balancer.Frontend) (host : P) :
    (journalled device settings frontend host).Vacated :=
  ⟨rfl, rfl, fun _ => rfl⟩

theorem Blank.vacated {a : Agent Kernel} (h : a.Blank) : a.Vacated := by
  refine ⟨h.held, h.links, fun d => ?_⟩
  rw [h.attached]
  simp

theorem Vacated.unattached {a : Agent Kernel} (h : a.Vacated) : a.base.attached.toList = [] := by
  apply List.eq_nil_iff_forall_not_mem.mpr
  intro d member
  have none := h.lends d
  rw [Std.ExtTreeSet.mem_toList] at member
  simp [member] at none

theorem serve_left (s : Surroundings) (c : Config) : (Program.serve s c).left = [] := by
  unfold Program.serve
  split
  · rfl
  · rename_i a log set
    have blank : a.Blank := setUp_blank c s.host _ #[] a (congrArg Prod.fst set)
    have populated := populate_accounted c blank.vacated log
    generalize (populate c).outcome a log = o at populated
    obtain ⟨r, t, log⟩ := o
    rcases populated with ⟨rfl, accounted⟩ | ⟨⟨e, rfl⟩, vacated⟩
    · exact (leave_vacates accounted log).2.unattached
    · exact vacated.unattached

variable {P : Type} [FirewallTables P] [BalancerTables P] [Neighbors P] [Attacher P]

theorem populate_order (c : Config) (a : Agent (Journal P)) (free : a.held = none) :
    (populate c).Ensures a fun r t =>
      (∃ e, r = .error e) ∧ t.held = none ∧ t.base.attempts = a.base.attempts ∨
        ∃ f, Filled c a f ∧ f.held = none ∧ attachOrShutDown.Yields f r t := by
  have lifts : Balancer.Service.Lifts (Same (Journal.attempts : Journal P → _))
      (Same fun s : Balancer.Service (Journal P) => s.base.attempts) := ⟨fun _ _ same => same⟩
  have covers : Balancer.Service.Covers (Same (Journal.attempts : Journal P → _)) Anything :=
    ⟨⟨fun _ _ _ => trivial⟩, fun _ _ => trivial, fun _ _ => confined_anything _,
      fun _ => confined_anything _⟩
  refine (populate_cases lifts covers c a).mono ?_
  rintro r t (⟨failed, calm⟩ | ⟨f, filled, calm, last⟩)
  · exact .inl ⟨failed, calm.held.trans free, calm.balancer⟩
  · exact .inr ⟨f, filled, calm.held.trans free, last⟩

variable [FloodCounters P] [FlowTable P] [PacketCounters P]

/-- The device that faces the clients is attached when everything else is in place, and every link
that was made is given back once. -/
structure Tidy (c : Config) (a : Agent (Journal P)) (orders : List Order) : Prop where
  order : (populate c).Ensures a fun r t =>
    (∃ e, r = .error e) ∧ t.held = none ∧ t.base.attempts = a.base.attempts ∨
      ∃ f, Filled c a f ∧ f.held = none ∧ attachOrShutDown.Yields f r t
  released : (live c (carryOut orders)).Ensures a fun _ t =>
    t.held = none ∧ t.balancer.links = ∅ ∧
      ∀ d, t.base.attempts.count (.attach d true) =
        t.base.attempts.count (.detach d true) + t.base.attempts.count (.detach d false)

end Agent
end EdgeControl
